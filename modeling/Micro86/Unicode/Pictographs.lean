import Micro86.Unicode.Runs

/-!
Code points that are kept for pictographs to come (Unicode 17).
-/

namespace Micro86.Unicode

def reservedPictographs : Runs :=
  [127020, 4, 100, 12, 15, 2, 15, 1, 15, 1, 37, 10, 174, 56, 29, 13, 44, 4, 9, 7, 2, 14, 6, 154,
    985, 3, 17, 3, 13, 3, 218, 6, 12, 4, 1, 15, 12, 4, 56, 8, 10, 6, 40, 8, 30, 2, 12, 4, 2, 14, 9,
    39, 344, 8, 14, 2, 13, 3, 11, 3, 57, 1, 1, 4, 16, 2, 12, 4, 10, 7, 256, 1022]

end Micro86.Unicode
