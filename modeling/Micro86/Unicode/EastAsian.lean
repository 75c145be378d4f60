import Micro86.Unicode.Runs

/-!
Characters that are set in a wide or a half square in East Asian text (Unicode 17).
-/

namespace Micro86.Unicode

def eastAsian : Runs :=
  [4352, 96, 3913, 1, 624, 2, 13, 2, 190, 4, 3, 1, 2, 1, 521, 2, 21, 2, 26, 8, 16, 12, 43, 1, 10,
    6, 3, 1, 13, 1, 8, 2, 17, 2, 5, 2, 8, 1, 5, 1, 21, 1, 7, 2, 1, 1, 4, 1, 2, 1, 7, 1, 4, 2, 28, 1,
    35, 1, 1, 1, 4, 3, 1, 1, 61, 3, 24, 1, 14, 1, 859, 2, 51, 1, 4, 1, 810, 26, 1, 89, 12, 214, 26,
    79, 2, 86, 2, 103, 5, 43, 1, 94, 1, 86, 9, 48, 1, 40, 8, 29245, 3, 55, 1177, 29, 643, 11172,
    8540, 512, 784, 10, 22, 35, 1, 19, 1, 4, 149, 190, 3, 6, 2, 6, 2, 6, 2, 3, 3, 7, 1, 7, 28657, 5,
    11, 7, 9, 7382, 41, 32, 97, 115, 8701, 4, 1, 7, 1, 2, 1, 291, 15, 1, 29, 3, 2, 1, 14, 4, 8, 396,
    8196, 87, 9, 23, 7309, 1, 202, 1, 190, 1, 2, 10, 101, 3, 13, 44, 4, 9, 7, 2, 14, 6, 154, 33, 12,
    9, 1, 70, 1, 22, 12, 43, 4, 5, 12, 17, 3, 1, 3, 71, 1, 1, 1, 187, 2, 63, 13, 4, 1, 24, 18, 1,
    26, 2, 13, 1, 86, 85, 48, 70, 6, 1, 3, 3, 2, 4, 3, 4, 11, 2, 7, 9, 227, 12, 4, 1, 283, 47, 1,
    10, 1, 185, 112, 13, 3, 11, 3, 57, 1, 1, 4, 16, 2, 12, 4, 10, 1287, 65534, 2, 65534]

def isEastAsian (c : Char) : Bool :=
  eastAsian.has c

end Micro86.Unicode
