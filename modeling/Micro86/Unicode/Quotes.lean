/-!
Quotes that only open or only close a quotation (Unicode 17).
-/

namespace Micro86.Unicode

def openingQuotes : List Char :=
  ['\u00ab', '\u2018', '\u201b', '\u201c', '\u201f', '\u2039', '\u2e02', '\u2e04', '\u2e09',
    '\u2e0c', '\u2e1c', '\u2e20']

def closingQuotes : List Char :=
  ['\u00bb', '\u2019', '\u201d', '\u203a', '\u2e03', '\u2e05', '\u2e0a', '\u2e0d', '\u2e1d',
    '\u2e21']

end Micro86.Unicode
