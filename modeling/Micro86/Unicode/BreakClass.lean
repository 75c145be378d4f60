import Micro86.Unicode.Runs

/-!
What a character is to the end of a line (Unicode 17).

Letters of scripts whose words are not set apart count as letters, and small kana as characters that
do not start a line.
-/

namespace Micro86.Unicode

inductive BreakClass where
  | hardBreak
  | carriageReturn
  | lineFeed
  | nextLine
  | blank
  | zeroWidthBlank
  | wordJoiner
  /-- Keeps what is on both sides of it. -/
  | glue
  /-- Joins the character before it, as controls do, too. -/
  | mark
  | joiner
  | opening
  | closing
  | closingParenthesis
  | exclamation
  | slash
  /-- Separates the digits of a number, or ends a clause. -/
  | separator
  /-- Opens or closes a quotation; some quotes do both. -/
  | quotation
  /-- Does not start a line. -/
  | nonstarter
  | dash
  | breakAfter
  | breakBefore
  | hyphen
  /-- A hyphen that is no minus sign. -/
  | clearHyphen
  /-- Stands for something set in the text, as a picture. -/
  | object
  /-- A row of dots. -/
  | leader
  | digit
  /-- Comes before a number, as the sign of a currency does. -/
  | unitBefore
  /-- Comes after a number, as the percent sign does. -/
  | unitAfter
  | hebrewLetter
  | ideograph
  /-- A pictograph of somebody. -/
  | figure
  /-- Colors the figure before it. -/
  | skinTone
  /-- Half of a flag. -/
  | regional
  | jamoLead
  | jamoVowel
  | jamoTail
  | openSyllable
  | closedSyllable
  | aksara
  | aksaraStart
  | aksaraPrebase
  | viramaFinal
  | virama
  /-- Any character that is in no other class. -/
  | letter
  deriving DecidableEq, Repr

namespace BreakClass

/-- The syllables that are written as one character, from the first one on. -/
def firstSyllable : Nat := 0xac00

def lastSyllable : Nat := 0xd7a3

/-- How many syllables have the same start. -/
def syllablesPerStart : Nat := 28

/-- The classes that are given by a list of characters. -/
def listed : List BreakClass :=
  [.hardBreak, .carriageReturn, .lineFeed, .nextLine, .blank, .zeroWidthBlank, .wordJoiner,
    .glue, .mark, .joiner, .opening, .closing, .closingParenthesis, .exclamation, .slash,
    .separator, .quotation, .nonstarter, .dash, .breakAfter, .breakBefore, .hyphen, .clearHyphen,
    .object, .leader, .digit, .unitBefore, .unitAfter, .hebrewLetter, .ideograph, .figure,
    .skinTone, .regional, .jamoLead, .jamoVowel, .jamoTail, .aksara, .aksaraStart, .aksaraPrebase,
    .viramaFinal, .virama]

/-- The characters of a class, if it is given by a list of them. -/
def runs : BreakClass → Runs
  | .hardBreak => [11, 2, 8219, 2]
  | .carriageReturn => [13, 1]
  | .lineFeed => [10, 1]
  | .nextLine => [133, 1]
  | .blank => [32, 1]
  | .zeroWidthBlank => [8203, 1]
  | .wordJoiner => [8288, 1, 56990, 1]
  | .glue =>
    [160, 1, 699, 7, 2981, 1, 3, 1, 5, 1, 198, 2, 2099, 1, 732, 1, 737, 1, 46, 1, 522, 1, 9, 1, 29,
      1, 56816, 1, 1, 1, 1, 1, 1, 2, 1, 1, 1, 1, 1, 2, 4688, 1, 9136, 7, 2, 3, 15272, 1]
  | .mark =>
    [0, 9, 5, 18, 95, 6, 1, 26, 608, 92, 7, 13, 275, 7, 263, 45, 1, 1, 1, 2, 1, 2, 1, 1, 72, 11, 1,
      1, 46, 21, 16, 1, 101, 7, 2, 6, 2, 2, 1, 4, 35, 1, 30, 27, 91, 11, 58, 9, 9, 1, 24, 4, 1, 9,
      1, 3, 1, 5, 43, 3, 59, 9, 42, 24, 1, 33, 54, 3, 1, 18, 1, 7, 10, 2, 29, 3, 56, 1, 1, 7, 2, 2,
      2, 3, 9, 1, 10, 2, 26, 1, 2, 3, 56, 1, 1, 5, 4, 2, 2, 3, 3, 1, 30, 2, 3, 1, 11, 3, 56, 1, 1,
      8, 1, 3, 1, 3, 20, 2, 22, 6, 1, 3, 56, 1, 1, 7, 2, 2, 2, 3, 7, 3, 10, 2, 30, 1, 59, 5, 3, 3,
      1, 4, 9, 1, 40, 5, 55, 1, 1, 7, 1, 3, 1, 4, 7, 2, 11, 2, 29, 3, 56, 1, 1, 7, 1, 3, 1, 4, 7, 2,
      11, 2, 15, 1, 12, 4, 55, 2, 1, 7, 1, 3, 1, 4, 9, 1, 10, 2, 29, 3, 70, 1, 4, 6, 1, 1, 1, 8, 18,
      2, 61, 1, 2, 7, 12, 8, 98, 1, 2, 9, 11, 7, 73, 2, 27, 1, 1, 1, 1, 1, 4, 2, 49, 14, 1, 5, 1, 2,
      5, 11, 1, 36, 9, 1, 100, 20, 23, 4, 4, 3, 1, 3, 2, 7, 3, 4, 13, 12, 1, 1, 10, 4, 703, 3, 946,
      4, 28, 3, 29, 2, 30, 2, 64, 32, 9, 1, 45, 3, 1, 1, 117, 2, 34, 1, 118, 12, 4, 12, 219, 5, 57,
      10, 1, 29, 2, 1, 48, 46, 2, 11, 21, 5, 47, 16, 39, 9, 12, 3, 30, 13, 56, 12, 50, 20, 152, 3,
      1, 21, 4, 1, 6, 1, 2, 3, 198, 13, 1, 46, 1, 3, 524, 1, 1, 2, 26, 5, 55, 10, 96, 33, 3070, 3,
      141, 1, 96, 32, 554, 6, 5, 1, 99, 2, 30164, 4, 1, 10, 32, 2, 80, 2, 272, 1, 3, 1, 4, 1, 23, 5,
      4, 1, 83, 2, 50, 18, 26, 18, 13, 1, 38, 8, 25, 13, 44, 4, 47, 13, 37, 1, 67, 14, 12, 1, 8, 2,
      45, 3, 50, 1, 1, 3, 2, 2, 5, 2, 1, 1, 41, 5, 5, 2, 236, 8, 1, 2, 20272, 1, 737, 16, 17, 1, 1,
      1, 1, 1, 2, 1, 1, 1, 1, 1, 2, 1, 457, 3, 513, 1, 226, 1, 149, 5, 1670, 3, 1, 2, 5, 4, 40, 3,
      4, 1, 165, 2, 573, 4, 65, 5, 317, 2, 77, 6, 70, 11, 49, 4, 122, 3, 53, 14, 42, 1, 2, 2, 11, 3,
      45, 11, 7, 1, 61, 3, 36, 14, 16, 2, 44, 1, 12, 3, 48, 14, 8, 4, 1, 2, 92, 12, 6, 1, 2, 1, 157,
      12, 21, 4, 55, 2, 1, 7, 2, 2, 2, 2, 10, 1, 10, 2, 2, 7, 3, 5, 67, 9, 1, 1, 2, 1, 1, 4, 1, 4,
      2, 1, 14, 2, 82, 18, 23, 1, 81, 20, 235, 7, 2, 9, 27, 2, 82, 17, 106, 13, 101, 15, 256, 15,
      245, 6, 1, 2, 2, 3, 2, 1, 1, 2, 141, 7, 2, 7, 3, 1, 28, 10, 40, 7, 1, 4, 8, 1, 9, 11, 46, 16,
      198, 8, 199, 8, 1, 8, 82, 22, 1, 14, 122, 6, 3, 1, 1, 2, 1, 7, 1, 1, 66, 5, 1, 2, 1, 5, 347,
      4, 9, 2, 1, 1, 48, 7, 3, 4, 24, 1, 5349, 1, 6, 15, 11464, 18, 2496, 5, 59, 7, 1048, 1, 1, 55,
      7, 4, 93, 2, 19627, 2, 1, 4, 4700, 46, 2, 23, 542, 5, 3, 22, 2, 7, 30, 4, 148, 3, 1979, 55, 4,
      50, 8, 1, 14, 1, 22, 5, 1, 15, 1360, 7, 1, 17, 2, 7, 1, 2, 1, 5, 100, 1, 160, 7, 375, 1, 61,
      4, 508, 4, 254, 2, 243, 1, 2, 1, 7, 2, 5, 1, 474, 7, 109, 7, 792246, 1, 30, 96, 128, 240]
  | .joiner => [8205, 1]
  | .opening =>
    [40, 1, 50, 1, 31, 1, 37, 1, 29, 1, 3706, 1, 1, 1, 1886, 1, 2430, 1, 3, 1, 38, 1, 55, 1, 15, 1,
      634, 1, 1, 1, 30, 1, 1086, 1, 1, 1, 1, 1, 1, 1, 1, 1, 1, 1, 1, 1, 80, 1, 32, 1, 1, 1, 1, 1, 1,
      1, 1, 1, 404, 1, 1, 1, 1, 1, 1, 1, 1, 1, 1, 1, 1, 1, 1, 1, 1, 1, 1, 1, 1, 1, 64, 1, 1, 1, 33,
      1, 1051, 1, 9, 1, 1, 1, 1, 1, 1, 1, 25, 1, 18, 1, 1, 1, 1, 1, 1, 1, 428, 1, 1, 1, 1, 1, 1, 1,
      1, 1, 3, 1, 1, 1, 1, 1, 1, 1, 2, 1, 52513, 1, 215, 1, 29, 1, 1, 1, 1, 1, 1, 1, 1, 1, 1, 1, 1,
      1, 1, 1, 3, 1, 17, 1, 1, 1, 1, 1, 170, 1, 50, 1, 31, 1, 3, 1, 2, 1, 13045, 3, 43, 1, 1, 1,
      240, 1, 181, 1, 7, 1, 4, 1, 1, 1, 4495, 1, 41871, 2]
  | .closing =>
    [125, 1, 3773, 1, 1, 1, 1886, 1, 2473, 1, 55, 1, 15, 1, 634, 1, 1, 1, 30, 1, 1086, 1, 1, 1, 1,
      1, 1, 1, 1, 1, 1, 1, 1, 1, 80, 1, 32, 1, 1, 1, 1, 1, 1, 1, 1, 1, 404, 1, 1, 1, 1, 1, 1, 1, 1,
      1, 1, 1, 1, 1, 1, 1, 1, 1, 1, 1, 1, 1, 64, 1, 1, 1, 33, 1, 1061, 1, 1, 1, 1, 1, 1, 1, 471, 2,
      6, 1, 1, 1, 1, 1, 1, 1, 1, 1, 3, 1, 1, 1, 1, 1, 1, 1, 2, 2, 52510, 1, 209, 3, 5, 1, 29, 1, 1,
      1, 1, 1, 1, 1, 1, 1, 1, 1, 1, 1, 1, 1, 3, 1, 7, 1, 1, 1, 7, 1, 1, 1, 1, 1, 170, 1, 2, 1, 1, 1,
      46, 1, 31, 1, 2, 2, 1, 2, 13046, 3, 36, 1, 4, 1, 1, 1, 240, 2, 188, 1, 4, 1, 1, 1, 4495, 1]
  | .closingParenthesis => [41, 1, 51, 1, 11768, 1, 1, 1, 1, 1, 1, 1]
  | .exclamation =>
    [33, 1, 29, 1, 1414, 1, 84, 1, 1, 3, 180, 1, 292, 1, 1811, 5, 2, 1, 2285, 2, 4, 2, 314, 2,
      3612, 2, 1429, 1, 4, 1, 303, 1, 36, 2, 30649, 1, 615, 2, 21917, 2, 63, 2, 169, 1, 29, 1, 5796,
      2, 1707, 1]
  | .slash => [47, 1]
  | .separator => [44, 1, 1, 1, 11, 2, 834, 1, 522, 1, 130, 2, 490, 1, 6219, 1]
  | .quotation =>
    [34, 1, 4, 1, 131, 1, 15, 1, 8028, 2, 1, 3, 1, 1, 25, 2, 1824, 6, 1695, 14, 14, 2, 2, 2,
      116820, 3]
  | .nonstarter =>
    [6102, 1, 2149, 2, 9, 3, 4027, 1, 22, 1, 30, 2, 4, 1, 1, 1, 1, 1, 1, 1, 1, 1, 25, 1, 31, 1, 1,
      1, 1, 1, 6, 1, 6, 2, 4, 4, 1, 2, 1, 1, 1, 1, 1, 1, 1, 1, 25, 1, 31, 1, 1, 1, 1, 1, 6, 1, 6, 2,
      4, 4, 241, 16, 28181, 1, 24061, 2, 63, 2, 196, 2, 73, 1, 1, 10, 45, 2, 28736, 4, 14, 2, 16702,
      1, 29, 3, 2, 1, 14, 4, 17681, 3]
  | .dash => [8212, 1, 3621, 2]
  | .breakAfter =>
    [9, 1, 114, 1, 48, 1, 2230, 2, 1268, 2, 175, 1, 40, 1, 74, 1, 5, 1, 56, 2, 18, 1, 119, 2, 789,
      1, 798, 1, 106, 3, 71, 2, 157, 2, 2, 1, 1, 1, 41, 2, 840, 2, 10, 2, 1, 4, 28, 3, 187, 5, 62,
      2, 896, 7, 1, 3, 28, 1, 46, 1, 1, 4, 1, 3, 1952, 1, 1273, 3, 2, 1, 112, 1, 157, 8, 3, 1, 16,
      4, 2, 2, 1, 2, 7, 3, 2, 1, 1, 8, 1, 1, 1, 2, 432, 1, 29949, 2, 269, 1, 1, 1, 227, 5, 470, 2,
      94, 2, 151, 3, 5, 1, 112, 3, 1, 8, 17, 3, 144, 2, 249, 1, 21780, 3, 668, 1, 48, 1, 1158, 1,
      199, 1, 304, 8, 152, 6, 67, 7, 912, 1, 374, 2, 117, 4, 126, 4, 129, 2, 1, 1, 20, 3, 88, 2, 1,
      2, 108, 1, 147, 1, 31, 1, 237, 4, 11, 2, 358, 2, 5, 15, 105, 2, 249, 3, 517, 3, 250, 4, 85, 3,
      4, 2, 414, 5, 684, 1, 4, 2, 74, 2, 186, 1, 1136, 5, 17913, 2, 133, 1, 65, 3, 10, 1, 553, 2,
      295, 2, 19974, 1, 7655, 4]
  | .breakBefore =>
    [180, 1, 531, 1, 3, 1, 18, 1, 2455, 1, 12, 1, 636, 4, 1, 2, 1, 2, 197, 2, 1, 1, 2098, 1, 2038,
      1, 34934, 2, 134, 1, 26744, 1, 101, 1, 997, 1, 158, 13, 885, 1, 92, 1, 5, 1, 88, 3, 95, 10,
      358, 1]
  | .hyphen => [45, 1]
  | .clearHyphen =>
    [1418, 1, 51, 1, 3649, 1, 3087, 1, 1, 2, 3587, 1, 40, 1, 28, 1, 57104, 1, 318, 1]
  | .object => [65532, 1]
  | .leader => [8228, 3, 712, 1, 56105, 1, 3292, 1]
  | .digit =>
    [48, 10, 1478, 6, 90, 10, 1, 2, 112, 1, 18, 10, 198, 10, 198, 2, 80, 1, 131, 10, 118, 10, 118,
      10, 118, 10, 118, 10, 118, 10, 118, 10, 118, 10, 118, 10, 118, 10, 96, 10, 118, 10, 70, 10,
      278, 10, 70, 10, 1862, 10, 38, 10, 300, 10, 128, 11, 165, 10, 6, 10, 278, 10, 134, 10, 6, 10,
      35270, 10, 678, 10, 38, 10, 230, 10, 502, 10, 22694, 10, 2182, 10, 6, 10, 883, 1, 15, 1, 34,
      10, 60, 10, 144, 10, 278, 10, 342, 10, 118, 10, 374, 10, 102, 10, 6, 20, 76, 10, 422, 10, 774,
      10, 86, 10, 246, 10, 70, 10, 54, 10, 19574, 10, 86, 10, 134, 10, 534, 10, 24438, 10, 2772, 50,
      2368, 10, 422, 10, 502, 10, 247, 10, 853, 10, 4758, 10]
  | .unitBefore =>
    [36, 1, 6, 1, 48, 1, 70, 3, 11, 1, 1245, 1, 622, 2, 507, 1, 245, 1, 263, 1, 581, 1, 2459, 1,
      2244, 7, 1, 14, 1, 4, 1, 2, 1, 1, 1, 15, 70, 1, 251, 2, 56405, 1, 154, 1, 220, 1, 3, 2, 58136,
      1]
  | .unitAfter =>
    [37, 1, 124, 1, 13, 1, 1368, 3, 94, 1, 903, 2, 5, 1, 895, 1, 4790, 8, 31, 1, 79, 1, 14, 1, 4,
      1, 2, 1, 1, 1, 66, 1, 5, 1, 34606, 1, 21955, 1, 109, 1, 154, 1, 218, 1, 8188, 4, 52427, 1, 3,
      1]
  | .hebrewLetter => [1488, 27, 4, 4, 62762, 1, 1, 10, 1, 13, 1, 5, 1, 1, 1, 2, 1, 2, 1, 10]
  | .ideograph =>
    [7004, 1, 4, 10, 9, 9, 1949, 2, 212, 4, 524, 4, 16, 2, 2, 1, 1, 3, 1, 2, 25, 3, 44, 1, 22, 1,
      61, 12, 4, 1, 1, 3, 1, 2, 3, 2, 2, 1, 2, 3, 8, 1, 6, 5, 1, 2, 1, 1, 2, 8, 3, 2, 90, 1, 1819,
      26, 1, 89, 12, 214, 26, 16, 3, 2, 1, 2, 10, 2, 12, 10, 6, 5, 1, 5, 2, 3, 2, 1, 1, 1, 1, 1, 1,
      1, 1, 25, 1, 31, 1, 1, 1, 1, 1, 6, 1, 6, 10, 1, 2, 1, 1, 1, 1, 1, 1, 1, 1, 25, 1, 31, 1, 1, 1,
      1, 1, 6, 1, 6, 2, 4, 4, 1, 5, 43, 1, 94, 1, 86, 9, 1, 16, 31, 1, 40, 8, 7024, 64, 21013, 1,
      1143, 3, 55, 1274, 6, 3, 4, 16, 2, 124, 1, 20131, 512, 816, 5, 16, 2, 2, 7, 1, 1, 6, 1, 6, 8,
      1, 1, 2, 1, 150, 2, 2, 2, 2, 2, 1, 1, 1, 11, 2, 3, 1, 27, 1, 1, 1, 29, 1, 1, 1, 1, 7, 1, 10,
      45, 2, 31, 3, 6, 2, 6, 2, 6, 2, 3, 5, 3, 4196, 5, 4, 20, 849, 1, 27, 3, 1, 2, 2924, 11, 20644,
      3, 9, 6912, 512, 31, 97, 115, 8717, 291, 77, 396, 15620, 256, 174, 56, 26, 389, 1, 22, 2, 23,
      2, 5, 1, 5, 3, 2, 1, 2, 3, 46, 5, 66, 2, 2, 11, 21, 19, 3, 1, 4, 3, 1, 3, 7, 1, 1, 1, 14, 1,
      1, 1, 1, 1, 5, 1, 4, 1, 1, 2, 77, 7, 16, 14, 13, 24, 42, 2, 4, 1, 21, 1, 4, 2, 61, 8, 24, 6,
      75, 3, 3, 53, 35, 1, 16, 3, 9, 1, 11, 1, 51, 116, 3, 4, 5, 85, 43, 269, 2, 1, 8, 8, 6, 1, 9,
      10, 2, 3, 56, 1, 61, 2, 1, 2, 1, 1, 17, 3, 1, 13, 34, 88, 107, 3, 42, 9, 7, 256, 1022, 2,
      65534, 2, 65534]
  | .figure =>
    [9757, 1, 219, 1, 16, 4, 117879, 1, 60, 3, 2, 1, 2, 3, 117, 2, 2, 11, 21, 19, 3, 1, 4, 3, 1, 3,
      7, 1, 1, 1, 24, 1, 201, 2, 4, 1, 21, 1, 4, 2, 174, 3, 3, 5, 83, 1, 16, 3, 9, 1, 11, 1, 575, 1,
      2, 1, 8, 8, 6, 1, 9, 10, 2, 3, 56, 1, 61, 2, 1, 2, 1, 1, 17, 3, 1, 13, 229, 3, 42, 9]
  | .skinTone => [127995, 5]
  | .regional => [127462, 26]
  | .jamoLead => [4352, 96, 38912, 29]
  | .jamoVowel => [4448, 72, 50696, 23]
  | .jamoTail => [4520, 88, 50635, 49]
  | .aksara =>
    [6917, 47, 17, 8, 36407, 47, 26194, 51, 57, 2, 2, 1, 655, 8, 2, 2, 2, 22, 1, 7, 1, 2, 1, 5, 38,
      2, 48, 36, 1354, 7, 2, 1, 2, 8, 1, 2, 1, 24, 1492, 13, 1, 34]
  | .aksaraStart =>
    [6992, 10, 102, 38, 36330, 10, 38, 41, 39, 10, 26124, 10, 736, 1, 13, 2, 32, 10, 1, 1, 2, 1, 1,
      2, 1470, 10, 1414, 18, 94, 10, 16806, 30, 18, 10]
  | .aksaraPrebase => [69635, 2, 972, 1, 1389, 1, 1, 1, 1472, 1]
  | .viramaFinal => [7154, 2]
  | .virama => [6980, 1, 36475, 1, 26245, 1, 774, 1, 130, 1, 1389, 1, 1539, 1]
  | .letter | .openSyllable | .closedSyllable => []

/-- The class of the syllable at place `i` among all; the first of each start has no tail. -/
def ofSyllable (i : Nat) : BreakClass :=
  if i % syllablesPerStart = 0 then .openSyllable else .closedSyllable

def of (c : Char) : BreakClass :=
  if firstSyllable ≤ c.toNat ∧ c.toNat ≤ lastSyllable then ofSyllable (c.toNat - firstSyllable)
  else (listed.find? fun k => k.runs.has c).getD .letter

end BreakClass

end Micro86.Unicode
