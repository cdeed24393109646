import TestBench.Text.Ranges

/-! Blank characters, by the Unicode character database, version 14. -/
namespace TestBench.Text

def blankRanges : List (Nat × Nat) := [
  (9, 13), (28, 32), (133, 133), (160, 160), (5760, 5760), (8192, 8202), (8232, 8233),
  (8239, 8239), (8287, 8287), (12288, 12288)]

/-- A blank character: a space, a tab, a line break or an information separator. -/
def isBlank (c : Char) : Bool := inRanges blankRanges c.toNat

/-- The blanks that may surround a number: all but the four information separators. -/
def isNumberBlank (c : Char) : Bool := isBlank c && !(28 ≤ c.toNat && c.toNat ≤ 31)

/-- A text without the characters of a class at both of its ends. -/
def trim (p : Char → Bool) (cs : List Char) : List Char :=
  ((cs.dropWhile p).reverse.dropWhile p).reverse

end TestBench.Text
