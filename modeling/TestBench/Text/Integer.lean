import TestBench.Text.Blank
import TestBench.Text.DecimalDigit
import TestBench.Text.Quoted

/-! Integers written as text, to a base from two to thirty-six: an optional sign, for the bases
two, eight and sixteen an optional mark, and digits of any script among which single underscores
may stand. Blanks may surround the whole. -/
namespace TestBench.Text.Integer

/-- Why a text is no integer. -/
inductive Fault
  | malformed (base : Nat) (text : List Char)
  | tooLong (digits : Nat)
  deriving DecidableEq, Repr

/-- To a base that is no power of two, no more digits than these are read. -/
def digitLimit : Nat := 4300

/-- A character with every decimal digit written in ASCII. -/
def asciiDigit (c : Char) : Char :=
  match decimalDigit? c with
  | some d => Nat.digitChar d
  | none => c

/-- The value of a digit to any base: the decimal digits, then the Latin letters. -/
def digitValue? (c : Char) : Option Nat :=
  if c.isDigit then some (c.toNat - '0'.toNat)
  else if 'a' ≤ c ∧ c ≤ 'z' then some (c.toNat - 'a'.toNat + 10)
  else if 'A' ≤ c ∧ c ≤ 'Z' then some (c.toNat - 'A'.toNat + 10)
  else none

def digitOf? (base : Nat) (c : Char) : Option Nat := (digitValue? c).filter (· < base)

def isDigitOrLine (base : Nat) (c : Char) : Bool := c == '_' || (digitOf? base c).isSome

/-- The values of digits with single underscores between them; the first flag tells whether a
digit stands right before. -/
def digits? (base : Nat) : Bool → List Char → Option (List Nat)
  | after, [] => if after then some [] else none
  | true, '_' :: cs => digits? base false cs
  | _, c :: cs => do
    let d ← digitOf? base c
    return d :: (← digits? base true cs)

def ofDigits (base : Nat) (ds : List Nat) : Nat := ds.foldl (fun n d => n * base + d) 0

def isMark (base : Nat) (c : Char) : Bool :=
  (base == 16 && (c == 'x' || c == 'X')) || (base == 8 && (c == 'o' || c == 'O')) ||
    (base == 2 && (c == 'b' || c == 'B'))

/-- Digits without the mark of their base, which one underscore may follow. -/
def withoutMark (base : Nat) : List Char → List Char
  | '0' :: mark :: cs =>
    if isMark base mark then
      match cs with
      | '_' :: rest => rest
      | cs => cs
    else '0' :: mark :: cs
  | cs => cs

/-- Does reading to this base need no limit on the number of digits? -/
def isPowerOfTwo (base : Nat) : Bool := [2, 4, 8, 16, 32].contains base

/-- Read an unsigned integer, behind which only blanks may stand. That there are too many digits is
seen before what stands behind them. -/
def readMagnitude (base : Nat) (text cs : List Char) : Except Fault Nat :=
  let cs := withoutMark base cs
  match digits? base false (cs.takeWhile (isDigitOrLine base)) with
  | none => .error (.malformed base text)
  | some ds =>
    if ds.length > digitLimit && !isPowerOfTwo base then .error (.tooLong ds.length)
    else if (cs.dropWhile (isDigitOrLine base)).all isNumberBlank then .ok (ofDigits base ds)
    else .error (.malformed base text)

def read (base : Nat) (text : List Char) : Except Fault Int :=
  match (text.dropWhile isNumberBlank).map asciiDigit with
  | '-' :: cs => (readMagnitude base text cs).map fun n => -(n : Int)
  | '+' :: cs => (readMagnitude base text cs).map fun n => (n : Int)
  | cs => (readMagnitude base text cs).map fun n => (n : Int)

def read? (text : List Char) : Option Int := (read 10 text).toOption

/-- What is wrong, in words. A long text is quoted in part. -/
def Fault.message : Fault → String
  | .malformed base text =>
    "invalid literal for int() with base " ++ toString base ++ ": "
      ++ String.ofList ((quoted text).take 200)
  | .tooLong digits =>
    "Exceeds the limit (" ++ toString digitLimit
      ++ " digits) for integer string conversion: value has "
      ++ toString digits ++ " digits; use sys.set_int_max_str_digits() to increase the limit"

example : read? " -1_0 ".toList = some (-10) := by decide +kernel

example : (read 16 "0x_ff".toList).toOption = some 255 := by decide +kernel

example : (read 16 "\uFF10x1F ".toList).toOption = some 31 := by decide +kernel

example : read? "1__0".toList = none := by decide +kernel

end TestBench.Text.Integer
