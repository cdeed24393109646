import TestBench.Double.Basic
import TestBench.Text.Integer

/-! Floating-point numbers written as text: an optional sign, then digits with a point or an
exponent, or one of the words for infinity and for no number. Digits may be of any script, single
underscores may stand between two of them, and blanks may surround the whole. -/
namespace TestBench.Double

open TestBench.Text

/-- A text without the underscores that stand between two digits; any other underscore spoils
it. The first argument is the character before. -/
def joined? : Char → List Char → Option (List Char)
  | before, [] => if before == '_' then none else some []
  | before, c :: cs =>
    if c == '_' then (if before.isDigit then joined? c cs else none)
    else if before == '_' && !c.isDigit then none
    else (joined? c cs).map (c :: ·)

/-- A decimal number in parts: the digits as one natural number, their count, and the power of ten
that its last digit stands for. -/
structure Parts where
  units : Nat
  digits : Nat
  exponent : Int

def ofDigits (ds : List Char) : Nat := ds.foldl (fun n d => n * 10 + (d.toNat - '0'.toNat)) 0

def exponent? : List Char → Option Int
  | [] => some 0
  | mark :: cs =>
    if mark == 'e' || mark == 'E' then
      let (negative, ds) := match cs with
        | '-' :: ds => (true, ds)
        | '+' :: ds => (false, ds)
        | ds => (false, ds)
      if ds.isEmpty || !ds.all Char.isDigit then none
      else some (if negative then -(ofDigits ds : Int) else ofDigits ds)
    else none

/-- The parts of an unsigned decimal number. -/
def parts? (cs : List Char) : Option Parts :=
  let whole := cs.takeWhile Char.isDigit
  let rest := cs.dropWhile Char.isDigit
  let (fraction, rest) := match rest with
    | '.' :: rest => (rest.takeWhile Char.isDigit, rest.dropWhile Char.isDigit)
    | rest => ([], rest)
  let ds := whole ++ fraction
  if ds.isEmpty then none
  else (exponent? rest).map fun x => ⟨ofDigits ds, ds.length, x - fraction.length⟩

/-- The floating-point number nearest to a decimal one. Beyond ten to the four-hundredth every
number is infinite, and below its inverse every one is zero. -/
def Parts.round (negative : Bool) (p : Parts) : Double :=
  if p.units = 0 then zero negative
  else if 400 < p.exponent then .infinite negative
  else if p.exponent + p.digits < -400 then zero negative
  else if 0 ≤ p.exponent then ofRatio negative (p.units * Nat.pow 10 p.exponent.toNat) 1
  else ofRatio negative p.units (Nat.pow 10 (-p.exponent).toNat)

/-- An unsigned number, or one of the words for infinity and for no number. -/
def magnitude? (negative : Bool) (cs : List Char) : Option Double :=
  let word := String.ofList (cs.map Char.toLower)
  if word == "inf" || word == "infinity" then some (.infinite negative)
  else if word == "nan" then some .nan
  else (parts? cs).map (Parts.round negative)

def read? (text : List Char) : Option Double := do
  match ← joined? ' ' ((trim isNumberBlank text).map Integer.asciiDigit) with
  | '-' :: cs => magnitude? true cs
  | '+' :: cs => magnitude? false cs
  | cs => magnitude? false cs

example : read? " -1_0.5e-1 ".toList = some (ofRatio true 105 100) := by decide +kernel

example : read? "1e".toList = none := by decide +kernel

end TestBench.Double
