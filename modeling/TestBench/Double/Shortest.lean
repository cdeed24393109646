import TestBench.Double.Basic

/-! The fewest decimal digits that read back to a floating-point number. The reals that round to
it form an interval, closed when its mantissa is even; on the grids of one, two, … significant
digits the first with a point in the interval wins, and of two such points the nearer. -/
namespace TestBench.Double

/-- Is c · 10^p at most n · 2^q? -/
def decimalLe (c : Nat) (p : Int) (n : Nat) (q : Int) : Bool :=
  c * Nat.pow 10 p.toNat * Nat.pow 2 (-q).toNat ≤ n * Nat.pow 2 q.toNat * Nat.pow 10 (-p).toNat

/-- Is c · 10^p less than n · 2^q? -/
def decimalLt (c : Nat) (p : Int) (n : Nat) (q : Int) : Bool :=
  c * Nat.pow 10 p.toNat * Nat.pow 2 (-q).toNat < n * Nat.pow 2 q.toNat * Nat.pow 10 (-p).toNat

/-- Is n · 2^q less than c · 10^p? -/
def binaryLt (n : Nat) (q : Int) (c : Nat) (p : Int) : Bool := !decimalLe c p n q

/-- Is n · 2^q at most c · 10^p? -/
def binaryLe (n : Nat) (q : Int) (c : Nat) (p : Int) : Bool := !decimalLt c p n q

/-- Four times the lower end of the interval that rounds to m · 2^e, over 2^e. Below a power of two
the numbers lie closer together. -/
def lowerEnd (m : Nat) (e : Int) : Nat :=
  if m = Nat.pow 2 52 ∧ minExponent < e then 4 * m - 1 else 4 * m - 2

/-- Four times the upper end of that interval, over 2^e. -/
def upperEnd (m : Nat) : Nat := 4 * m + 2

/-- Does the decimal c · 10^p round to m · 2^e? -/
def readsBack (m : Nat) (e : Int) (c : Nat) (p : Int) : Bool :=
  if m % 2 = 0 then
    binaryLe (lowerEnd m e) (e - 2) c p && decimalLe c p (upperEnd m) (e - 2)
  else
    binaryLt (lowerEnd m e) (e - 2) c p && decimalLt c p (upperEnd m) (e - 2)

/-- The least k with m · 2^e < 10^k, for a positive m. -/
def decimalScale (m : Nat) (e : Int) : Int :=
  let guess := (((Nat.log2 m : Int) + e) * 30103) / 100000
  if binaryLt m e 1 guess then guess
  else if binaryLt m e 1 (guess + 1) then guess + 1
  else guess + 2

/-- The whole part of m · 2^e over 10^p. -/
def gridFloor (m : Nat) (e p : Int) : Nat :=
  m * Nat.pow 2 e.toNat * Nat.pow 10 (-p).toNat / (Nat.pow 10 p.toNat * Nat.pow 2 (-e).toNat)

/-- The point of the grid of spacing 10^p that is taken for m · 2^e, if one reads back. -/
def gridPoint? (m : Nat) (e p : Int) : Option Nat :=
  let c := gridFloor m e p
  match readsBack m e c p, readsBack m e (c + 1) p with
  | false, false => none
  | true, false => some c
  | false, true => some (c + 1)
  | true, true =>
    if binaryLt (2 * m) e (2 * c + 1) p then some c
    else if decimalLt (2 * c + 1) p (2 * m) e then some (c + 1)
    else some (c + c % 2)

/-- A decimal number: a natural number of units of a power of ten. -/
structure Decimal where
  units : Nat
  exponent : Int
  deriving DecidableEq, Repr

/-- Search the grids of `digits`, `digits + 1`, … significant digits, at most `more` of them. -/
def searchGrids (m : Nat) (e scale : Int) : Nat → Nat → Decimal
  | 0, _ =>
    if 0 ≤ e then ⟨m * Nat.pow 2 e.toNat, 0⟩ else ⟨m * Nat.pow 5 (-e).toNat, e⟩
  | more + 1, digits =>
    match gridPoint? m e (scale - digits) with
    | some c => ⟨c, scale - digits⟩
    | none => searchGrids m e scale more (digits + 1)

/-- The decimal with the fewest digits that rounds to m · 2^e, for a positive m. -/
def shortest (m : Nat) (e : Int) : Decimal := searchGrids m e (decimalScale m e) 17 1

def withoutZeros (ds : List Char) : List Char := (ds.reverse.dropWhile (· == '0')).reverse

/-- How a number in the fewest digits is laid out. -/
structure Layout where
  /-- The least decimal exponent that is written positionally. -/
  least : Int
  /-- The first exponent above it that is not. -/
  beyond : Int
  /-- The least number of digits in a written exponent. -/
  exponentDigits : Nat

/-- Numbers are positional from 0.0001 to below 10^16; a written exponent has a sign and at least
two digits. -/
def layout : Layout := ⟨-4, 16, 2⟩

def exponentText (l : Layout) (x : Int) : List Char :=
  let ds := Nat.toDigits 10 x.natAbs
  'e' :: (if x < 0 then '-' else '+') :: List.replicate (l.exponentDigits - ds.length) '0' ++ ds

/-- The digits `ds` of a number whose first digit stands for units of 10^x, laid out. -/
def layOut (l : Layout) (ds : List Char) (x : Int) : List Char :=
  if l.least ≤ x ∧ x < l.beyond then
    if x < 0 then '0' :: '.' :: List.replicate (-x - 1).toNat '0' ++ ds
    else
      let whole := x.toNat + 1
      let fraction := ds.drop whole
      ds.take whole ++ List.replicate (whole - ds.length) '0' ++
        '.' :: (if fraction.isEmpty then ['0'] else fraction)
  else
    match ds with
    | [] => []
    | [d] => d :: exponentText l x
    | d :: more => d :: '.' :: more ++ exponentText l x

def signText (negative : Bool) : List Char := if negative then ['-'] else []

def shown : Double → List Char
  | .nan => "nan".toList
  | .infinite s => signText s ++ "inf".toList
  | .finite s 0 _ => signText s ++ "0.0".toList
  | .finite s m e =>
    let d := shortest m e
    let ds := Nat.toDigits 10 d.units
    signText s ++ layOut layout (withoutZeros ds) (d.exponent + ds.length - 1)

example : String.ofList (ofRatio false 1 10).shown = "0.1" := by decide +kernel

example : String.ofList (ofRatio true (10 ^ 16) 1).shown = "-1e+16" := by decide +kernel

example : String.ofList (ofRatio false 5 (10 ^ 324)).shown = "5e-324" := by decide +kernel

end TestBench.Double
