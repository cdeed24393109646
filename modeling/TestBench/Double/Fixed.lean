import TestBench.Double.Shortest

/-! Floating-point numbers with a set number of decimal places. The exact value is rounded, and a
half goes to the even neighbour. -/
namespace TestBench.Double

/-- A number of units of the last of some decimal places, with the point put in. -/
def placed (places units : Nat) : List Char :=
  let ds := Nat.toDigits 10 units
  let ds := List.replicate (places + 1 - ds.length) '0' ++ ds
  ds.take (ds.length - places) ++ '.' :: ds.drop (ds.length - places)

def fixed (places : Nat) : Double → List Char
  | .nan => "nan".toList
  | .infinite s => signText s ++ "inf".toList
  | .finite s m e =>
    signText s ++ placed places
      (roundDiv (m * Nat.pow 2 e.toNat * Nat.pow 10 places) (Nat.pow 2 (-e).toNat))

example : String.ofList (fixed 3 (ofRatio true 1 16)) = "-0.062" := by decide +kernel

end TestBench.Double
