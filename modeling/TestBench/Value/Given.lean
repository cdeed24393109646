import TestBench.Value.Basic

/-! Values as they are given to someone who looks into them. An item of a container that lies inside
itself is seen differently by itself and within the container, so both views are kept. -/
namespace TestBench

def Value.items? : Value → Option (List Value)
  | .list xs => some xs
  | .tuple xs => some xs
  | .set xs => some xs
  | .frozenSet xs => some xs
  | _ => Option.none

/-- A value with its items, if it can have any, each of which is seen by itself. -/
structure Given where
  value : Value
  items? : Option (List Value)

/-- A value that does not lie inside itself. -/
def Given.ofValue (v : Value) : Given := ⟨v, v.items?⟩

end TestBench
