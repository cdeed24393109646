import Mathlib.Tactic.Common
import TestBench.Value.Equality

/-! The parts of a value. A container is larger than what it holds, so a property of values that goes over
from the parts of a value to the value holds of all. -/
namespace TestBench.Value

/-- What a container holds: its items, or its keys and their values. -/
def parts : Value → List Value
  | .list xs => xs
  | .tuple xs => xs
  | .set xs => xs
  | .frozenSet xs => xs
  | .dict es => es.flatMap fun e => [e.1,e.2]
  | _ => []

lemma mem_parts_key {e : Value × Value} {es : List (Value × Value)} (he : e ∈ es) :
    e.1 ∈ parts (.dict es) := List.mem_flatMap.mpr ⟨e,he,List.mem_cons_self⟩

lemma mem_parts_value {e : Value × Value} {es : List (Value × Value)} (he : e ∈ es) :
    e.2 ∈ parts (.dict es) :=
  List.mem_flatMap.mpr ⟨e,he,List.mem_cons_of_mem _ List.mem_cons_self⟩

lemma sizeOf_lt_of_mem_parts {x v : Value} (h : x ∈ v.parts) : sizeOf x < sizeOf v := by
  cases v with
  | list xs | tuple xs | set xs | frozenSet xs =>
    have hx : sizeOf x < sizeOf xs := List.sizeOf_lt_of_mem h
    simp only [list.sizeOf_spec,tuple.sizeOf_spec,set.sizeOf_spec,frozenSet.sizeOf_spec]
    omega
  | dict es =>
    obtain ⟨⟨k,w⟩,he,hx⟩ := List.mem_flatMap.mp h
    have hs : sizeOf (k,w) < sizeOf es := List.sizeOf_lt_of_mem he
    simp only [Prod.mk.sizeOf_spec] at hs
    simp only [dict.sizeOf_spec]
    simp only [List.mem_cons,List.not_mem_nil,or_false] at hx
    rcases hx with rfl | rfl <;> omega
  | _ => contradiction

/-- A value lies in another one: it is that one, or lies in a part of it. -/
inductive Within : Value → Value → Prop
  | self (v) : Within v v
  | part {v x w} (hx : x ∈ w.parts) (h : Within v x) : Within v w

/-- Induction over values: a value has a property if its parts have it. -/
@[elab_as_elim]
theorem parts_induction {motive : Value → Prop} (part : ∀ v, (∀ x ∈ v.parts, motive x) → motive v)
    (v : Value) : motive v :=
  part v fun x _ => parts_induction part x
termination_by v
decreasing_by exact sizeOf_lt_of_mem_parts (by assumption)

/-- Something lies in a value if it is the value or lies in a part of it. -/
lemma forall_within {p : Value → Prop} {w : Value} :
    (∀ v, Within v w → p v) ↔ p w ∧ ∀ x ∈ w.parts, ∀ v, Within v x → p v := by
  constructor
  · exact fun h => ⟨h w (.self w),fun x hx v hv => h v (.part hx hv)⟩
  · rintro ⟨hself,hparts⟩ v (_ | ⟨hx,hv⟩)
    · exact hself
    · exact hparts _ hx v hv

end TestBench.Value
