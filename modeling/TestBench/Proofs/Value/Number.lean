import Mathlib.Algebra.Order.Field.Rat
import Mathlib.Tactic.FieldSimp
import Mathlib.Tactic.Common
import TestBench.Value.Equality

/-! Numbers as rational numbers. Two finite numbers are equal exactly if they have the same value, whatever
their types and however large they are. -/
namespace TestBench

namespace Double

/-- The value of an exact number. -/
def Exact.value (x : Exact) : ℚ := x.num / 2 ^ x.scale

lemma Exact.same_iff (x y : Exact) : x.same y = true ↔ x.value = y.value := by
  have hx : (2 : ℚ) ^ x.scale ≠ 0 := pow_ne_zero _ two_ne_zero
  have hy : (2 : ℚ) ^ y.scale ≠ 0 := pow_ne_zero _ two_ne_zero
  have hsame : x.same y = true ↔ x.num * 2 ^ y.scale = y.num * 2 ^ x.scale := beq_iff_eq
  rw [hsame,value,value,div_eq_div_iff hx hy]
  exact_mod_cast Iff.rfl

/-- A finite number is its mantissa, with its sign, times a power of two. -/
lemma exact_value (negative : Bool) (m : ℕ) (e : ℤ) :
    (exact negative m e).value = (if negative then -(m : ℚ) else m) * 2 ^ e := by
  have hn : (((if negative then -(m : ℤ) else m) : ℤ) : ℚ) = if negative then -(m : ℚ) else m := by
    cases negative <;> simp
  by_cases he : 0 ≤ e
  · obtain ⟨k,rfl⟩ := Int.eq_ofNat_of_zero_le he
    have hpow : ((Int.pow 2 k : ℤ) : ℚ) = 2 ^ k := Int.cast_pow 2 k
    rw [exact,if_pos he,Exact.value]
    simp only [Int.cast_mul,hn,Int.toNat_natCast,hpow,pow_zero,div_one,zpow_natCast]
  · obtain ⟨k,rfl⟩ : ∃ k : ℕ, e = -(k : ℤ) := ⟨(-e).toNat,by omega⟩
    rw [exact,if_neg he,Exact.value]
    simp only [hn,neg_neg,Int.toNat_natCast,zpow_neg,zpow_natCast,div_eq_mul_inv]

end Double

/-- What numbers are compared by: their value, or the sign of infinity. -/
def Number.value : Number → ℚ ⊕ Bool
  | .exact x => .inl x.value
  | .infinite negative => .inr negative

lemma Number.same_iff (x y : Number) : x.same y = true ↔ x.value = y.value := by
  cases x with
  | exact x =>
    cases y with
    | exact y => exact (x.same_iff y).trans Sum.inl_injective.eq_iff.symm
    | infinite s => exact ⟨nofun,nofun⟩
  | infinite s =>
    cases y with
    | exact y => exact ⟨nofun,nofun⟩
    | infinite t => simp [Number.same,Number.value]

namespace Value

/-- The value of a finite number. The truth values count as one and nought. -/
def rational? : Value → Option ℚ
  | .bool b => some (if b then 1 else 0)
  | .int n => some n
  | .double (.finite negative m e) => some ((if negative then -(m : ℚ) else m) * 2 ^ e)
  | _ => Option.none

lemma rational_eq_some {a : Value} {p : ℚ} :
    a.rational? = some p ↔ ∃ x, a.number? = some x ∧ x.value = .inl p := by
  cases a with
  | bool b => cases b <;> simp [rational?,number?,Number.value,Double.Exact.value,Double.Exact.ofInt]
  | int n => simp [rational?,number?,Number.value,Double.Exact.value,Double.Exact.ofInt]
  | double x =>
    cases x with
    | finite negative m e => simp [rational?,number?,Number.value,Double.exact_value]
    | _ => simp [rational?,number?,Number.value]
  | _ => simp [rational?,number?]

lemma infinite_of_number {a : Value} {negative : Bool} :
    a = .double (.infinite negative) ↔ ∃ x, a.number? = some x ∧ x.value = .inr negative := by
  cases a with
  | double x => cases x <;> simp [number?,Number.value]
  | _ => simp [number?,Number.value]

end Value
end TestBench
