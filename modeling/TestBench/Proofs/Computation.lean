import Mathlib.Data.List.Forall2
import Mathlib.Tactic.Common

/-! Computations that may fail. One that is made of parts fails as its first part that does, and otherwise
has a value of every part. -/
namespace TestBench

variable {ε α β : Type} {x y : Except ε α} {e : ε}

lemma eq_ok_of_toOption {a : α} (h : x.toOption = some a) : x = .ok a := by
  cases x with
  | error e => cases h
  | ok b => exact congrArg Except.ok (Option.some.inj h)

section Parts

variable {f : α → β} {k : α → Except ε β} {b : β}

lemma map_eq_ok : x.map f = .ok b ↔ ∃ a, x = .ok a ∧ f a = b := by
  cases x <;> simp [Except.map]

lemma map_eq_error : x.map f = .error e ↔ x = .error e := by
  cases x <;> simp [Except.map]

lemma bind_eq_ok : x >>= k = .ok b ↔ ∃ a, x = .ok a ∧ k a = .ok b := by
  cases x <;> simp [bind,Except.bind]

lemma bind_eq_error : x >>= k = .error e ↔ x = .error e ∨ ∃ a, x = .ok a ∧ k a = .error e := by
  cases x <;> simp [bind,Except.bind]

/-- Two results that agree through a function are the same fault, or two values that it takes to one. -/
lemma map_eq_map (h : x.map f = y.map f) :
    (∃ a b, x = .ok a ∧ y = .ok b ∧ f a = f b) ∨ ∃ e, x = .error e ∧ y = .error e := by
  cases hy : y.map f with
  | error e => exact .inr ⟨e,map_eq_error.mp (h.trans hy),map_eq_error.mp hy⟩
  | ok c =>
    obtain ⟨a,hx,ha⟩ := map_eq_ok.mp (h.trans hy)
    obtain ⟨b,hy,hb⟩ := map_eq_ok.mp hy
    exact .inl ⟨a,b,hx,hy,ha.trans hb.symm⟩

end Parts

section Rows

/-- If something comes of each thing in a row, a row of such things comes of all. -/
lemma exists_mapM {f : α → Except ε β} {r : α → β → Prop} {as : List α}
    (h : ∀ a ∈ as, ∃ b, f a = .ok b ∧ r a b) : ∃ bs, as.mapM f = .ok bs ∧ List.Forall₂ r as bs := by
  induction as with
  | nil => exact ⟨[],rfl,.nil⟩
  | cons a as ih =>
    obtain ⟨⟨b,hb,hab⟩,has⟩ := List.forall_mem_cons.mp h
    obtain ⟨bs,hbs,hall⟩ := ih has
    refine ⟨b :: bs,?_,.cons hab hall⟩
    rw [List.mapM_cons,hb,hbs]
    rfl

lemma mapM_self {f : α → Except ε α} {as : List α} (h : ∀ a ∈ as, f a = .ok a) :
    as.mapM f = .ok as := by
  obtain ⟨bs,hbs,hall⟩ := exists_mapM (r := Eq) fun a ha => ⟨a,h a ha,rfl⟩
  rw [List.forall₂_eq_eq_eq] at hall
  rw [hbs,hall]

lemma mapM_error {f : α → Except ε β} {as : List α} (h : as.mapM f = .error e) :
    ∃ a ∈ as, f a = .error e := by
  induction as with
  | nil => cases h
  | cons a as ih =>
    rw [List.mapM_cons] at h
    obtain ha | ⟨b,-,h⟩ := bind_eq_error.mp h
    · exact ⟨a,List.mem_cons_self,ha⟩
    · obtain has | ⟨bs,-,h⟩ := bind_eq_error.mp h
      · obtain ⟨a,ha,hf⟩ := ih has
        exact ⟨a,List.mem_cons_of_mem _ ha,hf⟩
      · cases h

end Rows

end TestBench
