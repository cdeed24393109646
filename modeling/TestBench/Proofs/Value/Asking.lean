import TestBench.Proofs.Computation
import TestBench.Proofs.Value.Parts
import TestBench.Value.Rendering

/-! What fails when values are compared or shown. A fault that comes up is one that an object raised which
lies in one of them, however deep; besides, a number may have too many digits to be shown. -/
namespace TestBench.Value

/-- A value fails with this fault when it is asked whether it equals something: its own equality fails, or
gives an answer that fails when it is taken for a truth. -/
inductive Balks : Value → Fault → Prop
  | asked {shown t f} : Balks (.object shown (some (.raises f)) t) f
  | answered {shown t a f} (h : a.truth = .error f) : Balks (.object shown (some (.gives a)) t) f

/-- A value fails with this fault when it is shown. -/
inductive Hides : Value → Fault → Prop
  | object {equals t f} : Hides (.object (.raises f) equals t) f
  | number {n} (h : Nat.pow 10 digitLimit ≤ n.natAbs) : Hides (.int n) tooManyDigits

lemma truth_eq_error {v : Value} {f : Fault} :
    v.truth = .error f ↔ ∃ shown equals, v = .object shown equals (.raises f) := by
  constructor
  · intro h
    cases v with
    | object shown equals t =>
      cases t with
      | gives b => contradiction
      | raises g =>
        obtain rfl := Except.error.inj h
        exact ⟨shown,equals,rfl⟩
    | _ => contradiction
  · rintro ⟨shown,equals,rfl⟩
    rfl

lemma balks_of_answer {shown : Answer String Value} {answer : Answer Value Value}
    {t : Answer Bool Value} {f : Fault} (h : (answer.toExcept >>= truth) = .error f) :
    Balks (.object shown (some answer) t) f := by
  cases answer with
  | gives a => exact .answered h
  | raises g =>
    obtain rfl := Except.error.inj h
    exact .asked

/-- Something that balks lies in one of two values. -/
def BalksIn (a b : Value) (f : Fault) : Prop := ∃ v, (Within v a ∨ Within v b) ∧ v.Balks f

lemma BalksIn.of_parts {a b x y : Value} {f : Fault} (hx : x ∈ a.parts) (hy : y ∈ b.parts)
    (h : BalksIn x y f) : BalksIn a b f := by
  obtain ⟨v,hv,hb⟩ := h
  exact ⟨v,hv.imp (.part hx) (.part hy),hb⟩

lemma of_allEqual_eq_error {f : Fault} {xs ys : List Value} (h : allEqual xs ys = .error f) :
    ∃ x ∈ xs, ∃ y ∈ ys, equal x y = .error f := by
  induction xs generalizing ys with
  | nil => cases ys <;> simp [allEqual] at h
  | cons x xs ih =>
    cases ys with
    | nil => simp [allEqual] at h
    | cons y ys =>
      rw [allEqual] at h
      split at h
      · obtain ⟨x',hx,y',hy,he⟩ := ih h
        exact ⟨x',List.mem_cons_of_mem x hx,y',List.mem_cons_of_mem y hy,he⟩
      · exact ⟨x,List.mem_cons_self,y,List.mem_cons_self,h⟩

lemma of_entriesEqual_eq_error {f : Fault} {es fs : List (Value × Value)}
    (h : entriesEqual es fs = .error f) : ∃ d ∈ es, ∃ e ∈ fs, equal d.2 e.2 = .error f := by
  induction es with
  | nil => simp [entriesEqual] at h
  | cons d es ih =>
    rw [entriesEqual] at h
    split at h
    · contradiction
    · rename_i e hfind
      split at h
      · obtain ⟨d',hd,e',he',he⟩ := ih h
        exact ⟨d',List.mem_cons_of_mem d hd,e',he',he⟩
      · exact ⟨d,List.mem_cons_self,e,List.mem_of_find?_eq_some hfind,h⟩

/-- A comparison fails only as something does that lies in one of its sides. -/
theorem balksIn_of_equal {f : Fault} {a b : Value} (h : equal a b = .error f) : BalksIn a b f := by
  induction a using parts_induction generalizing b with
  | part a ih =>
    unfold equal at h
    split at h
    · exact ⟨_,.inl (.self _),balks_of_answer h⟩
    · exact ⟨_,.inr (.self _),balks_of_answer h⟩
    · split at h
      · obtain ⟨x,hx,y,hy,he⟩ := of_allEqual_eq_error h
        exact .of_parts hx hy (ih x hx he)
      · contradiction
    · obtain ⟨x,hx,y,hy,he⟩ := of_allEqual_eq_error h
      exact .of_parts hx hy (ih x hx he)
    · split at h
      · obtain ⟨d,hd,e,he,h⟩ := of_entriesEqual_eq_error h
        exact .of_parts (mem_parts_value hd) (mem_parts_value he) (ih _ (mem_parts_value hd) h)
      · contradiction
    · contradiction

/-- An object that is asked whether it equals itself may balk. -/
lemma balks_of_equalSelf {f : Fault} {a : Value} (h : equalSelf a = .error f) : a.Balks f := by
  unfold equalSelf at h
  split at h
  · contradiction
  · exact balks_of_answer h
  · contradiction

lemma of_allRendered_eq_error {f : Fault} {xs : List Value} (h : allRendered xs = .error f) :
    ∃ x ∈ xs, x.rendered = .error f := by
  induction xs with
  | nil => contradiction
  | cons x xs ih =>
    rw [allRendered] at h
    cases hx : x.rendered with
    | error g =>
      obtain rfl : g = f := by simpa [hx] using h
      exact ⟨x,List.mem_cons_self,hx⟩
    | ok p =>
      have hxs : allRendered xs = .error f := by simpa [hx,map_eq_error] using h
      obtain ⟨y,hy,he⟩ := ih hxs
      exact ⟨y,List.mem_cons_of_mem x hy,he⟩

lemma of_entriesRendered_eq_error {f : Fault} {es : List (Value × Value)}
    (h : entriesRendered es = .error f) : ∃ x ∈ parts (.dict es), x.rendered = .error f := by
  induction es with
  | nil => contradiction
  | cons e es ih =>
    obtain ⟨k,v⟩ := e
    rw [entriesRendered] at h
    split at h
    · exact ⟨k,mem_parts_key List.mem_cons_self,by simp_all⟩
    · split at h
      · exact ⟨v,mem_parts_value List.mem_cons_self,by simp_all⟩
      · have hes : entriesRendered es = .error f := by simpa [map_eq_error] using h
        obtain ⟨x,hx,he⟩ := ih hes
        exact ⟨x,List.mem_cons_of_mem _ (List.mem_cons_of_mem _ hx),he⟩

/-- A value cannot be shown only if something lies in it that cannot. -/
theorem hides_of_rendered {f : Fault} {a : Value} (h : a.rendered = .error f) :
    ∃ v, Within v a ∧ v.Hides f := by
  induction a using parts_induction with
  | part a ih =>
    have of_part {x : Value} (hx : x ∈ a.parts) (he : x.rendered = .error f) :
        ∃ v, Within v a ∧ v.Hides f := by
      obtain ⟨v,hv,hh⟩ := ih x hx he
      exact ⟨v,.part hx hv,hh⟩
    cases a with
    | int n =>
      rw [rendered,intRendered] at h
      split at h
      · cases h
      · rename_i hn
        obtain rfl := Except.error.inj h
        exact ⟨_,.self _,.number (Nat.le_of_not_lt hn)⟩
    | list xs | tuple xs | set xs | frozenSet xs =>
      rw [rendered,map_eq_error] at h
      obtain ⟨x,hx,he⟩ := of_allRendered_eq_error h
      exact of_part hx he
    | dict es =>
      rw [rendered,map_eq_error] at h
      obtain ⟨x,hx,he⟩ := of_entriesRendered_eq_error h
      exact of_part hx he
    | object shown equals t =>
      rw [rendered,map_eq_error] at h
      cases shown with
      | gives s => contradiction
      | raises g =>
        obtain rfl := Except.error.inj h
        exact ⟨_,.self _,.object⟩
    | bool b => cases b <;> contradiction
    | _ => contradiction

end TestBench.Value
