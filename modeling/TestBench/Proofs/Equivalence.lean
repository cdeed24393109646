import TestBench.Assertion
import TestBench.Proofs.Value.Equality

/-! Assertions of equality on plain data. Which of them pass is an equivalence, but for what is no number;
and numbers are equal by their exact values. -/
namespace TestBench

/-- It is asserted that two values are equal, or that one equals itself, and that holds. -/
def Context.Passes (c : Context) (left : Value) (right : Option Value) (message : String) : Prop :=
  (c.assertEqual left right message).result = .ok true

lemma passes_iff (c : Context) (left : Value) (right : Option Value) (message : String) :
    c.Passes left right message ↔ Context.holds left right = .ok true := by
  rw [Context.Passes,Context.assertEqual]
  split
  · rename_i h
    exact iff_of_true rfl h
  · rename_i h
    rw [h]
    cases Context.inequalityText left (right.getD left) message <;> exact ⟨nofun,nofun⟩
  · rename_i h
    rw [h]
    exact ⟨nofun,nofun⟩

lemma passes_iff_alike (c : Context) (message : String) {x y : Value} (hx : x.IsPlain)
    (hy : y.IsPlain) : c.Passes x (some y) message ↔ x.Alike y := by
  rw [passes_iff,Context.holds,Value.equal_of_isPlain hx hy]
  exact ⟨Except.ok.inj,congrArg _⟩

/-- A number is equal to the numbers of the same value alone. -/
lemma alike_iff_value {x y : Value} {a : Number} (h : x.number? = some a) :
    x.Alike y ↔ ∃ b, y.number? = some b ∧ b.value = a.value := by
  rw [Value.alike_number_iff (by simp [h]),Value.form_of_number h]
  constructor
  · generalize hy : y.form = f
    rintro ⟨⟩
    exact Value.number_of_form hy
  · rintro ⟨b,hb,hba⟩
    rw [Value.form_of_number hb,hba]
    exact .atom

/-- On plain data, an assertion of equality passes either way round, and passes from one value to a third
one over a second one. One value passes with itself, as one object, unless it is no number. A finite
number passes with the numbers of the very same value alone, and an infinite one with itself alone. -/
theorem assertEqual_equivalence (c d e : Context) (l m n : String) {x y z : Value} (hx : x.IsPlain)
    (hy : y.IsPlain) (hz : z.IsPlain) :
    (c.Passes x (some y) l ↔ d.Passes y (some x) m) ∧
    (c.Passes x (some y) l → d.Passes y (some z) m → e.Passes x (some z) n) ∧
    (c.Passes x none l ↔ x ≠ .double .nan) ∧
    (∀ p, x.rational? = some p → (c.Passes x (some y) l ↔ y.rational? = some p)) ∧
    ∀ negative, x = .double (.infinite negative) →
      (c.Passes x (some y) l ↔ y = .double (.infinite negative)) := by
  rw [passes_iff_alike c l hx hy,passes_iff_alike d m hy hx,passes_iff_alike d m hy hz,
    passes_iff_alike e n hx hz]
  refine ⟨hx.coherent.symm hy,fun hxy => (hx.coherent.congr hy hz hxy).mp,?_,fun p hp => ?_,
    fun negative hinf => ?_⟩
  · exact (passes_iff c x none l).trans (Value.equalSelf_of_isPlain hx)
  · obtain ⟨a,ha,hap⟩ := Value.rational_eq_some.mp hp
    rw [alike_iff_value ha,hap,Value.rational_eq_some]
  · obtain ⟨a,ha,hneg⟩ := Value.infinite_of_number.mp hinf
    rw [alike_iff_value ha,hneg,Value.infinite_of_number]

/-- An integer between two floating-point numbers is equal to neither. -/
example : Value.alike (.int 9007199254740993) (.double (.finite false 4503599627370496 1)) = false := by
  decide +kernel

/-- A list of the number one and of a set that holds the number two and an empty set. -/
def oneAndSet (one : Value) (members : List Value) : Value := .list [one,.set members]

lemma oneAndSet_isPlain {one two empty : Value} (hone : one.IsPlain) (htwo : two.IsPlain)
    (hempty : empty.IsPlain) (apart : ¬ two.Alike empty) :
    (oneAndSet one [two,empty]).IsPlain := by
  refine .list ?_
  simp only [List.forall_mem_cons,List.not_mem_nil,false_imp_iff,implies_true,and_true]
  refine ⟨hone,.set ?_ ?_⟩
  · simp [htwo,hempty]
  · simp [apart]

theorem assertEqual_equivalence_mixed :
    let c := Context.new .standard
    let ofInts := oneAndSet (.int 1) [.int 2,.set []]
    let ofDoubles := oneAndSet (.double (.ofInt 1)) [.double (.ofInt 2),.frozenSet []]
    let ofTruths := oneAndSet (.bool true) [.int 2,.frozenSet []]
    ofInts.IsPlain ∧ ofDoubles.IsPlain ∧ ofTruths.IsPlain ∧
      c.Passes ofInts (some ofDoubles) "" ∧ c.Passes ofDoubles (some ofInts) "" ∧
      c.Passes ofInts (some ofTruths) "" ∧ c.Passes ofInts none "" := by
  intro c ofInts ofDoubles ofTruths
  have hempty : (Value.set []).IsPlain := .set nofun .nil
  have hfrozen : (Value.frozenSet []).IsPlain := .frozenSet nofun .nil
  have hints : ofInts.IsPlain := oneAndSet_isPlain (.int 1) (.int 2) hempty nofun
  have hdoubles : ofDoubles.IsPlain :=
    oneAndSet_isPlain (.double _) (.double _) hfrozen (by decide +kernel)
  have htruths : ofTruths.IsPlain := oneAndSet_isPlain (.bool true) (.int 2) hfrozen nofun
  obtain ⟨hsymm,htrans,hself,-⟩ :=
    assertEqual_equivalence c c c "" "" "" hints hdoubles htruths
  have hleft : c.Passes ofInts (some ofDoubles) "" :=
    (passes_iff_alike c "" hints hdoubles).mpr (by decide +kernel)
  have hright : c.Passes ofDoubles (some ofTruths) "" :=
    (passes_iff_alike c "" hdoubles htruths).mpr (by decide +kernel)
  exact ⟨hints,hdoubles,htruths,hleft,hsymm.mp hleft,htrans hleft hright,hself.mpr nofun⟩

end TestBench
