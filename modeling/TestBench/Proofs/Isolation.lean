import TestBench.Proofs.Simulation
import TestBench.Proofs.Toggle

/-! Tests are isolated. What one of them leaves behind on the bench is at most a count and a moved clock,
and no test can tell those; so, as long as none imports anything, each finds in a run what it finds
alone, whatever the others do and in whatever order they come. -/
namespace TestBench

def Action.isLoad : Action → Bool
  | .load _ => true
  | _ => false

/-- The steps of a test import nothing, at any depth. -/
def Target.ImportsNothing (target : Target) : Prop := target.every (!·.isLoad) = true

instance (target : Target) : Decidable target.ImportsNothing :=
  inferInstanceAs (Decidable (_ = true))

/-- What a test finds that is tried alone on a bench. -/
def Bench.finding (tree : FileTree) (b : Bench) (target : Target) : Except Fault Finding :=
  (b.runTest tree target).result.map Outcome.finding

/-- The members of a list that stand at some places, in the order of the places. -/
def atPlaces {α : Type} (places : List ℕ) (xs : List α) : List α := places.filterMap (xs[·]?)

variable {tree : FileTree} {b : Bench} {targets : List Target}

lemma unnoticed_eq : Unnoticed (· = ·) (!·.isLoad) where
  given _ := rfl
  pushed h := by rw [h]
  asserted _ h := by rw [h]
  unloaded := rfl

/-- In a run a test finds what it finds alone. -/
lemma tried_finding (hfree : ∀ t ∈ targets, t.ImportsNothing) :
    ∀ e ∈ onBenches tree b targets, (tried tree e).result.map Outcome.finding =
      b.finding tree e.2 := by
  intro e he
  have himports := hfree e.2 (snd_mem_of_mem_onBenches he)
  exact runTest_finding unnoticed_eq tree tree himports (onBenches_reports e he)

lemma forall₂_finding {os : List Outcome} (hfree : ∀ t ∈ targets, t.ImportsNothing)
    (h : List.Forall₂ (fun e o => (tried tree e).result = .ok o) (onBenches tree b targets) os) :
    List.Forall₂ (fun t f => b.finding tree t = .ok f) targets (os.map Outcome.finding) := by
  have halone := (List.forall₂_and_left _ _).mpr ⟨tried_finding hfree,h⟩
  rw [List.forall₂_map_right_iff,← onBenches_targets tree b targets,List.forall₂_map_left_iff]
  refine halone.imp fun e o hboth => ?_
  rw [← hboth.1,hboth.2]
  rfl

lemma finding_of_forall₂ {fs : List Finding}
    (h : List.Forall₂ (fun t f => b.finding tree t = .ok f) targets fs) :
    ∀ t ∈ targets, ∃ f, b.finding tree t = .ok f := by
  induction h with
  | nil => simp
  | cons hf _ ih => exact List.forall_mem_cons.mpr ⟨⟨_,hf⟩,ih⟩

/-- If every test has an outcome alone, a run of them goes through. -/
lemma of_result_of_findings {fs : List Finding} (hfree : ∀ t ∈ targets, t.ImportsNothing)
    (h : List.Forall₂ (fun t f => b.finding tree t = .ok f) targets fs) :
    ∃ os, (Run.of tree b targets).result = .ok ⟨os,false⟩ ∧ os.map Outcome.finding = fs := by
  have hnone : (Run.tests tree b targets).fault = none := by
    refine Run.series_goes_through_iff.mpr fun e he => ?_
    obtain ⟨f,hf⟩ := finding_of_forall₂ h e.2 (snd_mem_of_mem_onBenches he)
    rw [← tried_finding hfree e he] at hf
    cases hr : (tried tree e).result with
    | ok o => exact ⟨o,rfl⟩
    | error g =>
      rw [hr] at hf
      cases hf
  refine ⟨_,Run.of_result_of_no_fault hnone,?_⟩
  have hfound := forall₂_finding hfree (Run.series_of_no_fault hnone).2
  refine List.right_unique_forall₂' ?_ hfound h
  intro t f g hf hg
  exact Except.ok.inj (hf.symm.trans hg)

lemma mem_of_mem_atPlaces {α : Type} {places : List ℕ} {xs : List α} {x : α}
    (h : x ∈ atPlaces places xs) : x ∈ xs := by
  obtain ⟨i,_,hi⟩ := List.mem_filterMap.mp h
  exact List.mem_of_getElem? hi

lemma forall₂_atPlaces {α β : Type} {R : α → β → Prop} {xs : List α} {ys : List β}
    (h : List.Forall₂ R xs ys) (places : List ℕ) :
    List.Forall₂ R (atPlaces places xs) (atPlaces places ys) := by
  have hget : ∀ i : ℕ, (∃ x y, xs[i]? = some x ∧ ys[i]? = some y ∧ R x y) ∨
      xs[i]? = none ∧ ys[i]? = none := by
    intro i
    by_cases hi : i < xs.length
    · have hj : i < ys.length := h.length_eq ▸ hi
      exact .inl ⟨xs[i],ys[i],List.getElem?_eq_getElem hi,List.getElem?_eq_getElem hj,h.get hi hj⟩
    · have hj : ys.length ≤ i := h.length_eq ▸ Nat.le_of_not_lt hi
      exact .inr ⟨List.getElem?_eq_none (Nat.le_of_not_lt hi),List.getElem?_eq_none hj⟩
  induction places with
  | nil => exact .nil
  | cons i places ih =>
    obtain ⟨x,y,hx,hy,hxy⟩ | ⟨hx,hy⟩ := hget i
    · rw [atPlaces,atPlaces,List.filterMap_cons_some hx,List.filterMap_cons_some hy]
      exact .cons hxy ih
    · rw [atPlaces,atPlaces,List.filterMap_cons_none hx,List.filterMap_cons_none hy]
      exact ih

/-- Whenever a run of tests that import nothing goes through, every test finds in it what it finds alone
on the bench that the run began with. Hence any tests taken from the list, in any order, find the
same: in particular all of them permuted. -/
theorem tests_isolated {tree : FileTree} {b : Bench} {targets : List Target} {outcomes : List Outcome}
    (hfree : ∀ t ∈ targets, t.ImportsNothing)
    (h : (Run.of tree b targets).result = .ok ⟨outcomes,false⟩) :
    List.Forall₂ (fun t o => (b.runTest tree t).result.map Outcome.finding = .ok o.finding) targets
      outcomes ∧
    ∀ places : List ℕ, ∃ os, (Run.of tree b (atPlaces places targets)).result = .ok ⟨os,false⟩ ∧
      os.map Outcome.finding = atPlaces places (outcomes.map Outcome.finding) := by
  obtain ⟨hnone,rfl⟩ := Run.of_result_eq_iff.mp h
  have hfound := forall₂_finding hfree (Run.series_of_no_fault hnone).2
  constructor
  · rw [List.forall₂_map_right_iff] at hfound
    exact hfound
  · intro places
    refine of_result_of_findings (fun t ht => hfree t (mem_of_mem_atPlaces ht)) ?_
    exact forall₂_atPlaces hfound places

/-- A test that turns the host's reports off, fails and raises, before one that asserts that the host
reports; and the two the other way round. -/
theorem tests_isolated_swapped :
    let noisy : Target := ⟨"m:a",.test [.act .silence false,.act (.pushError "e") false,
      .act (.assertFail "") false,.act (.raise (Fault.say "ValueError" "no")) false]⟩
    let reading : Target := ⟨"m:b",.test [.act (.assertReports "") false]⟩
    let b : Bench := ⟨.shared,.standard,⟨[],[]⟩,⟨[]⟩⟩
    (∀ t ∈ [noisy,reading], t.ImportsNothing) ∧
    ∃ os, (Run.of .empty b [reading,noisy]).result = .ok ⟨os,false⟩ ∧
      os.map Outcome.finding = [⟨"m:b",true,none⟩,⟨"m:a",false,some "ValueError: no"⟩] := by
  intro noisy reading b
  have hfree : ∀ t ∈ [noisy,reading], t.ImportsNothing := by decide
  refine ⟨hfree,?_⟩
  exact (@tests_isolated .empty b _ _ hfree rfl).2 [1,0]

end TestBench
