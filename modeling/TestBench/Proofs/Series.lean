import Mathlib.Data.List.Forall2
import TestBench.Proofs.Trial
import TestBench.Run

/-! A run as a series of trials. Every test is tried on the bench that the one before it left, and the
series is cut short exactly by a trial without an outcome. -/
namespace TestBench

/-- The tests of a run, each with the bench that the one before it leaves. -/
def onBenches (tree : FileTree) : Bench → List Target → List (Bench × Target)
  | _, [] => []
  | b, target :: targets => (b,target) :: onBenches tree (b.runTest tree target).bench targets

def tried (tree : FileTree) (e : Bench × Target) : Trial := e.1.runTest tree e.2

lemma onBenches_targets (tree : FileTree) (b : Bench) (targets : List Target) :
    (onBenches tree b targets).map Prod.snd = targets := by
  induction targets generalizing b with
  | nil => rfl
  | cons target targets ih => rw [onBenches,List.map_cons,ih]

@[simp] lemma onBenches_length (tree : FileTree) (b : Bench) (targets : List Target) :
    (onBenches tree b targets).length = targets.length := by
  rw [← List.length_map Prod.snd,onBenches_targets]

lemma snd_mem_of_mem_onBenches {tree : FileTree} {b : Bench} {targets : List Target}
    {e : Bench × Target} (h : e ∈ onBenches tree b targets) : e.2 ∈ targets := by
  rw [← onBenches_targets tree b targets]
  exact List.mem_map_of_mem h

/-- Is there an outcome of a trial, and does it say that the test passed? -/
def Trial.Passes (t : Trial) : Prop := ∃ o, t.result = .ok o ∧ o.passed = true

lemma forall_passes_iff {tree : FileTree} {es : List (Bench × Target)} {os : List Outcome}
    (h : List.Forall₂ (fun e o => (tried tree e).result = .ok o) es os) :
    (∀ t ∈ es.map (tried tree), t.Passes) ↔ ∀ o ∈ os, o.passed = true := by
  induction h with
  | nil => simp
  | cons he _ ih =>
    rw [List.map_cons,List.forall_mem_cons,List.forall_mem_cons,ih]
    simp [Trial.Passes,he]

namespace Run

variable {tree : FileTree} {total index : ℕ} {b : Bench} {target : Target} {targets : List Target}

lemma series_of_outcome {outcome : Outcome} (h : (b.runTest tree target).result = .ok outcome) :
    series tree total index b (target :: targets) =
      let rest := series tree total (index+1) (b.runTest tree target).bench targets
      ⟨rest.fault,rest.bench,outcome :: rest.outcomes,b.runTest tree target :: rest.trials,
        (b.runTest tree target).events ++
          .printed (statusLine index total outcome target.name) :: rest.events⟩ := by
  simp only [series,h]

lemma series_of_fault {f : Fault} (h : (b.runTest tree target).result = .error f) :
    series tree total index b (target :: targets) =
      ⟨some f,(b.runTest tree target).bench,[],[b.runTest tree target],
        (b.runTest tree target).events⟩ := by
  simp only [series,h]

/-- The trials of a series are those of the first tests, in order. -/
theorem series_trials_front (tree : FileTree) (total index : ℕ) (b : Bench) (targets : List Target) :
    (series tree total index b targets).trials <+: (onBenches tree b targets).map (tried tree) := by
  induction targets generalizing index b with
  | nil => exact List.nil_prefix
  | cons target targets ih =>
    rw [onBenches,List.map_cons]
    cases h : (b.runTest tree target).result with
    | error f =>
      rw [series_of_fault h]
      exact List.cons_prefix_cons.mpr ⟨rfl,List.nil_prefix⟩
    | ok outcome =>
      rw [series_of_outcome h]
      exact List.cons_prefix_cons.mpr ⟨rfl,ih _ _⟩

/-- The fault that cuts a series short is that of a trial without an outcome. -/
theorem series_fault_iff (f : Fault) : (series tree total index b targets).fault = some f ↔
    ∃ t ∈ (series tree total index b targets).trials, t.result = .error f := by
  induction targets generalizing index b with
  | nil => simp [series]
  | cons target targets ih =>
    cases h : (b.runTest tree target).result with
    | error g =>
      rw [series_of_fault h]
      simp [h]
    | ok outcome =>
      rw [series_of_outcome h]
      simp [h,ih]

/-- A series that is not cut short tries every test, and has an outcome for each. -/
theorem series_of_no_fault (h : (series tree total index b targets).fault = none) :
    (series tree total index b targets).trials = (onBenches tree b targets).map (tried tree) ∧
      List.Forall₂ (fun e o => (tried tree e).result = .ok o) (onBenches tree b targets)
        (series tree total index b targets).outcomes := by
  induction targets generalizing index b with
  | nil => exact ⟨rfl,.nil⟩
  | cons target targets ih =>
    cases hr : (b.runTest tree target).result with
    | error g =>
      rw [series_of_fault hr] at h
      contradiction
    | ok outcome =>
      rw [series_of_outcome hr] at h ⊢
      obtain ⟨htrials,houtcomes⟩ := ih h
      refine ⟨?_,.cons hr houtcomes⟩
      exact congrArg (b.runTest tree target :: ·) htrials

/-- The outcomes of a series are those of the first tests, in order. -/
theorem series_outcomes_front (tree : FileTree) (total index : ℕ) (b : Bench) (targets : List Target) :
    List.Forall₂ (fun e o => (tried tree e).result = .ok o)
      ((onBenches tree b targets).take (series tree total index b targets).outcomes.length)
      (series tree total index b targets).outcomes := by
  induction targets generalizing index b with
  | nil => exact .nil
  | cons target targets ih =>
    cases h : (b.runTest tree target).result with
    | error f =>
      rw [series_of_fault h]
      exact .nil
    | ok outcome =>
      rw [series_of_outcome h]
      exact .cons h (ih _ _)

/-- A series is cut short by the test behind those that have an outcome, if by any. -/
theorem series_fault_at (f : Fault) : (series tree total index b targets).fault = some f ↔
    ∃ e, (onBenches tree b targets)[(series tree total index b targets).outcomes.length]? = some e ∧
      (tried tree e).result = .error f := by
  induction targets generalizing index b with
  | nil => simp [series,onBenches]
  | cons target targets ih =>
    cases h : (b.runTest tree target).result with
    | error g =>
      rw [series_of_fault h]
      simp [onBenches,tried,h]
    | ok outcome =>
      rw [series_of_outcome h]
      simp [onBenches,ih]

/-- There is a trial for every outcome, and one more if a fault cuts the series short. -/
lemma series_trials_length : (series tree total index b targets).trials.length =
    (series tree total index b targets).outcomes.length +
      if (series tree total index b targets).fault.isSome then 1 else 0 := by
  induction targets generalizing index b with
  | nil => rfl
  | cons target targets ih =>
    cases h : (b.runTest tree target).result with
    | error f =>
      rw [series_of_fault h]
      rfl
    | ok outcome =>
      rw [series_of_outcome h]
      simp only [List.length_cons,ih]
      omega

/-- A series goes through if and only if no trial lacks an outcome. -/
theorem series_goes_through_iff : (series tree total index b targets).fault = none ↔
    ∀ e ∈ onBenches tree b targets, ∃ o, (tried tree e).result = .ok o := by
  constructor
  · intro h e he
    cases hr : (tried tree e).result with
    | ok o => exact ⟨o,rfl⟩
    | error f =>
      have ht : tried tree e ∈ (series tree total index b targets).trials := by
        rw [(series_of_no_fault h).1]
        exact List.mem_map_of_mem he
      rw [(series_fault_iff f).mpr ⟨_,ht,hr⟩] at h
      contradiction
  · intro h
    cases hf : (series tree total index b targets).fault with
    | none => rfl
    | some f =>
      obtain ⟨t,ht,hr⟩ := (series_fault_iff f).mp hf
      obtain ⟨e,he,rfl⟩ := List.mem_map.mp ((series_trials_front _ _ _ _ _).subset ht)
      obtain ⟨o,ho⟩ := h e he
      rw [hr] at ho
      contradiction

/-- What a run is made of: the series of its trials from the first one on. -/
def tests (tree : FileTree) (b : Bench) (targets : List Target) : Series :=
  series tree targets.length 1 b targets

@[simp] lemma of_trials : (Run.of tree b targets).trials = (tests tree b targets).trials := by
  cases h : (series tree targets.length 1 b targets).fault with
  | none => simp [Run.of,tests,finish,h]
  | some f => by_cases hi : f.isInterrupt = true <;> simp [Run.of,tests,finish,h,hi]

@[simp] lemma of_bench : (Run.of tree b targets).bench = (tests tree b targets).bench := by
  cases h : (series tree targets.length 1 b targets).fault with
  | none => simp [Run.of,tests,finish,h]
  | some f => by_cases hi : f.isInterrupt = true <;> simp [Run.of,tests,finish,h,hi]

lemma of_result_of_no_fault (h : (tests tree b targets).fault = none) :
    (Run.of tree b targets).result = .ok ⟨(tests tree b targets).outcomes,false⟩ := by
  unfold tests at h
  simp [Run.of,tests,finish,h]

lemma of_result_of_interrupt {f : Fault} (h : (tests tree b targets).fault = some f)
    (hi : f.isInterrupt = true) :
    (Run.of tree b targets).result = .ok ⟨(tests tree b targets).outcomes,true⟩ := by
  unfold tests at h
  simp [Run.of,tests,finish,h,hi]

lemma of_result_of_fault {f : Fault} (h : (tests tree b targets).fault = some f)
    (hi : f.isInterrupt = false) : (Run.of tree b targets).result = .error f := by
  unfold tests at h
  simp [Run.of,h,hi]

lemma of_result_eq_iff {outcomes : List Outcome} :
    (Run.of tree b targets).result = .ok ⟨outcomes,false⟩ ↔
      (tests tree b targets).fault = none ∧ (tests tree b targets).outcomes = outcomes := by
  cases h : (tests tree b targets).fault with
  | none =>
    rw [of_result_of_no_fault h]
    simp
  | some f =>
    by_cases hi : f.isInterrupt = true
    · rw [of_result_of_interrupt h hi]
      simp
    · rw [of_result_of_fault h (by simpa using hi)]
      simp

/-- A run that has a summary went through, or the user's wish to stop cut it short. -/
lemma of_result_eq_ok {s : Summary} (h : (Run.of tree b targets).result = .ok s) :
    s.outcomes = (tests tree b targets).outcomes ∧
      ((tests tree b targets).fault = none ∧ s.interrupted = false ∨
        ∃ f, (tests tree b targets).fault = some f ∧ f.isInterrupt = true ∧ s.interrupted = true) := by
  cases hf : (tests tree b targets).fault with
  | none =>
    rw [of_result_of_no_fault hf] at h
    obtain rfl := Except.ok.inj h
    exact ⟨rfl,.inl ⟨rfl,rfl⟩⟩
  | some f =>
    by_cases hi : f.isInterrupt = true
    · rw [of_result_of_interrupt hf hi] at h
      obtain rfl := Except.ok.inj h
      exact ⟨rfl,.inr ⟨f,rfl,hi,rfl⟩⟩
    · rw [of_result_of_fault hf (by simpa using hi)] at h
      cases h

lemma of_passes_iff_of_no_fault (h : (tests tree b targets).fault = none) :
    (∀ t ∈ (Run.of tree b targets).trials, t.Passes) ↔
      ∀ o ∈ (tests tree b targets).outcomes, o.passed = true := by
  obtain ⟨htrials,houtcomes⟩ := series_of_no_fault h
  rw [of_trials,tests,htrials]
  exact forall_passes_iff houtcomes

lemma of_not_passes_of_fault {f : Fault} (h : (tests tree b targets).fault = some f) :
    ¬∀ t ∈ (Run.of tree b targets).trials, t.Passes := by
  intro hall
  obtain ⟨t,ht,hr⟩ := (series_fault_iff f).mp h
  obtain ⟨o,ho,-⟩ := hall t (by rwa [of_trials])
  rw [hr] at ho
  contradiction

lemma of_trials_of_passes (h : ∀ t ∈ (Run.of tree b targets).trials, t.Passes) :
    (Run.of tree b targets).trials = (onBenches tree b targets).map (tried tree) := by
  cases hf : (tests tree b targets).fault with
  | none =>
    rw [of_trials]
    exact (series_of_no_fault hf).1
  | some f => exact absurd h (of_not_passes_of_fault hf)

end Run
end TestBench
