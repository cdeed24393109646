import TestBench.Proofs.Series
import TestBench.Proofs.Trace

/-! The host's toggle. A block that keeps it ends with the toggle it was entered with and with the fault
of its last step, at every depth and however it ends; a trial is such a block, so all tests of a run
begin with the toggle of the run. What the host has kept to itself only ever grows. -/
namespace TestBench

def Step.isBlock : Step → Bool
  | .preserved _ _ => true
  | _ => false

/-- A block ends with the toggle that it was entered with, lets the fault of its last step through
unchanged, and leaves the count of suppressed errors as its last step did. -/
structure Visit.Preserves (v : Visit) : Prop where
  toggle : v.record.after.reports = v.before.reports
  fault : faultIn v.record.result = lastFault v.record.inner
  count : v.record.after.suppressed = (lastShown v.before v.record.inner).suppressed

variable {tree : FileTree}

lemma pushError_suppressed (h : Host) (text : String) :
    h.suppressed ≤ (h.pushError text).2.1.suppressed := by
  unfold Host.pushError
  cases h.reports.truth with
  | error f => exact Nat.le_refl _
  | ok reports => cases reports <;> simp

/-- No action takes back a suppressed error. -/
lemma action_suppressed (a : Action) (s : Scene) :
    s.host.suppressed ≤ (a.run tree s).scene.host.suppressed := by
  cases a with
  | pushError message => exact pushError_suppressed s.host message
  | setReports value =>
    cases h : value.truth <;> simp [Action.run,Scene.toggle,Host.withReports,h]
  | _ => simp [Action.run,Asserted.done,Scene.toggle,Scene.emit,Host.withReports]

lemma lasting_suppressed : Lasting tree fun s t => s.host.suppressed ≤ t.host.suppressed where
  refl _ := Nat.le_refl _
  trans := Nat.le_trans
  act := action_suppressed
  restore h := h

/-- Every block that a run of steps comes to preserves the toggle. -/
lemma preserves_of_isBlock {step : Step} (h : step.isBlock = true) (s : Scene) :
    (Visit.of tree step s).Preserves := by
  cases step with
  | preserved steps bails =>
    refine ⟨?_,?_,?_⟩
    · simp [Visit.of,Step.recorded,Record.after,Progress.preserving,Scene.snapshot,Scene.restore]
    · simp only [Visit.of,Step.recorded,Record.result,Record.inner,run_preserved,
        Progress.preserving,lastFault_runAll]
      cases (runAll tree steps s).fault <;> rfl
    · simp only [Visit.of,Step.recorded,Record.after,Record.inner,run_preserved,
        Progress.preserving,lastShown_runAll]
      rfl
  | act a bails => contradiction
  | attempt steps bails => contradiction

theorem visits_preserve (steps : List Step) (s : Scene) :
    ∀ v ∈ visitsFrom s.snapshot (runAll tree steps s).records,
      v.before.suppressed ≤ v.record.after.suppressed ∧
        (v.record.step.isBlock = true → v.Preserves) := by
  intro v hv
  obtain ⟨step,t,_,rfl⟩ := (mem_visits_iff steps s v).mp hv
  exact ⟨lasting_suppressed.of_run step t,fun h => preserves_of_isBlock h t⟩

/-- Every test of a run gets the toggle that the run began with. -/
theorem onBenches_reports {b : Bench} {targets : List Target} :
    ∀ e ∈ onBenches tree b targets, e.1.host.reports = b.host.reports := by
  induction targets generalizing b with
  | nil => simp [onBenches]
  | cons target targets ih =>
    intro e he
    rcases List.mem_cons.mp he with rfl | he
    · rfl
    · rw [ih e he,runTest_host]

/-- A trial gives the host its toggle back and never its count, whatever ends it, and so does every block
in the test; hence every test of a run begins with the toggle of the run. -/
theorem toggle_restored (tree : FileTree) (b : Bench) (targets : List Target) :
    (∀ target, (b.runTest tree target).bench.host.reports = b.host.reports ∧
      b.host.suppressed ≤ (b.runTest tree target).bench.host.suppressed ∧
      (b.runTest tree target).bench.host.suppressed =
        (lastShown b.scene.snapshot (b.runTest tree target).records).suppressed ∧
      ∀ v ∈ visitsFrom b.scene.snapshot (b.runTest tree target).records,
        v.before.suppressed ≤ v.record.after.suppressed ∧
          (v.record.step.isBlock = true → v.Preserves)) ∧
    (Run.of tree b targets).trials <+: (onBenches tree b targets).map (tried tree) ∧
    ∀ e ∈ onBenches tree b targets, e.1.host.reports = b.host.reports := by
  refine ⟨fun target => ?_,?_,onBenches_reports⟩
  · rw [runTest_host,runTest_records,Bench.call,call_scene,call_records]
    refine ⟨rfl,lasting_suppressed.of_runAll target.callable.steps b.scene,?_,
      visits_preserve target.callable.steps b.scene⟩
    exact congrArg Snapshot.suppressed (lastShown_runAll target.callable.steps b.scene).symm
  · rw [Run.of_trials]
    exact Run.series_trials_front tree targets.length 1 b targets

end TestBench
