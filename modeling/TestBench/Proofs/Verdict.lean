import TestBench.Proofs.Assertion
import TestBench.Proofs.Steps
import TestBench.Proofs.Trial

/-! The verdict of a trial. A context has failed exactly when an assertion that found its condition
false was executed, however deep it stood and whatever became of the test afterwards. -/
namespace TestBench

/-- An assertion that finds its condition false. One that cannot be decided does not. -/
def Action.FindsFalse (s : Scene) : Action → Prop
  | .assertTrue condition _ => condition.truth = .ok false
  | .assertEqual left right _ => Context.holds left right = .ok false
  | .assertFail _ => True
  | .assertReports _ => s.host.reports.truth = .ok false
  | _ => False

def Step.FindsFalse (step : Step) (s : Scene) : Prop :=
  ∃ a bails, step = .act a bails ∧ a.FindsFalse s

variable {tree : FileTree}

lemma action_failed (a : Action) (s : Scene) :
    (a.run tree s).scene.context.failed = true ↔
      s.context.failed = true ∨ a.FindsFalse s := by
  cases a with
  | assertTrue condition message => exact decided_failed s.context _ _
  | assertEqual left right message => exact decided_failed s.context _ _
  | assertFail message => simp [Action.run,Asserted.done,Action.FindsFalse,Context.assertFail,fail_failed]
  | assertReports message => exact decided_failed s.context _ _
  | setReports value =>
    cases h : value.truth <;> simp [Action.run,Action.FindsFalse,Scene.toggle,h]
  | _ => simp [Action.run,Action.FindsFalse,Scene.toggle,Scene.emit]

lemma step_failed {step : Step} {s : Scene}
    (h : (runAll tree step.body s).scene.context.failed = true ↔
      s.context.failed = true ∨ ComesTo tree Step.FindsFalse step.body s) :
    (step.run tree s).scene.context.failed = true ↔ s.context.failed = true ∨
      step.FindsFalse s ∨ ComesTo tree Step.FindsFalse step.body s := by
  cases step with
  | act a bails =>
    rw [run_act,action_failed]
    simp [Step.body,Step.FindsFalse]
  | preserved steps bails =>
    rw [run_preserved]
    simpa [Progress.preserving,Scene.restore,Step.body,Step.FindsFalse] using h
  | attempt steps bails =>
    rw [run_attempt]
    simpa [Progress.surviving,Step.body,Step.FindsFalse] using h

/-- The failure of a context latches: a run of steps fails it exactly when it comes to an assertion
that finds its condition false. -/
theorem runAll_failed (steps : List Step) (s : Scene) :
    (runAll tree steps s).scene.context.failed = true ↔
      s.context.failed = true ∨ ComesTo tree Step.FindsFalse steps s := by
  induction steps, s using runAll_induction tree with
  | nil s => simp
  | cons step steps s hbody hrest =>
    have hstep := step_failed hbody
    rw [comesTo_cons]
    by_cases on : step.GoesOn tree s
    · rw [runAll_of_goesOn on]
      simp only [hrest on,hstep,on,true_and,or_assoc]
    · rw [runAll_of_not_goesOn on]
      simp only [hstep,on,false_and,or_false]

lemma call_context_failed (tree : FileTree) (b : Bench) (target : Target) :
    (b.call tree target).scene.context.failed = true ↔
      ComesTo tree Step.FindsFalse target.callable.steps b.scene := by
  rw [Bench.call,call_scene,runAll_failed]
  exact or_iff_right Bool.false_ne_true

/-- A test passes if and only if no ordinary fault left it and it came to no assertion that found its
condition false. An error is told if and only if such a fault left the test, and tells its kind and
its text. -/
theorem passed_iff_unrefuted {tree : FileTree} {b : Bench} {target : Target} {outcome : Outcome}
    (h : (b.runTest tree target).result = .ok outcome) :
    (outcome.passed = true ↔ (¬∃ f, (b.call tree target).fault = some f ∧ f.ordinary = true) ∧
      ∀ a bails s, Reaches tree target.callable.steps b.scene (.act a bails) s → ¬a.FindsFalse s) ∧
    (outcome.error ≠ none ↔ ∃ f, (b.call tree target).fault = some f ∧ f.ordinary = true) ∧
    ∀ f, (b.call tree target).fault = some f → ∃ text, f.text = .ok text ∧
      outcome.error = some (f.kind ++ ": " ++ String.ofList text) := by
  obtain ⟨_,_,hp⟩ := told_of_outcome h
  have hfailed := call_context_failed tree b target
  have herror := error_eq_none_iff h
  refine ⟨?_,?_,fun f hf => (error_of_fault h hf).2⟩
  · rw [hp,← herror]
    simp only [Bool.and_eq_true,Bool.not_eq_true',Option.isNone_iff_eq_none]
    rw [and_comm,← Bool.not_eq_true,hfailed]
    constructor
    · rintro ⟨he,hnot⟩
      exact ⟨he,fun a bails s hs hf => hnot ⟨_,s,hs,a,bails,rfl,hf⟩⟩
    · rintro ⟨he,hnot⟩
      refine ⟨he,?_⟩
      rintro ⟨_,s,hs,a,bails,rfl,hf⟩
      exact hnot a bails s hs hf
  · rw [ne_eq,herror,not_not]

/-- An assertion that fails and then cannot show its right side, inside a block and a step that survives
the fault: nothing is told, and the test does not pass. -/
theorem passed_iff_unrefuted_survived :
    let silent : Value := .object (.raises (Fault.say "ValueError" "no text")) none (.gives true)
    let assertion : Step := .act (.assertEqual .none (some silent) "") false
    let target : Target := ⟨"m:t",.test [.attempt [.preserved [assertion] false] false]⟩
    let b : Bench := ⟨.shared,.standard,⟨[],[]⟩,⟨[]⟩⟩
    ∃ outcome, (b.runTest .empty target).result = .ok outcome ∧ outcome.passed = false ∧
      outcome.error = none ∧
      ∃ a bails s, Reaches .empty target.callable.steps b.scene (.act a bails) s ∧ a.FindsFalse s := by
  intro silent assertion target b
  refine ⟨_,rfl,rfl,rfl,?_⟩
  obtain ⟨hpassed,herror,_⟩ := @passed_iff_unrefuted .empty b target _ rfl
  by_contra hnone
  push Not at hnone
  have hescaped := mt herror.mpr fun h => h rfl
  exact Bool.false_ne_true (hpassed.mpr ⟨hescaped,hnone⟩)

end TestBench
