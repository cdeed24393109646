import Mathlib.Data.List.Forall2
import TestBench.Proofs.Assertion
import TestBench.Proofs.Computation
import TestBench.Proofs.Trace
import TestBench.Proofs.Trial

/-! Two runs of the same steps. What a run of steps comes to depends on its host by the toggle alone, on
its context not at all, and on the files only where it imports; so runs that begin with toggles which no
step tells apart go the same way. -/
namespace TestBench

mutual

/-- Does something hold of every action of a step, at every depth? -/
def Step.every (p : Action → Bool) : Step → Bool
  | .act a _ => p a
  | .preserved steps _ => everyAction p steps
  | .attempt steps _ => everyAction p steps

/-- Does something hold of every action in a list of steps, at every depth? -/
def everyAction (p : Action → Bool) : List Step → Bool
  | [] => true
  | step :: steps => step.every p && everyAction p steps

end

/-- Toggles that are related in this way are told apart by no action of a class. -/
structure Unnoticed (T : Value → Value → Prop) (p : Action → Bool) : Prop where
  given : ∀ b, T (.bool b) (.bool b)
  pushed : ∀ {u v}, T u v → faultIn u.truth = faultIn v.truth
  asserted : ∀ {message u v}, p (.assertReports message) = true → T u v → u.truth = v.truth
  unloaded : ∀ {name}, p (.load name) = false

/-- Two scenes agree but for their toggles, which are related. Channels, counts and modules may
differ. -/
structure Scene.Like (T : Value → Value → Prop) (s t : Scene) : Prop where
  reports : T s.host.reports t.host.reports
  failed : s.context.failed = t.context.failed

/-- The same step of a class, begun with related toggles. -/
structure Visit.Like (T : Value → Value → Prop) (p : Action → Bool) (v w : Visit) : Prop where
  step : v.record.step = w.record.step
  allowed : v.record.step.every p = true
  reports : T v.before.reports w.before.reports

/-- Two runs of steps from two scenes went the same way. -/
structure Progress.Like (T : Value → Value → Prop) (p : Action → Bool) (s t : Scene)
    (q r : Progress) : Prop where
  fault : q.fault = r.fault
  scene : q.scene.Like T r.scene
  visits : List.Forall₂ (Visit.Like T p) (visitsFrom s.snapshot q.records)
    (visitsFrom t.snapshot r.records)

variable {tree tree' : FileTree} {T : Value → Value → Prop} {p : Action → Bool} {s t : Scene}

lemma every_eq_body {step : Step} (h : step.every p = true) : everyAction p step.body = true := by
  cases step with
  | act a bails => rfl
  | preserved steps bails => rwa [Step.every] at h
  | attempt steps bails => rwa [Step.every] at h

lemma decided_failed_congr {c d : Context} (h : c.failed = d.failed) (found : Except Fault Bool)
    (text : Except Fault String) :
    (c.decided found text).context.failed = (d.decided found text).context.failed := by
  rw [Bool.eq_iff_iff,decided_failed,decided_failed,h]

lemma pushError_result (h : Host) (text : String) : (h.pushError text).1 =
    match faultIn h.reports.truth with
    | some f => .error f
    | none => .ok () := by
  unfold Host.pushError
  cases h.reports.truth with
  | error f => rfl
  | ok b => cases b <;> rfl

/-- An assertion with a condition ends alike in scenes that are alike. -/
lemma asserted_like (h : s.Like T t) (found : Except Fault Bool) (text : Except Fault String) :
    ((s.context.decided found text).done s).result = ((t.context.decided found text).done t).result ∧
      ((s.context.decided found text).done s).scene.Like T
        ((t.context.decided found text).done t).scene :=
  ⟨congrArg (Except.map Reply.verdict) (decided_result s.context t.context found text),
    h.reports,decided_failed_congr h.failed found text⟩

/-- An action of the class ends alike in scenes that are alike. -/
lemma action_like (hT : Unnoticed T p) {a : Action} (ha : p a = true) (h : s.Like T t) :
    (a.run tree s).result = (a.run tree' t).result ∧
      (a.run tree s).scene.Like T (a.run tree' t).scene := by
  cases a with
  | assertTrue condition message => exact asserted_like h condition.truth _
  | assertEqual left right message => exact asserted_like h (Context.holds left right) _
  | assertFail message => exact asserted_like h (.ok false) _
  | assertReports message =>
    have hsame := asserted_like h s.host.reports.truth (.ok (Context.conditionText message))
    refine ⟨hsame.1.trans ?_,hsame.2.reports,hsame.2.failed.trans ?_⟩
    all_goals
      rw [hT.asserted ha h.reports]
      rfl
  | silence => exact ⟨rfl,hT.given false,h.failed⟩
  | unsilence => exact ⟨rfl,hT.given true,h.failed⟩
  | setReports value =>
    cases hv : value.truth with
    | error f => simpa [Action.run,hv] using h
    | ok b =>
      have hgiven : (s.toggle b).scene.Like T (t.toggle b).scene := ⟨hT.given b,h.failed⟩
      simpa [Action.run,hv,Scene.toggle] using hgiven
  | pushError text =>
    have hresult : (s.host.pushError text).1 = (t.host.pushError text).1 := by
      rw [pushError_result,pushError_result,hT.pushed h.reports]
    have hreports : T (s.host.pushError text).2.1.reports (t.host.pushError text).2.1.reports := by
      rw [Host.pushError_reports,Host.pushError_reports]
      exact h.reports
    exact ⟨congrArg (Except.map fun _ => Reply.nothing) hresult,hreports,h.failed⟩
  | load name =>
    rw [hT.unloaded] at ha
    cases ha
  | _ => exact ⟨rfl,h⟩

lemma step_like (hT : Unnoticed T p) {step : Step} (hp : step.every p = true) (h : s.Like T t)
    (hbody : Progress.Like T p s t (runAll tree step.body s) (runAll tree' step.body t)) :
    (step.run tree s).result = (step.run tree' t).result ∧
      (step.run tree s).scene.Like T (step.run tree' t).scene := by
  cases step with
  | act a bails =>
    rw [Step.every] at hp
    rw [run_act,run_act]
    exact action_like hT hp h
  | preserved steps bails =>
    have hfault : (runAll tree steps s).fault = (runAll tree' steps t).fault := hbody.fault
    rw [run_preserved,run_preserved]
    refine ⟨?_,h.reports,hbody.scene.failed⟩
    simp only [Progress.preserving,hfault]
  | attempt steps bails =>
    have hfault : (runAll tree steps s).fault = (runAll tree' steps t).fault := hbody.fault
    rw [run_attempt,run_attempt]
    refine ⟨?_,hbody.scene⟩
    simp only [Progress.surviving,hfault]

lemma recorded_like {step : Step} (hp : step.every p = true) (h : s.Like T t)
    (hbody : Progress.Like T p s t (runAll tree step.body s) (runAll tree' step.body t)) :
    List.Forall₂ (Visit.Like T p) ((step.recorded tree s).visits s.snapshot)
      ((step.recorded tree' t).visits t.snapshot) := by
  have hstep : ∀ tree s, (Visit.of tree step s).record.step = step := fun _ _ => rfl
  rw [recorded_visits,recorded_visits]
  exact .cons ⟨(hstep tree s).trans (hstep tree' t).symm,hp,h.reports⟩ hbody.visits

/-- Steps of the class go the same way in scenes that are alike. -/
theorem runAll_like (hT : Unnoticed T p) (tree tree' : FileTree) (steps : List Step) (s t : Scene)
    (hp : everyAction p steps = true) (h : s.Like T t) :
    Progress.Like T p s t (runAll tree steps s) (runAll tree' steps t) := by
  induction steps, s using runAll_induction tree generalizing t with
  | nil s =>
    rw [runAll_nil,runAll_nil]
    exact ⟨rfl,h,.nil⟩
  | cons step steps s hbody hrest =>
    rw [everyAction,Bool.and_eq_true] at hp
    obtain ⟨hstep,hsteps⟩ := hp
    have hinner := hbody t (every_eq_body hstep) h
    obtain ⟨hresult,hscene⟩ := step_like hT hstep h hinner
    have hvisits := recorded_like hstep h hinner
    have hgoes : step.GoesOn tree s ↔ step.GoesOn tree' t := by
      rw [Step.GoesOn,Step.GoesOn,hresult]
    by_cases on : step.GoesOn tree s
    -- Behind the step both runs have moved on, so the second scene has to be any that is like the first.
    · have hbehind := hrest on _ hsteps hscene
      rw [runAll_of_goesOn on,runAll_of_goesOn (hgoes.mp on)]
      exact ⟨hbehind.fault,hbehind.scene,List.rel_append hvisits hbehind.visits⟩
    · rw [runAll_of_not_goesOn on,runAll_of_not_goesOn (hgoes.not.mp on)]
      refine ⟨congrArg faultIn hresult,hscene,?_⟩
      simpa [visitsFrom] using hvisits

def Target.every (p : Action → Bool) (target : Target) : Bool := everyAction p target.callable.steps

/-- What an outcome says of its test, apart from the time that it took. -/
structure Finding where
  name : String
  passed : Bool
  error : Option String
  deriving DecidableEq, Repr

def Outcome.finding (o : Outcome) : Finding := ⟨o.name,o.passed,o.error⟩

variable {b b' : Bench} {target : Target}

lemma call_like (hT : Unnoticed T p) (tree tree' : FileTree) (hp : target.every p = true)
    (h : T b.host.reports b'.host.reports) :
    Progress.Like T p b.scene b'.scene (b.call tree target) (b'.call tree' target) := by
  have hscene : b.scene.Like T b'.scene := ⟨h,rfl⟩
  obtain ⟨name,callable⟩ := target
  cases callable with
  | test steps => exact runAll_like hT tree tree' steps b.scene b'.scene hp hscene
  | other refusal => exact ⟨rfl,hscene,.nil⟩

lemma told_congr {q r : Progress} (h : q.fault = r.fault) : q.told = r.told := by
  rw [Progress.told,Progress.told,h]

/-- Trials on benches whose toggles the test does not tell apart find the same, or let the same fault
through. -/
theorem runTest_finding (hT : Unnoticed T p) (tree tree' : FileTree) (hp : target.every p = true)
    (h : T b.host.reports b'.host.reports) :
    (b.runTest tree target).result.map Outcome.finding =
      (b'.runTest tree' target).result.map Outcome.finding := by
  have hlike := call_like hT tree tree' hp h
  have htold := told_congr hlike.fault
  cases ht : (b.call tree target).told with
  | error f => rw [runTest_of_untold ht,runTest_of_untold (htold.symm.trans ht)]
  | ok error =>
    obtain ⟨duration,hr⟩ := runTest_of_told ht
    obtain ⟨duration',hr'⟩ := runTest_of_told (htold.symm.trans ht)
    rw [hr,hr',hlike.scene.failed]
    rfl

end TestBench
