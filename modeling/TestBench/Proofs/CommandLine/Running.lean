import Mathlib.Tactic.Common
import TestBench.CommandLine.Running
import TestBench.Proofs.Computation

/-! The ways in which a request for tests goes: no plan is made of it, a target is not resolved, the log
is not set up, or its tests are run. -/
namespace TestBench.CommandLine

variable {s : Setting} {r : RunRequest} {plan : Plan} {targets : List Target}

/-- A refusal of the plan, before any target is looked at. -/
def Refusal.isEarly : Refusal → Bool
  | .noConfig _ | .config _ | .noTests | .searchPath _ => true
  | .target _ | .log _ => false

namespace Plan

lemma configOf_refusal {name : Option String} {x : Refusal} (h : configOf s name = .error x) :
    x.isEarly = true := by
  cases name with
  | none => cases h
  | some n =>
    simp only [configOf] at h
    split at h
    · rw [← Except.error.inj h]
      rfl
    · rw [← Except.error.inj h]
      rfl
    · split at h
      · rw [← Except.error.inj h]
        rfl
      · cases h

lemma directoryOf_refusal {text : String} {x : Refusal} (h : directoryOf s text = .error x) :
    x.isEarly = true := by
  simp only [directoryOf] at h
  split at h
  · rw [← Except.error.inj h]
    rfl
  · cases h

lemma of_unconfigured {x : Refusal} (h : configOf s r.config = .error x) :
    Plan.of s r = .error x := by
  rw [Plan.of,h]
  rfl

lemma of_testless {config : Option Config} (hc : configOf s r.config = .ok config)
    (h : specsOf r config = []) : Plan.of s r = .error .noTests := by
  rw [Plan.of,hc]
  simp [bind,Except.bind,h,throw,throwThe,MonadExceptOf.throw]

lemma of_misdirected {config : Option Config} {x : Refusal}
    (hc : configOf s r.config = .ok config) (hs : specsOf r config ≠ [])
    (h : r.searchPaths.mapM (directoryOf s) = .error x) : Plan.of s r = .error x := by
  rw [Plan.of,hc]
  simp [bind,Except.bind,hs,h]

lemma of_ready {config : Option Config} {directories : List String}
    (hc : configOf s r.config = .ok config) (hs : specsOf r config ≠ [])
    (h : r.searchPaths.mapM (directoryOf s) = .ok directories) :
    Plan.of s r = .ok ⟨specsOf r config,directories ++ (config.map Config.searchPaths).getD [],
      !r.silent && (config.map Config.reports).getD true⟩ := by
  rw [Plan.of,hc]
  simp [bind,Except.bind,hs,h,pure,Except.pure]

/-- A plan is refused early, or it has the tests asked for by the request or by its configuration, and
has some. -/
lemma of_cases (s : Setting) (r : RunRequest) :
    (∃ x, Plan.of s r = .error x ∧ x.isEarly = true) ∨
      ∃ config plan, configOf s r.config = .ok config ∧ Plan.of s r = .ok plan ∧
        plan.specs = specsOf r config ∧ plan.specs ≠ [] := by
  cases hc : configOf s r.config with
  | error x => exact .inl ⟨x,of_unconfigured hc,configOf_refusal hc⟩
  | ok config =>
    by_cases hs : specsOf r config = []
    · exact .inl ⟨_,of_testless hc hs,rfl⟩
    · cases hd : r.searchPaths.mapM (directoryOf s) with
      | error x =>
        obtain ⟨text,-,ht⟩ := mapM_error hd
        exact .inl ⟨x,of_misdirected hc hs hd,directoryOf_refusal ht⟩
      | ok directories => exact .inr ⟨config,_,rfl,of_ready hc hs hd,rfl,hs⟩

end Plan

namespace Running

def resolution (s : Setting) (plan : Plan) : Resolution :=
  resolveAll s.tree plan.directories plan.specs ⟨[],[]⟩

def log (s : Setting) (r : RunRequest) : SetUp :=
  SetUp.run .initial s.tree s.directory r.logFile r.verbose loggerName

/-- The files that the tests of a request find. -/
def files (s : Setting) (r : RunRequest) (targets : List Target) : FileTree :=
  filesOf (log s r).loggers (log s r).tree targets.length

/-- The bench that the first test of a plan is tried on. -/
def bench (s : Setting) (plan : Plan) : Bench :=
  ⟨Host.new channel (.bool plan.reports),channel,(resolution s plan).imports,s.clock⟩

lemma of_unplanned {x : Refusal} (h : Plan.of s r = .error x) :
    Running.of s r = refuse x s.tree s.clock [] := by
  simp only [Running.of,h]

lemma of_unresolved {f : ResolveFault} (hp : Plan.of s r = .ok plan)
    (h : (resolution s plan).result = .error f) :
    Running.of s r = refuse (.target f) s.tree s.clock (resolution s plan).attempts := by
  unfold resolution at h
  simp only [Running.of,hp,h,resolution]

lemma of_unlogged {f : SetUpFault} (hp : Plan.of s r = .ok plan)
    (ht : (resolution s plan).result = .ok targets) (h : (log s r).result = .error f) :
    Running.of s r = refuse (.log f) (log s r).tree s.clock (resolution s plan).attempts := by
  unfold resolution at ht
  unfold log at h
  simp only [Running.of,hp,ht,begin,h,resolution,log]

lemma of_begun (hp : Plan.of s r = .ok plan) (ht : (resolution s plan).result = .ok targets)
    (h : (log s r).result = .ok ()) :
    Running.of s r =
      let run := Run.of (files s r targets) (bench s plan) targets
      ⟨conclude r (log s r).loggers (log s r).tree run,(resolution s plan).attempts,some run⟩ := by
  unfold resolution at ht
  unfold log at h
  simp only [Running.of,hp,ht,begin,h,files,bench,resolution,log]

lemma conclude_of_summary {ls : Loggers} {tree : FileTree} {run : Run} {summary : Summary}
    (h : run.result = .ok summary) :
    (conclude r ls tree run).ending = .exit (if summary.allPassed then 0 else 1) := by
  simp only [conclude,h]

lemma conclude_of_fault {ls : Loggers} {tree : FileTree} {run : Run} {f : Fault}
    (h : run.result = .error f) : (conclude r ls tree run).ending = (Ending.ofFault f).ending := by
  simp only [conclude,h]

end Running
end TestBench.CommandLine
