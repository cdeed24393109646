import TestBench.Proofs.CommandLine.Running
import TestBench.Proofs.Resolution
import TestBench.Proofs.Series

/-! The status that a request for tests ends with. It stands for success if every test was resolved, tried
and passed, or else if a fault that nothing stops asks for success itself. -/
namespace TestBench.CommandLine

/-- A request to end the program with a status that stands for success. -/
def AsksForSuccess (f : Fault) : Prop :=
  f.isExit = true ∧ (f.arguments = [] ∨ f.arguments = [.none] ∨ f.arguments = [.bool false] ∨
    ∃ n, f.arguments = [.int n] ∧ Ending.byteOf n = 0)

/-- The tests of a plan are those asked for, all of them are resolved, and each is tried once, in order,
and passes. -/
structure Passes (s : Setting) (r : RunRequest) (plan : Plan) (targets : List Target) (run : Run) :
    Prop where
  planned : Plan.of s r = .ok plan
  asked : ∃ config, Plan.configOf s r.config = .ok config ∧ plan.specs = Plan.specsOf r config
  some_asked : plan.specs ≠ []
  named : targets.map Target.name = plan.specs
  resolved : List.Forall₂ (fun a t => a.result.map Prod.fst = .ok t) (Running.of s r).attempts targets
  begun : (Running.of s r).run = some run
  in_order : run.trials =
    (onBenches (Running.files s r targets) (Running.bench s plan) targets).map
      (tried (Running.files s r targets))
  passed : ∀ t ∈ run.trials, t.Passes

/-- Every test that a request asks for is resolved, tried once and in order, and passes. -/
def AllPassed (s : Setting) (r : RunRequest) : Prop := ∃ plan targets run, Passes s r plan targets run

/-- A fault of the code under test that nothing stops: one that left a test and is not told, one that
left an import and is not told, or one that came up when a fault about a value was told. -/
inductive LetsOut (c : Running) (f : Fault) : Prop
  | test {run trial} (h : c.run = some run) (ht : trial ∈ run.trials) (hf : trial.result = .error f)
  | target {a} (ha : a ∈ c.attempts) (hf : a.result = .error (.raised f))
      (hv : f.isValueFault = false)
  | report {a g} (ha : a ∈ c.attempts) (hg : a.result = .error (.raised g))
      (hv : g.isValueFault = true) (hf : g.text = .error f)

def statusOf (s : Setting) (r : RunRequest) : ℕ :=
  Ending.byteOf (Running.of s r).performed.ending.status

lemma byteOf_zero : Ending.byteOf 0 = 0 := by decide

lemma byteOf_one : Ending.byteOf 1 = 1 := by decide

lemma byteOf_exit (passed : Bool) :
    Ending.byteOf (Ending.exit (if passed then 0 else 1)).status = 0 ↔ passed = true := by
  cases passed <;> decide

lemma byteOf_ofRequest (vs : List Value) :
    Ending.byteOf (Ending.ofRequest vs).ending.status = 0 ↔
      vs = [] ∨ vs = [.none] ∨ vs = [.bool false] ∨ ∃ n, vs = [.int n] ∧ Ending.byteOf n = 0 := by
  unfold Ending.ofRequest
  split
  · simp [Ending.status,byteOf_zero]
  · simp [Ending.status,byteOf_zero]
  · simp [Ending.status]
  · rename_i b
    cases b <;> simp [Ending.status,byteOf_zero,byteOf_one]
  · rename_i hnil hnone hint hbool
    simp only [Ending.status,byteOf_one,Nat.one_ne_zero,false_iff]
    rintro (h | h | h | ⟨n,h,-⟩)
    · exact hnil h
    · exact hnone h
    · exact hbool _ h
    · exact hint _ h

/-- A fault that is no request ends the program with a status of its own, and never with success. -/
lemma ofFault_status {f : Fault} (h : f.isExit = false) :
    (Ending.ofFault f).ending.status = 1 ∨ (Ending.ofFault f).ending.status = 130 := by
  unfold Ending.ofFault
  rw [h]
  by_cases hi : f.isInterrupt = true
  · simp [hi,Ending.status]
  · by_cases hk : f.kind = "EOFError"
    · simp [hi,hk,Ending.status]
    · by_cases hp : Ending.isBrokenPipe f = true <;> simp [hi,hk,hp,Ending.status]

/-- A fault that nothing stops ends the program with success if and only if it asks for that. -/
lemma byteOf_ofFault (f : Fault) :
    Ending.byteOf (Ending.ofFault f).ending.status = 0 ↔ AsksForSuccess f := by
  unfold AsksForSuccess
  by_cases he : f.isExit = true
  · rw [Ending.ofFault,if_pos he,byteOf_ofRequest]
    simp [he]
  · have hn : Ending.byteOf (Ending.ofFault f).ending.status ≠ 0 := by
      rcases ofFault_status (by simpa using he) with h | h <;> rw [h] <;> decide
    simp [he,hn]

lemma byteOf_ofRaised (f : Fault) :
    Ending.byteOf (Refusal.ofRaised f).ending.status = 0 ↔
      (f.isValueFault = false ∧ AsksForSuccess f) ∨
        (f.isValueFault = true ∧ ∃ g, f.text = .error g ∧ AsksForSuccess g) := by
  unfold Refusal.ofRaised
  by_cases hv : f.isValueFault = true
  · cases ht : f.text with
    | ok cs => simp [hv,Refusal.reported,Ending.status,byteOf_one]
    | error g => simp [hv,byteOf_ofFault]
  · simp [hv,byteOf_ofFault]

lemma farewell_status_of_isEarly {x : Refusal} (h : x.isEarly = true) :
    x.farewell.ending.status = 1 := by
  cases x with
  | noConfig name => rfl
  | config f =>
    simp only [Refusal.farewell,Refusal.ofLoad]
    split <;> rfl
  | noTests => rfl
  | searchPath f => rfl
  | target f => cases h
  | log f => cases h

lemma byteOf_farewell_target (f : ResolveFault) :
    Ending.byteOf (Refusal.farewell (.target f)).ending.status = 0 ↔
      ∃ g, f = .raised g ∧ ((g.isValueFault = false ∧ AsksForSuccess g) ∨
        (g.isValueFault = true ∧ ∃ g', g.text = .error g' ∧ AsksForSuccess g')) := by
  cases f with
  | raised g => simp [Refusal.farewell,byteOf_ofRaised]
  | _ => simp [Refusal.farewell,Refusal.reported,Ending.status,byteOf_one]

/-- A run ends with success if and only if all its tests pass, or a fault that leaves one of them asks
for success. -/
lemma byteOf_conclude (r : RunRequest) (ls : Loggers) (tree files : FileTree) (b : Bench)
    (targets : List Target) :
    Ending.byteOf (Running.conclude r ls tree (Run.of files b targets)).ending.status = 0 ↔
      (∀ t ∈ (Run.of files b targets).trials, t.Passes) ∨
        ∃ f, (∃ t ∈ (Run.of files b targets).trials, t.result = .error f) ∧ AsksForSuccess f := by
  have hfault : ∀ f, (∃ t ∈ (Run.of files b targets).trials, t.result = .error f) ↔
      (Run.tests files b targets).fault = some f := by
    intro f
    rw [Run.of_trials,Run.tests,Run.series_fault_iff]
  simp only [hfault]
  cases h : (Run.tests files b targets).fault with
  | none =>
    rw [Running.conclude_of_summary (Run.of_result_of_no_fault h),byteOf_exit,
      Run.of_passes_iff_of_no_fault h]
    simp [Summary.allPassed]
  | some f =>
    have hne := Run.of_not_passes_of_fault h
    by_cases hi : f.isInterrupt = true
    · have hx : ¬AsksForSuccess f := by
        rintro ⟨he,-⟩
        simp only [Fault.isInterrupt,Fault.isExit,beq_iff_eq] at hi he
        rw [hi] at he
        contradiction
      rw [Running.conclude_of_summary (Run.of_result_of_interrupt h hi),byteOf_exit]
      simp only [hne,false_or,Option.some.injEq]
      simp [Summary.allPassed,hx]
    · rw [Running.conclude_of_fault (Run.of_result_of_fault h (by simpa using hi)),byteOf_ofFault]
      simp only [hne,false_or,Option.some.injEq]
      simp

section Ways

variable {s : Setting} {r : RunRequest} {c : Running} {plan : Plan} {targets : List Target} {f : Fault}

lemma not_letsOut_of_not_begun (hrun : c.run = none)
    (h : ∀ a ∈ c.attempts, ∀ g, a.result ≠ .error g) : ¬LetsOut c f := by
  intro hf
  cases hf with
  | test hc _ _ =>
    rw [hrun] at hc
    cases hc
  | target ha hf _ => exact h _ ha _ hf
  | report ha hg _ _ => exact h _ ha _ hg

lemma byteOf_farewell_target_iff_letsOut {fault : ResolveFault} (hrun : c.run = none)
    (h : ∀ g, (∃ a ∈ c.attempts, a.result = .error g) ↔ g = fault) :
    Ending.byteOf (Refusal.farewell (.target fault)).ending.status = 0 ↔
      ∃ f, LetsOut c f ∧ AsksForSuccess f := by
  rw [byteOf_farewell_target]
  constructor
  · rintro ⟨g,rfl,⟨hv,hg⟩ | ⟨hv,f,hf,hg⟩⟩
    · obtain ⟨a,ha,hr⟩ := (h _).mpr rfl
      exact ⟨g,.target ha hr hv,hg⟩
    · obtain ⟨a,ha,hr⟩ := (h _).mpr rfl
      exact ⟨f,.report ha hr hv hf,hg⟩
  · rintro ⟨f,hf,hx⟩
    cases hf with
    | test hc _ _ =>
      rw [hrun] at hc
      cases hc
    | target ha hr hv => exact ⟨f,((h _).mp ⟨_,ha,hr⟩).symm,.inl ⟨hv,hx⟩⟩
    | report ha hr hv hf => exact ⟨_,((h _).mp ⟨_,ha,hr⟩).symm,.inr ⟨hv,f,hf,hx⟩⟩

/-- A request whose tests all pass lets no fault out. -/
lemma AllPassed.not_letsOut (h : AllPassed s r) : ¬LetsOut (Running.of s r) f := by
  obtain ⟨plan,targets,run,h⟩ := h
  have hattempts := no_fault_of_targets h.resolved
  intro hf
  cases hf with
  | test hrun ht hf =>
    obtain rfl := Option.some.inj (h.begun.symm.trans hrun)
    obtain ⟨o,ho,-⟩ := h.passed _ ht
    rw [hf] at ho
    contradiction
  | target ha hf _ => exact hattempts _ ha _ hf
  | report ha hg _ _ => exact hattempts _ ha _ hg

lemma not_allPassed_of_not_begun (h : (Running.of s r).run = none) : ¬AllPassed s r := by
  rintro ⟨plan',targets',run,hall⟩
  have hrun := hall.begun
  rw [h] at hrun
  cases hrun

lemma allPassed_iff_of_begun (hp : Plan.of s r = .ok plan)
    (ht : (Running.resolution s plan).result = .ok targets) (hl : (Running.log s r).result = .ok ()) :
    AllPassed s r ↔ ∀ t ∈ (Run.of (Running.files s r targets) (Running.bench s plan) targets).trials,
      t.Passes := by
  have hof := Running.of_begun hp ht hl
  constructor
  · rintro ⟨plan',targets',run,h⟩
    have hrun := h.begun
    rw [hof] at hrun
    obtain rfl := Option.some.inj hrun
    exact h.passed
  · intro h
    obtain ⟨x,hx,-⟩ | ⟨config,plan',hc,hp',hspecs,hsome⟩ := Plan.of_cases s r
    · rw [hp] at hx
      contradiction
    · obtain rfl := Except.ok.inj (hp'.symm.trans hp)
      obtain ⟨hnames,hattempts⟩ := resolveAll_eq_ok ht
      refine ⟨plan',targets,_,hp,⟨config,hc,hspecs⟩,hsome,hnames,?_,?_,Run.of_trials_of_passes h,h⟩
      · rw [hof]
        exact hattempts
      · rw [hof]

lemma letsOut_iff_of_begun (hp : Plan.of s r = .ok plan)
    (ht : (Running.resolution s plan).result = .ok targets) (hl : (Running.log s r).result = .ok ()) :
    LetsOut (Running.of s r) f ↔
      ∃ t ∈ (Run.of (Running.files s r targets) (Running.bench s plan) targets).trials,
        t.result = .error f := by
  have hattempts := no_fault_of_targets (resolveAll_eq_ok ht).2
  rw [Running.of_begun hp ht hl]
  constructor
  · intro hf
    cases hf with
    | test hc ht hf =>
      obtain rfl := Option.some.inj hc
      exact ⟨_,ht,hf⟩
    | target ha hf _ => exact absurd hf (hattempts _ ha _)
    | report ha hg _ _ => exact absurd hg (hattempts _ ha _)
  · rintro ⟨t,ht,hf⟩
    exact .test rfl ht hf

lemma succeeds_iff_of_refused {refusal : Refusal} {tree : FileTree} {clock : Clock}
    {attempts : List Resolved} (hof : Running.of s r = Running.refuse refusal tree clock attempts)
    (hstatus : refusal.farewell.ending.status = 1)
    (hattempts : ∀ a ∈ attempts, ∀ g, a.result ≠ .error g) :
    statusOf s r = 0 ↔ AllPassed s r ∨ ∃ f, LetsOut (Running.of s r) f ∧ AsksForSuccess f := by
  have hall : ¬AllPassed s r := not_allPassed_of_not_begun (by rw [hof]; rfl)
  have hnot : ∀ f, ¬LetsOut (Running.of s r) f := by
    intro f
    rw [hof]
    exact not_letsOut_of_not_begun rfl hattempts
  have hone : statusOf s r = 1 := by
    rw [statusOf,hof]
    exact (congrArg Ending.byteOf hstatus).trans byteOf_one
  simp [hone,hall,hnot]

end Ways

/-- A request ends with success if and only if all its tests pass, or a fault that nothing stops asks for
success. The two never go together. -/
theorem succeeds_iff (s : Setting) (r : RunRequest) :
    (statusOf s r = 0 ↔
      AllPassed s r ∨ ∃ f, LetsOut (Running.of s r) f ∧ AsksForSuccess f) ∧
    ¬(AllPassed s r ∧ ∃ f, LetsOut (Running.of s r) f) := by
  refine ⟨?_,fun ⟨hall,f,hf⟩ => hall.not_letsOut hf⟩
  obtain ⟨x,hx,hearly⟩ | ⟨config,plan,-,hp,-,-⟩ := Plan.of_cases s r
  · exact succeeds_iff_of_refused (Running.of_unplanned hx) (farewell_status_of_isEarly hearly)
      (by simp)
  · cases ht : (Running.resolution s plan).result with
    | error fault =>
      have hof := Running.of_unresolved hp ht
      have hall : ¬AllPassed s r := not_allPassed_of_not_begun (by rw [hof]; rfl)
      rw [or_iff_right hall,statusOf,hof]
      refine byteOf_farewell_target_iff_letsOut rfl ?_
      intro g
      refine resolveAll_eq_error.symm.trans ?_
      rw [← Running.resolution,ht,Except.error.injEq,eq_comm]
    | ok targets =>
      cases hl : (Running.log s r).result with
      | error fault =>
        exact succeeds_iff_of_refused (Running.of_unlogged hp ht hl) rfl
          (no_fault_of_targets (resolveAll_eq_ok ht).2)
      | ok _ =>
        have hending : (Running.of s r).performed.ending =
            (Running.conclude r (Running.log s r).loggers (Running.log s r).tree
              (Run.of (Running.files s r targets) (Running.bench s plan) targets)).ending := by
          rw [Running.of_begun hp ht hl]
        rw [statusOf,hending,byteOf_conclude,allPassed_iff_of_begun hp ht hl]
        simp only [letsOut_iff_of_begun hp ht hl]

/-- A module with a test that asks for success and one that fails. -/
def quittingModule : Script :=
  ⟨none,false,[],
    [("t",.function [.act (.raise ⟨"SystemExit",[.int 0]⟩) false] "t"),
      ("u",.function [.act (.assertFail "") false] "u")],none⟩

def quittingSetting : Setting :=
  ⟨FileTree.empty.plant ["w","m.py"] ⟨[],some quittingModule⟩,["w"],⟨[]⟩,⟨[]⟩⟩

def quittingRequest : RunRequest := ⟨["m:t","m:u"],none,["."],standardLogFile,false,false⟩

/-- A test that ends the program makes a success of a run whose other test would fail. -/
theorem succeeds_though_cut_short :
    statusOf quittingSetting quittingRequest = 0 ∧ ¬AllPassed quittingSetting quittingRequest := by
  refine ⟨by decide +kernel,?_⟩
  rintro ⟨plan,targets,run,h⟩
  have htrials : (Running.of quittingSetting quittingRequest).run.map
      (fun run => run.trials.map fun t => t.result.isOk) = some [false] := by decide +kernel
  rw [h.begun,Option.map_some,Option.some.injEq] at htrials
  have hmem : false ∈ run.trials.map fun t => t.result.isOk := by simp [htrials]
  obtain ⟨t,ht,hlost⟩ := List.mem_map.mp hmem
  obtain ⟨o,ho,-⟩ := h.passed t ht
  rw [ho] at hlost
  cases hlost

end TestBench.CommandLine
