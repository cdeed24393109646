import TestBench.Proofs.Steps

/-! What a trace tells. Flattened, it holds exactly the steps that the run came to, each with what
showed when it began; and the last record of a list tells whether a fault ended it. -/
namespace TestBench

/-- A step that was begun: what showed then, and the record that the step left. -/
structure Visit where
  before : Snapshot
  record : Record

mutual

/-- The step of a record and those inside it, from what showed when it began. -/
def Record.visits (before : Snapshot) : Record → List Visit
  | .mk step result after inner => ⟨before,.mk step result after inner⟩ :: visitsFrom before inner

/-- The steps of a list of records and those inside them, each of which begins where the one before
it ended. -/
def visitsFrom (before : Snapshot) : List Record → List Visit
  | [] => []
  | r :: rs => r.visits before ++ visitsFrom r.after rs

end

/-- What a step shows that is taken in a scene. -/
def Visit.of (tree : FileTree) (step : Step) (s : Scene) : Visit := ⟨s.snapshot,step.recorded tree s⟩

/-- The fault that ended a list of steps, as its records tell. -/
def lastFault (records : List Record) : Option Fault :=
  records.getLast?.bind fun r => faultIn r.result

/-- What showed at the end of a list of steps, as its records tell. -/
def lastShown (before : Snapshot) (records : List Record) : Snapshot :=
  (records.getLast?.map Record.after).getD before

variable {tree : FileTree}

lemma lastFault_cons (r : Record) (rs : List Record) (hr : faultIn r.result = none) :
    lastFault (r :: rs) = lastFault rs := by
  cases rs with
  | nil => simpa [lastFault] using hr
  | cons q qs => simp [lastFault]

lemma lastShown_cons (before : Snapshot) (r : Record) (rs : List Record) :
    lastShown before (r :: rs) = lastShown r.after rs := by
  cases rs with
  | nil => rfl
  | cons q qs => simp [lastShown,List.getLast?_cons]

lemma lastFault_runAll (steps : List Step) (s : Scene) :
    lastFault (runAll tree steps s).records = (runAll tree steps s).fault := by
  induction steps generalizing s with
  | nil => simp [lastFault]
  | cons step steps ih =>
    by_cases on : step.GoesOn tree s
    · have hok : faultIn (step.recorded tree s).result = none := by
        obtain ⟨reply,hr,_⟩ := on
        simp [Step.recorded,Record.result,hr,faultIn]
      rw [runAll_of_goesOn on,lastFault_cons _ _ hok]
      exact ih _
    · rw [runAll_of_not_goesOn on]
      rfl

lemma lastShown_runAll (steps : List Step) (s : Scene) :
    lastShown s.snapshot (runAll tree steps s).records = (runAll tree steps s).scene.snapshot := by
  induction steps generalizing s with
  | nil => simp [lastShown]
  | cons step steps ih =>
    by_cases on : step.GoesOn tree s
    · rw [runAll_of_goesOn on,lastShown_cons]
      exact ih _
    · rw [runAll_of_not_goesOn on]
      rfl

lemma step_inner (step : Step) (s : Scene) :
    (step.run tree s).inner = (runAll tree step.body s).records := by
  cases step with
  | act a bails =>
    rw [run_act]
    cases a with
    | setReports value => cases h : value.truth <;> simp [Action.run,Step.body,Scene.toggle,h]
    | _ => simp [Action.run,Step.body,Asserted.done,Scene.toggle,Scene.emit]
  | preserved steps bails => simp [Step.body,Progress.preserving]
  | attempt steps bails => simp [Step.body,Progress.surviving]

lemma recorded_visits (step : Step) (s : Scene) :
    (step.recorded tree s).visits s.snapshot =
      Visit.of tree step s :: visitsFrom s.snapshot (runAll tree step.body s).records := by
  rw [Visit.of,Step.recorded,Record.visits,step_inner]

/-- A trace holds exactly the steps that the run came to. -/
theorem mem_visits_iff (steps : List Step) (s : Scene) (v : Visit) :
    v ∈ visitsFrom s.snapshot (runAll tree steps s).records ↔
      ComesTo tree (fun step t => v = Visit.of tree step t) steps s := by
  induction steps, s using runAll_induction tree with
  | nil s => simp [visitsFrom]
  | cons step steps s hbody hrest =>
    rw [comesTo_cons]
    by_cases on : step.GoesOn tree s
    · rw [runAll_of_goesOn on]
      simp only [visitsFrom,recorded_visits,List.mem_append,List.mem_cons,hbody,on,true_and]
      rw [← hrest on,or_assoc]
      rfl
    · rw [runAll_of_not_goesOn on]
      simp only [visitsFrom,recorded_visits,List.append_nil,List.mem_cons,hbody,on,false_and,
        or_false]

end TestBench
