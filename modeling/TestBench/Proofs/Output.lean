import TestBench.Proofs.Assertion
import TestBench.Proofs.Series
import TestBench.Proofs.Trace
import TestBench.Session

/-! What is put out, part by part. A step puts out something of its own, which the step tells together
with the toggle that it met; what a run or a session puts out is that of all its steps, in order, with
what the bench adds around the tests. -/
namespace TestBench

/-- The text of an assertion that was found false. -/
def refuted (found : Except Fault Bool) (text : Except Fault String) :
    Option (Except Fault String) :=
  match found with
  | .ok false => some text
  | _ => none

/-- The text of an action that is an assertion and finds its condition false. There may be none that
can be made up. -/
def Action.failure? (reports : Value) : Action → Option (Except Fault String)
  | .assertTrue condition message => refuted condition.truth (.ok (Context.conditionText message))
  | .assertEqual left right message =>
    refuted (Context.holds left right) (Context.inequalityText left (right.getD left) message)
  | .assertFail message => some (.ok (Context.reachedText message))
  | .assertReports message => refuted reports.truth (.ok (Context.conditionText message))
  | _ => none

/-- A failure is told by an empty line and its text, if there is one. -/
def Channel.failure (c : Channel) : Option (Except Fault String) → List Event
  | none => []
  | some (.ok text) => c.blank ++ c.error text
  | some (.error _) => c.blank

/-- What an action puts out that meets a toggle: an error of the host goes to the channel of the host,
and only while that reports; everything else goes to the channel of the context, or is printed. -/
def Action.output (host own : Channel) (reports : Value) : Action → List Event
  | .pushError message =>
    match reports.truth with
    | .ok true => host.error message
    | _ => []
  | .print message => [.printed message]
  | .blank => own.blank
  | .channelBlank => own.blank
  | .printError message => own.error message
  | .channelError message => own.error message
  | .channelWrite message => own.write message
  | a => own.failure (a.failure? reports)

/-- What a step that was begun puts out itself, apart from the steps inside it. -/
def Visit.output (host own : Channel) (v : Visit) : List Event :=
  match v.record.step with
  | .act a _ => a.output host own v.before.reports
  | _ => []

/-- A part of what is put out. It comes from a context with a channel, where a step was taken, or from
the bench with its channel. -/
structure Part where
  channel : Channel
  visit : Option Visit
  events : List Event

/-- The parts that the steps of a context put out. -/
def partsOf (host own : Channel) (visits : List Visit) : List Part :=
  visits.map fun v => ⟨own,some v,v.output host own⟩

variable {tree : FileTree}

lemma fail_events (c : Context) (text : Except Fault String) :
    (c.fail text).events = c.channel.failure (some text) := by
  cases text <;> rfl

lemma decided_events (c : Context) (found : Except Fault Bool) (text : Except Fault String) :
    (c.decided found text).events = c.channel.failure (refuted found text) := by
  cases found with
  | error f => rfl
  | ok b =>
    cases b with
    | true => rfl
    | false => exact fail_events c text

lemma pushError_events (h : Host) (text : String) : (h.pushError text).2.2 =
    (Action.pushError text).output h.channel h.channel h.reports := by
  unfold Host.pushError Action.output
  cases h.reports.truth with
  | error f => rfl
  | ok b => cases b <;> rfl

lemma action_events (a : Action) (s : Scene) :
    (a.run tree s).events = a.output s.host.channel s.context.channel s.host.reports := by
  cases a with
  | assertTrue condition message => exact decided_events s.context _ _
  | assertEqual left right message => exact decided_events s.context _ _
  | assertFail message => exact fail_events s.context _
  | assertReports message => exact decided_events s.context _ _
  | pushError message => exact pushError_events s.host message
  | setReports value => cases h : value.truth <;> simp [Action.run,Scene.toggle,h] <;> rfl
  | _ => rfl

/-- No action changes where diagnostics go. -/
lemma action_channels (a : Action) (s : Scene) :
    (a.run tree s).scene.host.channel = s.host.channel ∧
      (a.run tree s).scene.context.channel = s.context.channel := by
  cases a with
  | assertTrue condition message => exact ⟨rfl,decided_channel s.context _ _⟩
  | assertEqual left right message => exact ⟨rfl,decided_channel s.context _ _⟩
  | assertReports message => exact ⟨rfl,decided_channel s.context _ _⟩
  | pushError message => exact ⟨s.host.pushError_channel message,rfl⟩
  | setReports value => cases h : value.truth <;> simp [Action.run,Scene.toggle,Host.withReports,h]
  | _ => exact ⟨rfl,rfl⟩

lemma lasting_channels : Lasting tree fun s t =>
    t.host.channel = s.host.channel ∧ t.context.channel = s.context.channel where
  refl _ := ⟨rfl,rfl⟩
  trans h k := ⟨k.1.trans h.1,k.2.trans h.2⟩
  act := action_channels
  restore h := h

lemma step_output {step : Step} {s : Scene}
    (h : (runAll tree step.body s).events =
      (visitsFrom s.snapshot (runAll tree step.body s).records).flatMap
        (Visit.output s.host.channel s.context.channel)) :
    (step.run tree s).events = ((step.recorded tree s).visits s.snapshot).flatMap
      (Visit.output s.host.channel s.context.channel) := by
  rw [recorded_visits,List.flatMap_cons]
  cases step with
  | act a bails =>
    rw [run_act,action_events]
    simp [Step.body,visitsFrom,Visit.output,Visit.of,Step.recorded,Record.step,Scene.snapshot]
  | preserved steps bails =>
    rw [run_preserved]
    simpa [Progress.preserving,Visit.output,Visit.of,Step.recorded,Record.step,Step.body] using h
  | attempt steps bails =>
    rw [run_attempt]
    simpa [Progress.surviving,Visit.output,Visit.of,Step.recorded,Record.step,Step.body] using h

/-- What a run of steps puts out is what the steps that it comes to put out, in order. -/
theorem runAll_output (steps : List Step) (s : Scene) :
    (runAll tree steps s).events =
      (visitsFrom s.snapshot (runAll tree steps s).records).flatMap
        (Visit.output s.host.channel s.context.channel) := by
  induction steps, s using runAll_induction tree with
  | nil s => simp [visitsFrom]
  | cons step steps s hbody hrest =>
    have hstep := step_output hbody
    by_cases on : step.GoesOn tree s
    · have hbehind := hrest on
      obtain ⟨hhost,hown⟩ := (lasting_channels : Lasting tree _).of_run step s
      rw [hhost,hown] at hbehind
      rw [runAll_of_goesOn on]
      simp only [visitsFrom,List.flatMap_append,hstep,hbehind]
      rfl
    · rw [runAll_of_not_goesOn on]
      simp only [visitsFrom,List.append_nil,hstep]

/-- The parts that a test puts out which is tried on a bench. -/
def testParts (tree : FileTree) (e : Bench × Target) : List Part :=
  partsOf e.1.host.channel e.1.channel
    (visitsFrom e.1.scene.snapshot (e.1.call tree e.2).records)

lemma partsOf_events (host own : Channel) (visits : List Visit) :
    (partsOf host own visits).flatMap Part.events = visits.flatMap (Visit.output host own) := by
  simp [partsOf,List.flatMap_map]

/-- What a test puts out is what its steps put out. -/
lemma call_output (b : Bench) (target : Target) :
    (b.call tree target).events = (testParts tree (b,target)).flatMap Part.events := by
  rw [testParts,partsOf_events,Bench.call,call_records]
  obtain ⟨name,callable⟩ := target
  cases callable with
  | test steps => exact runAll_output steps b.scene
  | other refusal => simp [Callable.run,Callable.steps,visitsFrom]

/-- Every test of a run works on the same channels. -/
lemma onBenches_channels {b : Bench} {targets : List Target} :
    ∀ e ∈ onBenches tree b targets, e.1.channel = b.channel ∧
      e.1.host.channel = b.host.channel := by
  induction targets generalizing b with
  | nil => simp [onBenches]
  | cons target targets ih =>
    intro e he
    rcases List.mem_cons.mp he with rfl | he
    · exact ⟨rfl,rfl⟩
    · obtain ⟨hown,hhost⟩ := ih e he
      rw [runTest_channel] at hown
      rw [runTest_host,Bench.call,call_scene] at hhost
      have hlast := (lasting_channels : Lasting tree _).of_runAll target.callable.steps b.scene
      exact ⟨hown,hhost.trans hlast.1⟩

namespace Run

/-- What a bench adds behind a test, the `index`-th of `total`: what it reports of the test, and a line
if there is an outcome. -/
def behind (total index : ℕ) (t : Trial) : List Event :=
  t.report ++ match t.result with
    | .ok outcome => [.printed (statusLine index total outcome outcome.name)]
    | .error _ => []

/-- What a bench adds at the end of a run of `total` tests that has a summary. -/
def ending (total : ℕ) : Except Fault Summary → List Event
  | .ok s =>
    (if s.interrupted then [interruption s.outcomes.length total] else []) ++ [closing s]
  | .error _ => []

/-- The tests of a run that were begun, each with the bench that it was tried on. -/
def begun (tree : FileTree) (b : Bench) (targets : List Target) : List (Bench × Target) :=
  (onBenches tree b targets).take (Run.of tree b targets).trials.length

/-- The parts of tests from the `index`-th of `total` on, each with what a bench with a channel adds
behind it. -/
def partsFrom (tree : FileTree) (c : Channel) (total index : ℕ) (es : List (Bench × Target)) :
    List Part :=
  (es.zipIdx index).flatMap fun e =>
    testParts tree e.1 ++ [⟨c,none,behind total e.2 (tried tree e.1)⟩]

/-- The parts that a run puts out: the tests in order, and the bench before, between and after
them. -/
def parts (tree : FileTree) (b : Bench) (targets : List Target) : List Part :=
  ⟨b.channel,none,opening targets.length⟩ ::
    partsFrom tree b.channel targets.length 1 (begun tree b targets) ++
    [⟨b.channel,none,ending targets.length (Run.of tree b targets).result⟩]

variable {total index : ℕ} {b : Bench} {targets : List Target}

/-- What a series puts out: for every test begun, what the test puts out and what the bench adds
behind it. -/
lemma series_events : (series tree total index b targets).events =
    (((onBenches tree b targets).take (series tree total index b targets).trials.length).zipIdx
      index).flatMap fun e => (e.1.1.call tree e.1.2).events ++ behind total e.2 (tried tree e.1) := by
  induction targets generalizing index b with
  | nil => simp [series,onBenches]
  | cons target targets ih =>
    have hevents : (b.runTest tree target).events =
        (b.call tree target).events ++ (b.runTest tree target).report := by
      rw [Trial.events,runTest_shown]
    cases h : (b.runTest tree target).result with
    | error f =>
      rw [series_of_fault h]
      simp [onBenches,behind,tried,h,hevents]
    | ok outcome =>
      obtain ⟨_,hname,_⟩ := told_of_outcome h
      rw [series_of_outcome h]
      simp [onBenches,behind,tried,h,hevents,ih,hname]

lemma behind_of_fault (total index : ℕ) {f : Fault} (h : (b.runTest tree target).result = .error f) :
    behind total index (b.runTest tree target) = [] := by
  simp [behind,h,(runTest_of_fault h).2]

lemma of_events_of_tests (tree : FileTree) (b : Bench) (targets : List Target) :
    (Run.of tree b targets).events = opening targets.length ++ (tests tree b targets).events ++
      ending targets.length (Run.of tree b targets).result := by
  cases h : (series tree targets.length 1 b targets).fault with
  | none => simp [Run.of,tests,finish,ending,h]
  | some f =>
    by_cases hi : f.isInterrupt = true
    · simp [Run.of,tests,finish,ending,h,hi]
    · simp [Run.of,tests,ending,h,hi]

/-- What a run puts out is all of its parts, in order. -/
theorem of_events (tree : FileTree) (b : Bench) (targets : List Target) :
    (Run.of tree b targets).events = (parts tree b targets).flatMap Part.events := by
  rw [of_events_of_tests,tests,series_events,parts,partsFrom,begun,of_trials,tests]
  simp only [List.cons_append,List.flatMap_cons,List.flatMap_append,List.flatMap_nil,
    List.append_nil,List.append_assoc,List.flatMap_assoc,call_output]

end Run

namespace Session

/-- What a turn of a session works on. -/
def scene (s : Session) (turn : Turn) : Scene :=
  ⟨s.host,s.contexts.getD turn.context (.new s.host.channel),s.imports⟩

/-- The parts that a session puts out, turn by turn. -/
def parts (tree : FileTree) : Session → List Turn → List Part
  | _, [] => []
  | s, turn :: turns =>
    partsOf s.host.channel (s.scene turn).context.channel
        ((s.take tree turn).1.record.visits (s.scene turn).snapshot) ++
      parts tree (s.take tree turn).2 turns

lemma take_output (s : Session) (turn : Turn) : (s.take tree turn).1.events =
    ((s.take tree turn).1.record.visits (s.scene turn).snapshot).flatMap
      (Visit.output s.host.channel (s.scene turn).context.channel) :=
  step_output (runAll_output turn.step.body (s.scene turn))

/-- What a session puts out is all of its parts, in order. -/
theorem run_events (tree : FileTree) (s : Session) (turns : List Turn) :
    (s.run tree turns).1.flatMap Taken.events = (s.parts tree turns).flatMap Part.events := by
  induction turns generalizing s with
  | nil => rfl
  | cons turn turns ih =>
    rw [parts,List.flatMap_append,partsOf_events,← take_output,← ih]
    rfl

end Session
end TestBench
