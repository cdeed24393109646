import TestBench.Proofs.Completion
import TestBench.Proofs.ControlSequence
import TestBench.Proofs.HostErrors

/-! What is done on channels, and what streams and logs have of it. Every operation gives the stream of
its channel a text; an error is recorded as well, by its bare text, if the channel has a log, and what
leaves a test is recorded by the bench and not through the channel. Both sinks are fed by the same
operations in the same order, and by nothing else. -/
namespace TestBench

/-- Something that is done on a channel: an empty line, a line, an error, or the report of a fault that
left a test. -/
inductive Operation
  | blank
  | write (text : String)
  | error (text : String)
  | report (test kind line : String)

namespace Operation

/-- What a stream that is no terminal gets of an operation. -/
def shown : Operation → String
  | .blank => "\n"
  | .write text => Text.strip text ++ "\n"
  | .error text => Text.strip text ++ "\n"
  | .report _ _ line => "\n" ++ (Text.strip ("test raised an exception:  " ++ line) ++ "\n")

/-- The record of an error, if its channel has a log. -/
def errorRecord? (logs : Bool) : Operation → Option LogRecord
  | .error text => if logs then some ⟨.error,text,none⟩ else none
  | _ => none

/-- The record of an operation. That of a report is the bench's own, and tells the kind of the fault. -/
def record? (logs : Bool) : Operation → Option LogRecord
  | .report test kind _ => some ⟨.error,"Test '" ++ test ++ "' raised",some kind⟩
  | o => o.errorRecord? logs

end Operation

/-- An operation with the channel that it is done on. -/
structure Deed where
  channel : Channel
  operation : Operation

/-- What an assertion does that fails: an empty line and, if its text can be made up, an error. -/
def failing : Option (Except Fault String) → List Operation
  | none => []
  | some (.ok text) => [.blank,.error text]
  | some (.error _) => [.blank]

/-- What an action does on channels that meets a toggle. -/
def Action.deeds (host own : Channel) (reports : Value) : Action → List Deed
  | .pushError message =>
    match reports.truth with
    | .ok true => [⟨host,.error message⟩]
    | _ => []
  | .blank => [⟨own,.blank⟩]
  | .channelBlank => [⟨own,.blank⟩]
  | .printError message => [⟨own,.error message⟩]
  | .channelError message => [⟨own,.error message⟩]
  | .channelWrite message => [⟨own,.write message⟩]
  | a => (failing (a.failure? reports)).map (Deed.mk own)

def Visit.deeds (host own : Channel) (v : Visit) : List Deed :=
  match v.record.step with
  | .act a _ => a.deeds host own v.before.reports
  | _ => []

/-- The report of the fault that left a test, if it can be told. -/
def Bench.reportDeeds (b : Bench) (name : String) (p : Progress) : List Deed :=
  match p.fault with
  | none => []
  | some f =>
    match f.told with
    | .ok line => [⟨b.channel,.report name f.kind line⟩]
    | .error _ => []

/-- What is done on channels when a test is tried on a bench: what its steps do, and the report. -/
def testDeeds (tree : FileTree) (e : Bench × Target) : List Deed :=
  (visitsFrom e.1.scene.snapshot (e.1.call tree e.2).records).flatMap
      (Visit.deeds e.1.host.channel e.1.channel) ++
    e.1.reportDeeds e.2.name (e.1.call tree e.2)

/-- What a run does on channels, test by test. -/
def Run.deeds (tree : FileTree) (b : Bench) (targets : List Target) : List Deed :=
  (begun tree b targets).flatMap (testDeeds tree)

/-- What a session does on channels, turn by turn. -/
def Session.deeds (tree : FileTree) : Session → List Turn → List Deed
  | _, [] => []
  | s, turn :: turns =>
    ((s.take tree turn).1.record.visits (s.scene turn).snapshot).flatMap
        (Visit.deeds s.host.channel (s.scene turn).context.channel) ++
      deeds tree (s.take tree turn).2 turns

def LogRecord.isError (r : LogRecord) : Bool := r.level = .error

/-- A record that tells of an error and of no fault: what a channel with a log records. -/
def LogRecord.isChannels (r : LogRecord) : Bool := r.isError && r.fault.isNone

/-- What is put out apart from the lines that tests and benches print. -/
def diagnosticsOf (events : List Event) : List Event := events.filter fun e => !e.isPrinted

/-- A stream other than the ordinary output gets diagnostics alone. -/
lemma textOn_diagnosticsOf {terminal : Bool} {stream : Stream} (hs : stream ≠ .output)
    (events : List Event) :
    textOn terminal stream (diagnosticsOf events) = textOn terminal stream events := by
  induction events with
  | nil => rfl
  | cons e es ih =>
    rw [textOn_cons,← ih,diagnosticsOf,diagnosticsOf]
    cases e with
    | printed text => simp [Event.isPrinted,Event.textOn,hs]
    | _ => exact textOn_cons ..

/-- What operations put on a stream that is no terminal. -/
def shownOn (stream : Stream) (deeds : List Deed) : String :=
  String.join ((deeds.filter fun d => d.channel.stream = stream).map fun d => d.operation.shown)

/-- Streams and logs have of events what operations put there, in order and nothing else. -/
structure Agrees (deeds : List Deed) (events : List Event) : Prop where
  /-- Printed lines go to the ordinary output, and are no diagnostics even if a channel writes there. -/
  diagnostics : ∀ stream, textOn false stream (diagnosticsOf events) = shownOn stream deeds
  /-- The records of errors are those of the operations, the bench's own among them. -/
  errors : (recordsOf events).filter LogRecord.isError =
    deeds.filterMap fun d => d.operation.record? d.channel.logs
  /-- Through the channels come the bare texts of errors alone. -/
  channels : (recordsOf events).filter LogRecord.isChannels =
    deeds.filterMap fun d => d.operation.errorRecord? d.channel.logs

namespace Agrees

variable {deeds deeds' : List Deed} {events events' : List Event}

lemma append (h : Agrees deeds events) (h' : Agrees deeds' events') :
    Agrees (deeds ++ deeds') (events ++ events') where
  diagnostics stream := by
    rw [diagnosticsOf,List.filter_append,textOn_append,shownOn,List.filter_append,List.map_append,
      String.join_append]
    exact congrArg₂ (· ++ ·) (h.diagnostics stream) (h'.diagnostics stream)
  errors := by
    rw [recordsOf_append,List.filter_append,h.errors,h'.errors,List.filterMap_append]
  channels := by
    rw [recordsOf_append,List.filter_append,h.channels,h'.channels,List.filterMap_append]

lemma nil : Agrees [] [] := ⟨fun _ => rfl,rfl,rfl⟩

lemma flatMap {α : Type} {f : α → List Deed} {g : α → List Event} {xs : List α}
    (h : ∀ x ∈ xs, Agrees (f x) (g x)) : Agrees (xs.flatMap f) (xs.flatMap g) := by
  induction xs with
  | nil => exact .nil
  | cons x xs ih =>
    obtain ⟨hx,hxs⟩ := List.forall_mem_cons.mp h
    exact hx.append (ih hxs)

lemma printed (text : String) : Agrees [] [.printed text] where
  diagnostics _ := rfl
  errors := rfl
  channels := rfl

lemma logged {r : LogRecord} (h : r.isError = false) : Agrees [] [.logged r] where
  diagnostics _ := rfl
  errors := by simp [recordsOf,Event.record?,h]
  channels := by simp [recordsOf,Event.record?,LogRecord.isChannels,h]

lemma line_shown (text : String) : Event.lineText false text = Text.strip text ++ "\n" := by
  rw [Event.lineText,if_neg Bool.false_ne_true,Text.strip_styled]

lemma blank (c : Channel) : Agrees [⟨c,.blank⟩] c.blank where
  diagnostics stream := by
    by_cases h : c.stream = stream <;>
      simp [Channel.blank,diagnosticsOf,shownOn,Event.isPrinted,Event.textOn,Operation.shown,h]
  errors := rfl
  channels := rfl

lemma write (c : Channel) (text : String) : Agrees [⟨c,.write text⟩] (c.write text) where
  diagnostics stream := by
    by_cases h : c.stream = stream <;>
      simp [Channel.write,diagnosticsOf,shownOn,Event.isPrinted,Event.textOn,Operation.shown,
        line_shown,h]
  errors := rfl
  channels := rfl

lemma error (c : Channel) (text : String) : Agrees [⟨c,.error text⟩] (c.error text) := by
  obtain ⟨own,logs⟩ := c
  refine ⟨fun stream => ?_,?_,?_⟩
  · by_cases h : own = stream <;> cases logs <;>
      simp [Channel.error,diagnosticsOf,shownOn,Event.isPrinted,Event.textOn,Operation.shown,
        line_shown,h]
  · cases logs <;> rfl
  · cases logs <;> rfl

lemma failure (c : Channel) (text : Option (Except Fault String)) :
    Agrees ((failing text).map (Deed.mk c)) (c.failure text) := by
  match text with
  | none => exact .nil
  | some (.error _) => exact .blank c
  | some (.ok text) => exact (Agrees.blank c).append (.error c text)

lemma action (host own : Channel) (reports : Value) (a : Action) :
    Agrees (a.deeds host own reports) (a.output host own reports) := by
  cases a with
  | pushError message =>
    unfold Action.deeds Action.output
    match reports.truth with
    | .ok true => exact .error host message
    | .ok false => exact .nil
    | .error _ => exact .nil
  | print message => exact .printed message
  | blank => exact .blank own
  | channelBlank => exact .blank own
  | printError message => exact .error own message
  | channelError message => exact .error own message
  | channelWrite message => exact .write own message
  | _ =>
    simp only [Action.deeds,Action.output]
    exact .failure own _

lemma visit (host own : Channel) (v : Visit) : Agrees (v.deeds host own) (v.output host own) := by
  unfold Visit.deeds Visit.output
  cases v.record.step with
  | act a bails => exact .action host own _ a
  | preserved steps bails => exact .nil
  | attempt steps bails => exact .nil

/-- The report of a fault: one record that is the bench's own, an empty line and a line. -/
lemma faultReport (b : Bench) (name kind line : String) :
    Agrees [⟨b.channel,.report name kind line⟩] (b.faultReport name kind line) where
  diagnostics stream := by
    by_cases h : b.channel.stream = stream <;>
      simp [Bench.faultReport,Channel.blank,Channel.write,diagnosticsOf,shownOn,Event.isPrinted,
        Event.textOn,Operation.shown,line_shown,h]
  errors := rfl
  channels := rfl

end Agrees

variable {tree : FileTree} {b : Bench} {target : Target} {targets : List Target}

lemma reportDeeds_of_told {p : Progress} {f : Fault} {line : String} (name : String)
    (hf : p.fault = some f) (h : f.told = .ok line) :
    b.reportDeeds name p = [⟨b.channel,.report name f.kind line⟩] := by
  simp only [Bench.reportDeeds,hf,h]

lemma reportDeeds_of_untold {p : Progress} {g : Fault} (name : String) (h : p.told = .error g) :
    b.reportDeeds name p = [] := by
  unfold Progress.told at h
  unfold Bench.reportDeeds
  cases hf : p.fault with
  | none => rfl
  | some f =>
    cases ht : f.told with
    | error g => simp only [ht]
    | ok line =>
      rw [hf] at h
      simp only [ht] at h
      cases h

lemma reportDeeds_channel {name : String} {p : Progress} :
    ∀ d ∈ b.reportDeeds name p, d.channel = b.channel := by
  intro d hd
  unfold Bench.reportDeeds at hd
  split at hd
  · cases hd
  · split at hd
    · exact congrArg Deed.channel (List.mem_singleton.mp hd)
    · cases hd

lemma line_of_told {f : Fault} {line : String} (h : f.told = .ok line) : f.line = .ok line := by
  obtain ⟨_,text,htext,rfl⟩ := Fault.told_eq_ok.mp h
  simp [Fault.line,htext,Except.map]

lemma agrees_escapeReport {p : Progress} {error : Option String} (name : String)
    (h : p.told = .ok error) : Agrees (b.reportDeeds name p) (b.escapeReport name p) := by
  unfold Progress.told at h
  cases hf : p.fault with
  | none =>
    simp only [Bench.reportDeeds,Bench.escapeReport,hf]
    exact .nil
  | some f =>
    cases ht : f.told with
    | error g =>
      rw [hf] at h
      simp only [ht] at h
      cases h
    | ok line =>
      rw [reportDeeds_of_told name hf ht]
      simp only [Bench.escapeReport,hf,line_of_told ht]
      exact .faultReport b name f.kind line

/-- What a bench reports of a test is what it does on its channel: the report of the fault that left the
test, if that can be told. -/
lemma agrees_report (tree : FileTree) (b : Bench) (target : Target) :
    Agrees (b.reportDeeds target.name (b.call tree target)) (b.runTest tree target).report := by
  rcases runTest_cases tree b target with ⟨error,ht,hr⟩ | ⟨f,ht,hr⟩
  · rw [hr,← List.append_nil (b.reportDeeds _ _)]
    exact (agrees_escapeReport target.name ht).append (.logged rfl)
  · rw [hr,reportDeeds_of_untold target.name ht]
    exact .nil

lemma agrees_call (tree : FileTree) (b : Bench) (target : Target) :
    Agrees ((visitsFrom b.scene.snapshot (b.call tree target).records).flatMap
      (Visit.deeds b.host.channel b.channel)) (b.call tree target).events := by
  rw [call_output,testParts,partsOf_events]
  exact .flatMap fun v _ => .visit _ _ v

/-- A test with what the bench adds behind it. -/
lemma agrees_test (total index : ℕ) (e : Bench × Target) : Agrees (testDeeds tree e)
    ((e.1.call tree e.2).events ++ Run.behind total index (tried tree e)) := by
  refine (agrees_call tree e.1 e.2).append ?_
  rw [Run.behind,← List.append_nil (e.1.reportDeeds _ _)]
  refine (agrees_report tree e.1 e.2).append ?_
  split
  · exact .printed _
  · exact .nil

lemma agrees_opening (total : ℕ) : Agrees [] (Run.opening total) :=
  (Agrees.printed _).append (.logged rfl)

lemma agrees_ending (total : ℕ) (result : Except Fault Summary) :
    Agrees [] (Run.ending total result) := by
  cases result with
  | error f => exact .nil
  | ok s =>
    rw [Run.ending,← List.nil_append ([] : List Deed)]
    refine .append ?_ (.logged rfl)
    split
    · exact .logged rfl
    · exact .nil

lemma action_deed_channel {host own : Channel} {reports : Value} {a : Action} {d : Deed}
    (hd : d ∈ a.deeds host own reports) : d.channel = host ∨ d.channel = own := by
  cases a with
  | pushError message =>
    simp only [Action.deeds] at hd
    split at hd
    · exact .inl (congrArg Deed.channel (List.mem_singleton.mp hd))
    · cases hd
  | blank => exact .inr (congrArg Deed.channel (List.mem_singleton.mp hd))
  | channelBlank => exact .inr (congrArg Deed.channel (List.mem_singleton.mp hd))
  | printError message => exact .inr (congrArg Deed.channel (List.mem_singleton.mp hd))
  | channelError message => exact .inr (congrArg Deed.channel (List.mem_singleton.mp hd))
  | channelWrite message => exact .inr (congrArg Deed.channel (List.mem_singleton.mp hd))
  | _ =>
    obtain ⟨o,_,rfl⟩ := List.mem_map.mp hd
    exact .inr rfl

lemma deed_channel {host own : Channel} {v : Visit} :
    ∀ d ∈ v.deeds host own, d.channel = host ∨ d.channel = own := by
  intro d hd
  unfold Visit.deeds at hd
  cases hstep : v.record.step with
  | act a bails =>
    rw [hstep] at hd
    exact action_deed_channel hd
  | preserved steps bails =>
    rw [hstep] at hd
    cases hd
  | attempt steps bails =>
    rw [hstep] at hd
    cases hd

namespace Run

lemma deeds_zipIdx (tree : FileTree) (index : ℕ) (es : List (Bench × Target)) :
    es.flatMap (testDeeds tree) = (es.zipIdx index).flatMap fun e => testDeeds tree e.1 := by
  conv_lhs => rw [← List.zipIdx_map_fst index es,List.flatMap_map]

theorem agrees (tree : FileTree) (b : Bench) (targets : List Target) :
    Agrees (deeds tree b targets) (Run.of tree b targets).events := by
  rw [of_events_of_tests,tests,series_events,deeds,begun,of_trials,tests,deeds_zipIdx tree 1,
    ← List.append_nil (List.flatMap _ _),← List.nil_append (List.flatMap _ _)]
  refine ((agrees_opening _).append (.flatMap fun e _ => ?_)).append (agrees_ending _ _)
  exact agrees_test targets.length e.2 e.1

lemma mem_deeds_channel {d : Deed} (hd : d ∈ deeds tree b targets) :
    d.channel = b.channel ∨ d.channel = b.host.channel := by
  obtain ⟨e,he,hd⟩ := List.mem_flatMap.mp hd
  obtain ⟨hown,hhost⟩ := onBenches_channels e (List.mem_of_mem_take he)
  rw [← hown,← hhost]
  rcases List.mem_append.mp hd with hd | hd
  · obtain ⟨v,_,hd⟩ := List.mem_flatMap.mp hd
    exact (deed_channel d hd).symm
  · exact .inl (reportDeeds_channel d hd)

end Run

namespace Session

theorem agrees (tree : FileTree) (s : Session) (turns : List Turn) :
    Agrees (s.deeds tree turns) ((s.run tree turns).1.flatMap Taken.events) := by
  induction turns generalizing s with
  | nil => exact .nil
  | cons turn turns ih =>
    rw [deeds,run,List.flatMap_cons,take_output]
    exact (Agrees.flatMap fun v _ => .visit _ _ v).append (ih _)

lemma mem_deeds_channel {s : Session} {turns : List Turn} {d : Deed} (hd : d ∈ s.deeds tree turns) :
    d.channel = s.host.channel ∨ ∃ turn ∈ turns, d.channel = (s.scene turn).context.channel := by
  induction turns generalizing s with
  | nil => cases hd
  | cons turn turns ih =>
    rcases List.mem_append.mp hd with hd | hd
    · obtain ⟨v,_,hd⟩ := List.mem_flatMap.mp hd
      exact (deed_channel d hd).imp_right fun hown => ⟨turn,List.mem_cons_self,hown⟩
    · rcases ih hd with hhost | ⟨turn',hmem,hown⟩
      · exact .inl (hhost.trans (take_host_channel s turn))
      · rw [take_scene_channel] at hown
        exact .inr ⟨turn',List.mem_cons_of_mem _ hmem,hown⟩

end Session

/-- The report of a fault that can be told is the one thing that a bench does on its channel. One that
cannot be told leaves nothing, neither on the stream nor in the log. -/
lemma agrees_escape {e : Bench × Target} {f : Fault} (hf : (e.1.call tree e.2).fault = some f) :
    (f.Tellable → ∃ line, f.line = .ok line ∧
      Agrees [⟨e.1.channel,.report e.2.name f.kind line⟩] (tried tree e).report) ∧
    (¬f.Tellable → Agrees [] (tried tree e).report) := by
  have hreport := agrees_report tree e.1 e.2
  constructor
  · rintro ⟨ho,text,htext⟩
    have htold := Fault.told_eq_ok.mpr ⟨ho,text,htext,rfl⟩
    rw [reportDeeds_of_told e.2.name hf htold] at hreport
    exact ⟨_,line_of_told htold,hreport⟩
  · intro h
    cases htold : f.told with
    | ok line =>
      obtain ⟨ho,text,htext,_⟩ := Fault.told_eq_ok.mp htold
      exact (h ⟨ho,text,htext⟩).elim
    | error g =>
      have huntold : (e.1.call tree e.2).told = .error g := by
        simp [Progress.told,Except.map,hf,htold]
      rwa [reportDeeds_of_untold e.2.name huntold] at hreport

/-- Of every run and every session, streams and logs have what was done on channels, each operation once
and in order, and nothing else. A fault that leaves a test and can be told is told by the bench alone,
with one record, an empty line and a line. One that cannot be told is in neither. -/
theorem streams_and_logs_agree (tree : FileTree) :
    (∀ (s : Session) (turns : List Turn),
      Agrees (s.deeds tree turns) ((s.run tree turns).1.flatMap Taken.events) ∧
      ∀ d ∈ s.deeds tree turns, d.channel = s.host.channel ∨
        ∃ turn ∈ turns, d.channel = (s.scene turn).context.channel) ∧
    (∀ (b : Bench) (targets : List Target),
      Agrees (Run.deeds tree b targets) (Run.of tree b targets).events ∧
      (∀ d ∈ Run.deeds tree b targets, d.channel = b.channel ∨ d.channel = b.host.channel) ∧
      ∀ e ∈ Run.begun tree b targets, ∀ f, (e.1.call tree e.2).fault = some f →
        (f.Tellable → ∃ line, f.line = .ok line ∧
          Agrees [⟨b.channel,.report e.2.name f.kind line⟩] (tried tree e).report) ∧
        (¬f.Tellable → Agrees [] (tried tree e).report)) ∧
    ∀ deeds events, Agrees deeds events → ∀ stream, stream ≠ .output →
      textOn false stream events = shownOn stream deeds := by
  refine ⟨fun s turns => ⟨s.agrees tree turns,fun d => Session.mem_deeds_channel⟩,fun b targets => ?_,?_⟩
  · refine ⟨Run.agrees tree b targets,fun d => Run.mem_deeds_channel,fun e he f hf => ?_⟩
    obtain ⟨hown,_⟩ := onBenches_channels e (List.mem_of_mem_take he)
    rw [← hown]
    exact agrees_escape hf
  · intro deeds events h stream hs
    rw [← textOn_diagnosticsOf hs,h.diagnostics]

/-- An ordinary fault with a text that cannot be made up leaves a test, and neither the log nor the
stream of the bench has anything of it. -/
theorem escape_told_nowhere :
    let silent : Value := .object (.raises (Fault.say "RuntimeError" "no text")) none (.gives true)
    let c : Channel := ⟨.main,true⟩
    let target : Target := ⟨"b",.test [.act (.raise ⟨"ValueError",[silent]⟩) false]⟩
    let b : Bench := ⟨.new c (.bool true),c,⟨[],[]⟩,⟨[]⟩⟩
    (∃ f, (b.call .empty target).fault = some f ∧ f.ordinary = true) ∧
      textOn false .main (Run.of .empty b [target]).events = "" ∧
      (recordsOf (Run.of .empty b [target]).events).filter LogRecord.isError = [] :=
  ⟨⟨_,rfl,rfl⟩,rfl,rfl⟩

end TestBench
