import TestBench.Proofs.Output

/-! The errors of the host. Each that a test or a session pushes is either told once, on the host's own
channel, or counted, and the toggle of that moment decides which. Everything else that diagnoses goes
to the channel of the context that it comes from, whatever the toggle. -/
namespace TestBench

/-- The text of the error of the host that a step pushes. -/
def Visit.pushed? (v : Visit) : Option String :=
  match v.record.step with
  | .act (.pushError text) _ => some text
  | _ => none

/-- The line that a step prints. -/
def Visit.printed? (v : Visit) : Option String :=
  match v.record.step with
  | .act (.print text) _ => some text
  | _ => none

/-- Does an action push an error of the host while the toggle is off? -/
def Action.suppresses (reports : Value) : Action → Bool
  | .pushError _ =>
    match reports.truth with
    | .ok false => true
    | _ => false
  | _ => false

def Visit.suppresses (v : Visit) : Bool :=
  match v.record.step with
  | .act a _ => a.suppresses v.before.reports
  | _ => false

def Part.suppresses (p : Part) : Bool := p.visit.any Visit.suppresses

namespace Event

/-- What a channel puts out: a line or an empty line on its stream, or the record of an error if it
has a log. -/
def On (c : Channel) : Event → Prop
  | .line stream _ => stream = c.stream
  | .blank stream => stream = c.stream
  | .logged r => c.logs = true ∧ r.level = .error ∧ r.fault = none
  | .printed _ => False

/-- What a bench puts out itself: a line that it prints, a record of its own log, or something on its
channel. -/
def OfBench (c : Channel) (e : Event) : Prop :=
  (∃ text, e = .printed text) ∨ (∃ r, e = .logged r) ∨ e.On c

def isPrinted : Event → Bool
  | .printed _ => true
  | _ => false

end Event

/-- Where the output of a step goes. -/
structure Routed (host own : Channel) (v : Visit) (events : List Event) : Prop where
  /-- An error of the host is told once, on its own channel, while the toggle is on. -/
  told : ∀ text, v.pushed? = some text → v.before.reports.truth = .ok true →
    events = .line host.stream text :: if host.logs then [.logged ⟨.error,text,none⟩] else []
  untold : ∀ text, v.pushed? = some text → v.before.reports.truth ≠ .ok true → events = []
  printed : ∀ text, v.printed? = some text → events = [.printed text]
  /-- Any other step keeps to the channel of its context. -/
  diagnostic : v.pushed? = none → v.printed? = none → ∀ e ∈ events, e.On own
  /-- Neither the toggle nor the channel of the host has a say in what it puts out there, unless the
  step asserts something about the toggle. -/
  heedless : v.pushed? = none → ∀ a bails, v.record.step = .act a bails →
    (∀ message, a ≠ .assertReports message) → ∀ host' reports, events = a.output host' own reports

/-- An account of output by its parts, for a host whose count of suppressed errors was one number before
and is another one after. -/
structure Accounted (host : Channel) (before after : ℕ) (parts : List Part) (events : List Event) :
    Prop where
  whole : events = parts.flatMap Part.events
  count : after = before + parts.countP Part.suppresses
  steps : ∀ p ∈ parts, ∀ v, p.visit = some v → Routed host p.channel v p.events
  bench : ∀ p ∈ parts, p.visit = none → ∀ e ∈ p.events, e.OfBench p.channel
  /-- A stream that belongs to no channel gets the lines that are printed, and no diagnostic. -/
  elsewhere : ∀ terminal stream, stream ≠ host.stream → (∀ p ∈ parts, p.channel.stream ≠ stream) →
    textOn terminal stream events = textOn terminal stream (events.filter Event.isPrinted)

variable {tree : FileTree}

lemma error_on (c : Channel) (text : String) : ∀ e ∈ c.error text, e.On c := by
  intro e he
  rcases List.mem_cons.mp he with rfl | he
  · rfl
  · by_cases hlogs : c.logs = true
    · rw [if_pos hlogs,List.mem_singleton] at he
      subst he
      exact ⟨hlogs,rfl,rfl⟩
    · rw [if_neg hlogs] at he
      cases he

lemma blank_on (c : Channel) : ∀ e ∈ c.blank, e.On c := by
  intro e he
  obtain rfl := List.mem_singleton.mp he
  rfl

lemma write_on (c : Channel) (text : String) : ∀ e ∈ c.write text, e.On c := by
  intro e he
  obtain rfl := List.mem_singleton.mp he
  rfl

lemma failure_on (c : Channel) (text : Option (Except Fault String)) :
    ∀ e ∈ c.failure text, e.On c := by
  intro e he
  match text with
  | none => cases he
  | some (.error _) => exact blank_on c e he
  | some (.ok t) =>
    rcases List.mem_append.mp he with he | he
    · exact blank_on c e he
    · exact error_on c t e he

/-- An action that neither pushes an error nor prints keeps to the channel of its context. -/
lemma output_on (host own : Channel) (reports : Value) {a : Action}
    (hpush : ∀ text, a ≠ .pushError text) (hprint : ∀ text, a ≠ .print text) :
    ∀ e ∈ a.output host own reports, e.On own := by
  cases a with
  | pushError text => exact absurd rfl (hpush text)
  | print text => exact absurd rfl (hprint text)
  | blank => exact blank_on own
  | channelBlank => exact blank_on own
  | printError text => exact error_on own text
  | channelError text => exact error_on own text
  | channelWrite text => exact write_on own text
  | _ =>
    simp only [Action.output]
    exact failure_on own _

/-- What an action puts out does not depend on the host if the action neither pushes an error nor
asserts that the host reports. -/
lemma output_heedless (host host' own : Channel) (reports reports' : Value) {a : Action}
    (hpush : ∀ text, a ≠ .pushError text) (hreads : ∀ message, a ≠ .assertReports message) :
    a.output host own reports = a.output host' own reports' := by
  cases a with
  | pushError text => exact absurd rfl (hpush text)
  | assertReports message => exact absurd rfl (hreads message)
  | _ => rfl

lemma ne_pushError_of_pushed? {v : Visit} {a : Action} {bails : Bool}
    (hs : v.record.step = .act a bails) (h : v.pushed? = none) : ∀ text, a ≠ .pushError text := by
  rintro text rfl
  simp [Visit.pushed?,hs] at h

lemma ne_print_of_printed? {v : Visit} {a : Action} {bails : Bool}
    (hs : v.record.step = .act a bails) (h : v.printed? = none) : ∀ text, a ≠ .print text := by
  rintro text rfl
  simp [Visit.printed?,hs] at h

lemma step_of_pushed? {v : Visit} {text : String} (h : v.pushed? = some text) :
    ∃ bails, v.record.step = .act (.pushError text) bails := by
  unfold Visit.pushed? at h
  split at h
  · rename_i bails hs
    obtain rfl := Option.some.inj h
    exact ⟨bails,hs⟩
  · cases h

lemma step_of_printed? {v : Visit} {text : String} (h : v.printed? = some text) :
    ∃ bails, v.record.step = .act (.print text) bails := by
  unfold Visit.printed? at h
  split at h
  · rename_i bails hs
    obtain rfl := Option.some.inj h
    exact ⟨bails,hs⟩
  · cases h

theorem routed_output (host own : Channel) (v : Visit) : Routed host own v (v.output host own) where
  told text h hon := by
    obtain ⟨bails,hs⟩ := step_of_pushed? h
    simp only [Visit.output,hs,Action.output,hon]
    rfl
  untold text h hnot := by
    obtain ⟨bails,hs⟩ := step_of_pushed? h
    simp only [Visit.output,hs,Action.output]
  printed text h := by
    obtain ⟨bails,hs⟩ := step_of_printed? h
    simp only [Visit.output,hs,Action.output]
  diagnostic hpush hprint := by
    unfold Visit.output
    split
    · rename_i a bails hs
      exact output_on host own _ (ne_pushError_of_pushed? hs hpush) (ne_print_of_printed? hs hprint)
    · intro e he
      cases he
  heedless hpush a bails hs hreads host' reports := by
    simp only [Visit.output,hs]
    exact output_heedless host host' own _ reports (ne_pushError_of_pushed? hs hpush) hreads

section Counting

lemma pushError_count (h : Host) (text : String) : (h.pushError text).2.1.suppressed =
    h.suppressed + if (Action.pushError text).suppresses h.reports then 1 else 0 := by
  unfold Host.pushError Action.suppresses
  cases h.reports.truth with
  | error f => rfl
  | ok b => cases b <;> rfl

lemma action_count (a : Action) (s : Scene) : (a.run tree s).scene.host.suppressed =
    s.host.suppressed + if a.suppresses s.host.reports then 1 else 0 := by
  cases a with
  | pushError text => exact pushError_count s.host text
  | setReports value =>
    cases h : value.truth <;>
      simp [Action.run,Action.suppresses,Scene.toggle,Host.withReports,h]
  | _ => rfl

lemma step_count {step : Step} {s : Scene}
    (h : (runAll tree step.body s).scene.host.suppressed = s.host.suppressed +
      (visitsFrom s.snapshot (runAll tree step.body s).records).countP Visit.suppresses) :
    (step.run tree s).scene.host.suppressed = s.host.suppressed +
      ((step.recorded tree s).visits s.snapshot).countP Visit.suppresses := by
  rw [recorded_visits,List.countP_cons]
  cases step with
  | act a bails =>
    rw [run_act,action_count]
    simp [Step.body,visitsFrom,Visit.suppresses,Visit.of,Step.recorded,Record.step,Scene.snapshot]
  | preserved steps bails =>
    rw [run_preserved]
    simpa [Progress.preserving,Scene.restore,Visit.suppresses,Visit.of,Step.recorded,Record.step,
      Step.body] using h
  | attempt steps bails =>
    rw [run_attempt]
    simpa [Progress.surviving,Visit.suppresses,Visit.of,Step.recorded,Record.step,Step.body] using h

/-- The count of suppressed errors grows by one with every step that pushes an error while the toggle
is off, and stays otherwise. -/
theorem runAll_count (steps : List Step) (s : Scene) :
    (runAll tree steps s).scene.host.suppressed = s.host.suppressed +
      (visitsFrom s.snapshot (runAll tree steps s).records).countP Visit.suppresses := by
  induction steps, s using runAll_induction tree with
  | nil s => simp [visitsFrom]
  | cons step steps s hbody hrest =>
    have hstep := step_count hbody
    by_cases on : step.GoesOn tree s
    · rw [runAll_of_goesOn on]
      simp only [visitsFrom,List.countP_append,hrest on,hstep,Nat.add_assoc]
      rfl
    · rw [runAll_of_not_goesOn on]
      simp only [visitsFrom,List.append_nil,hstep]

lemma partsOf_countP (host own : Channel) (visits : List Visit) :
    (partsOf host own visits).countP Part.suppresses = visits.countP Visit.suppresses := by
  rw [partsOf,List.countP_map]
  rfl

lemma call_count (b : Bench) (target : Target) : (b.call tree target).scene.host.suppressed =
    b.host.suppressed + (testParts tree (b,target)).countP Part.suppresses := by
  rw [testParts,partsOf_countP,Bench.call,call_scene,call_records]
  exact runAll_count target.callable.steps b.scene

variable {total index : ℕ} {b : Bench} {targets : List Target}

lemma series_count : (Run.series tree total index b targets).bench.host.suppressed =
    b.host.suppressed + (((onBenches tree b targets).take
      (Run.series tree total index b targets).trials.length).flatMap
        (testParts tree)).countP Part.suppresses := by
  induction targets generalizing index b with
  | nil => simp [Run.series,onBenches]
  | cons target targets ih =>
    cases h : (b.runTest tree target).result with
    | error f =>
      rw [Run.series_of_fault h]
      simp [onBenches,call_count]
    | ok outcome =>
      rw [Run.series_of_outcome h]
      simp [onBenches,call_count,ih,Nat.add_assoc]

lemma partsFrom_count (c : Channel) (es : List (Bench × Target)) :
    (Run.partsFrom tree c total index es).countP Part.suppresses =
      (es.flatMap (testParts tree)).countP Part.suppresses := by
  have hbench : ∀ events, Part.suppresses ⟨c,none,events⟩ = false := fun _ => rfl
  induction es generalizing index with
  | nil => rfl
  | cons e es ih =>
    unfold Run.partsFrom at ih ⊢
    simp [ih,hbench]

/-- The bench itself suppresses nothing. -/
lemma parts_count : (Run.parts tree b targets).countP Part.suppresses =
    ((Run.begun tree b targets).flatMap (testParts tree)).countP Part.suppresses := by
  have hbench : ∀ events, Part.suppresses ⟨b.channel,none,events⟩ = false := fun _ => rfl
  rw [Run.parts,List.countP_append,List.countP_cons,partsFrom_count]
  simp [hbench]

lemma of_count : (Run.of tree b targets).bench.host.suppressed =
    b.host.suppressed + (Run.parts tree b targets).countP Part.suppresses := by
  rw [parts_count,Run.of_bench,Run.begun,Run.of_trials]
  exact series_count

end Counting

section Routing

variable {b : Bench} {target : Target} {targets : List Target}

lemma report_ofBench : ∀ e ∈ (b.runTest tree target).report, e.OfBench b.channel := by
  rcases runTest_cases tree b target with ⟨error,_,hr⟩ | ⟨f,_,hr⟩
  · rw [hr]
    intro e he
    rcases List.mem_append.mp he with he | he
    · unfold Bench.escapeReport at he
      split at he
      · cases he
      · split at he
        · rcases List.mem_cons.mp he with rfl | he
          · exact .inr (.inl ⟨_,rfl⟩)
          · rcases List.mem_append.mp he with he | he
            · exact .inr (.inr (blank_on b.channel e he))
            · exact .inr (.inr (write_on b.channel _ e he))
        · cases he
    · obtain rfl := List.mem_singleton.mp he
      exact .inr (.inl ⟨_,rfl⟩)
  · rw [hr]
    intro e he
    cases he

lemma behind_ofBench (total index : ℕ) :
    ∀ e ∈ Run.behind total index (b.runTest tree target), e.OfBench b.channel := by
  intro e he
  rcases List.mem_append.mp he with he | he
  · exact report_ofBench e he
  · split at he
    · obtain rfl := List.mem_singleton.mp he
      exact .inl ⟨_,rfl⟩
    · cases he

lemma opening_ofBench (c : Channel) (total : ℕ) : ∀ e ∈ Run.opening total, e.OfBench c := by
  intro e he
  rcases List.mem_cons.mp he with rfl | he
  · exact .inl ⟨_,rfl⟩
  · obtain rfl := List.mem_singleton.mp he
    exact .inr (.inl ⟨_,rfl⟩)

lemma ending_ofBench (c : Channel) (total : ℕ) (result : Except Fault Summary) :
    ∀ e ∈ Run.ending total result, e.OfBench c := by
  intro e he
  cases result with
  | error f => cases he
  | ok s =>
    rcases List.mem_append.mp he with he | he
    · split at he
      · obtain rfl := List.mem_singleton.mp he
        exact .inr (.inl ⟨_,rfl⟩)
      · cases he
    · obtain rfl := List.mem_singleton.mp he
      exact .inr (.inl ⟨_,rfl⟩)

/-- A part of a run comes from a step, or it is the bench's. -/
lemma mem_parts {p : Part} (hp : p ∈ Run.parts tree b targets) :
    (∃ v, p = ⟨b.channel,some v,v.output b.host.channel b.channel⟩) ∨
      ∃ events, p = ⟨b.channel,none,events⟩ ∧ ∀ e ∈ events, e.OfBench b.channel := by
  rw [Run.parts,Run.partsFrom,List.mem_append,List.mem_cons,List.mem_flatMap,List.mem_singleton] at hp
  obtain (rfl | ⟨⟨e,index⟩,he,hp⟩) | rfl := hp
  · exact .inr ⟨_,rfl,opening_ofBench b.channel _⟩
  · have hbegun : e ∈ Run.begun tree b targets := List.fst_mem_of_mem_zipIdx he
    obtain ⟨hown,hhost⟩ := onBenches_channels e (List.mem_of_mem_take hbegun)
    rcases List.mem_append.mp hp with hp | hp
    · obtain ⟨v,_,rfl⟩ := List.mem_map.mp hp
      rw [hown,hhost]
      exact .inl ⟨v,rfl⟩
    · obtain rfl := List.mem_singleton.mp hp
      rw [← hown]
      exact .inr ⟨_,rfl,behind_ofBench _ _⟩
  · exact .inr ⟨_,rfl,ending_ofBench b.channel _ _⟩

end Routing

section Elsewhere

variable {host own : Channel} {terminal : Bool} {stream : Stream}

lemma Event.On.textOn_eq {e : Event} {c : Channel} (h : e.On c) (hs : stream ≠ c.stream) :
    e.textOn terminal stream = "" := by
  cases e with
  | line s text => exact if_neg fun hb => hs (hb.symm.trans h)
  | blank s => exact if_neg fun hb => hs (hb.symm.trans h)
  | printed text => exact h.elim
  | logged r => rfl

lemma Routed.on {v : Visit} {events : List Event} (h : Routed host own v events) :
    ∀ e ∈ events, e.isPrinted = true ∨ e.On host ∨ e.On own := by
  intro e he
  cases hpush : v.pushed? with
  | some text =>
    by_cases hon : v.before.reports.truth = .ok true
    · rw [h.told text hpush hon] at he
      exact .inr (.inl (error_on host text e he))
    · rw [h.untold text hpush hon] at he
      cases he
  | none =>
    cases hprint : v.printed? with
    | some text =>
      rw [h.printed text hprint] at he
      obtain rfl := List.mem_singleton.mp he
      exact .inl rfl
    | none => exact .inr (.inr (h.diagnostic hpush hprint e he))

lemma textOn_filter_isPrinted {events : List Event}
    (h : ∀ e ∈ events, e.isPrinted = true ∨ e.textOn terminal stream = "") :
    textOn terminal stream events = textOn terminal stream (events.filter Event.isPrinted) := by
  induction events with
  | nil => rfl
  | cons e es ih =>
    obtain ⟨he,hes⟩ := List.forall_mem_cons.mp h
    by_cases hp : e.isPrinted = true
    · rw [List.filter_cons_of_pos hp,textOn_cons,textOn_cons,ih hes]
    · rw [List.filter_cons_of_neg hp,textOn_cons,he.resolve_left hp,String.empty_append,ih hes]

/-- Output of which every part is routed keeps off the streams of no channel. -/
lemma accounted {before after : ℕ} {parts : List Part} {events : List Event}
    (whole : events = parts.flatMap Part.events)
    (count : after = before + parts.countP Part.suppresses)
    (steps : ∀ p ∈ parts, ∀ v, p.visit = some v → Routed host p.channel v p.events)
    (bench : ∀ p ∈ parts, p.visit = none → ∀ e ∈ p.events, e.OfBench p.channel) :
    Accounted host before after parts events := by
  refine ⟨whole,count,steps,bench,fun terminal stream hhost hown => ?_⟩
  refine textOn_filter_isPrinted fun e he => ?_
  rw [whole,List.mem_flatMap] at he
  obtain ⟨p,hp,he⟩ := he
  have hside := (hown p hp).symm
  cases hv : p.visit with
  | some v =>
    rcases (steps p hp v hv).on e he with hprint | hon | hon
    · exact .inl hprint
    · exact .inr (hon.textOn_eq hhost)
    · exact .inr (hon.textOn_eq hside)
  | none =>
    rcases bench p hp hv e he with ⟨text,rfl⟩ | ⟨r,rfl⟩ | hon
    · exact .inl rfl
    · exact .inr rfl
    · exact .inr (hon.textOn_eq hside)

end Elsewhere

namespace Session

lemma take_host_channel (s : Session) (turn : Turn) :
    (s.take tree turn).2.host.channel = s.host.channel :=
  ((lasting_channels : Lasting tree _).of_run turn.step (s.scene turn)).1

/-- A turn leaves every context of a session its channel. -/
lemma take_scene_channel (s : Session) (turn turn' : Turn) :
    ((s.take tree turn).2.scene turn').context.channel = (s.scene turn').context.channel := by
  obtain ⟨hhost,hown⟩ := (lasting_channels : Lasting tree _).of_run turn.step (s.scene turn)
  change ((s.contexts.set turn.context (turn.step.run tree (s.scene turn)).scene.context).getD
    turn'.context (.new (turn.step.run tree (s.scene turn)).scene.host.channel)).channel = _
  rw [List.getD_eq_getElem?_getD,List.getElem?_set,hhost]
  by_cases hsame : turn.context = turn'.context
  · by_cases hin : turn.context < s.contexts.length
    · rw [if_pos hsame,if_pos hin,Option.getD_some,hown,scene,scene,hsame]
    · rw [if_pos hsame,if_neg hin]
      have hout : s.contexts[turn'.context]? = none := by simpa [← hsame] using hin
      simp [scene,hout]
  · rw [if_neg hsame,scene,List.getD_eq_getElem?_getD]
    rfl

lemma take_count (s : Session) (turn : Turn) :
    (s.take tree turn).2.host.suppressed = s.host.suppressed +
      ((s.take tree turn).1.record.visits (s.scene turn).snapshot).countP Visit.suppresses :=
  step_count (runAll_count turn.step.body (s.scene turn))

lemma run_count (s : Session) (turns : List Turn) : (s.run tree turns).2.host.suppressed =
    s.host.suppressed + (s.parts tree turns).countP Part.suppresses := by
  induction turns generalizing s with
  | nil => rfl
  | cons turn turns ih =>
    rw [parts,List.countP_append,partsOf_countP,← Nat.add_assoc,← take_count,← ih]
    rfl

/-- A part of a session comes from a step of a turn, with the channel of the context of that turn. -/
lemma mem_parts {s : Session} {turns : List Turn} {p : Part} (hp : p ∈ s.parts tree turns) :
    ∃ turn ∈ turns, ∃ v, p = ⟨(s.scene turn).context.channel,some v,
      v.output s.host.channel (s.scene turn).context.channel⟩ := by
  induction turns generalizing s with
  | nil => cases hp
  | cons turn turns ih =>
    rcases List.mem_append.mp hp with hp | hp
    · obtain ⟨v,_,rfl⟩ := List.mem_map.mp hp
      exact ⟨turn,List.mem_cons_self,v,rfl⟩
    · obtain ⟨turn',hmem,v,rfl⟩ := ih hp
      rw [take_scene_channel,take_host_channel]
      exact ⟨turn',List.mem_cons_of_mem _ hmem,v,rfl⟩

theorem accounted (s : Session) (turns : List Turn) :
    Accounted s.host.channel s.host.suppressed (s.run tree turns).2.host.suppressed
      (s.parts tree turns) ((s.run tree turns).1.flatMap Taken.events) := by
  refine TestBench.accounted (run_events tree s turns) (run_count s turns) ?_ ?_
  · intro p hp v hv
    obtain ⟨_,_,w,rfl⟩ := mem_parts hp
    obtain rfl := Option.some.inj hv
    exact routed_output _ _ w
  · intro p hp hv
    obtain ⟨_,_,w,rfl⟩ := mem_parts hp
    cases hv

end Session

theorem Run.accounted (tree : FileTree) (b : Bench) (targets : List Target) :
    Accounted b.host.channel b.host.suppressed (Run.of tree b targets).bench.host.suppressed
      (Run.parts tree b targets) (Run.of tree b targets).events := by
  refine TestBench.accounted (Run.of_events tree b targets) of_count ?_ ?_
  · intro p hp v hv
    obtain ⟨w,rfl⟩ | ⟨events,rfl,_⟩ := mem_parts hp
    · obtain rfl := Option.some.inj hv
      exact routed_output _ _ w
    · cases hv
  · intro p hp hv
    obtain ⟨w,rfl⟩ | ⟨events,rfl,hbench⟩ := mem_parts hp
    · cases hv
    · exact hbench

/-- Whatever is done in a session or a run, no error of the host is lost, told twice or told elsewhere:
each is told once on the channel of the host or counted, and all other diagnostics go to the channel of
the context that they come from. -/
theorem host_errors_accounted (tree : FileTree) :
    (∀ (s : Session) (turns : List Turn),
      Accounted s.host.channel s.host.suppressed (s.run tree turns).2.host.suppressed
        (s.parts tree turns) ((s.run tree turns).1.flatMap Taken.events) ∧
      ∀ p ∈ s.parts tree turns, p.visit.isSome = true ∧
        ∃ turn ∈ turns, p.channel = (s.scene turn).context.channel) ∧
    ∀ (b : Bench) (targets : List Target),
      Accounted b.host.channel b.host.suppressed (Run.of tree b targets).bench.host.suppressed
        (Run.parts tree b targets) (Run.of tree b targets).events ∧
      ∀ p ∈ Run.parts tree b targets, p.channel = b.channel := by
  constructor
  · intro s turns
    refine ⟨s.accounted turns,fun p hp => ?_⟩
    obtain ⟨turn,hmem,v,rfl⟩ := Session.mem_parts hp
    exact ⟨rfl,turn,hmem,rfl⟩
  · intro b targets
    refine ⟨Run.accounted tree b targets,fun p hp => ?_⟩
    obtain ⟨v,rfl⟩ | ⟨events,rfl,_⟩ := mem_parts hp
    · rfl
    · rfl

end TestBench
