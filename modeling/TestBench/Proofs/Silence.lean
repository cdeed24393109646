import TestBench.Proofs.HostErrors
import TestBench.Proofs.Simulation

/-! A silent host changes no verdict. Of two runs on benches that differ in the toggle, where no test
looks at it, one goes as the other does; and what the one with the quieter host puts out is what the
other does without some errors of the host, each of which is left out as a whole. -/
namespace TestBench

/-- An action that neither imports anything nor asserts that the host reports. -/
def Action.isBlind : Action → Bool
  | .load _ => false
  | .assertReports _ => false
  | _ => true

/-- A test that never looks at the toggle, at any depth. It may well change it. -/
def Target.IsBlind (target : Target) : Prop := target.every Action.isBlind = true

instance (target : Target) : Decidable target.IsBlind := inferInstanceAs (Decidable (_ = true))

/-- A toggle stands as another one does, or it is off where the other is on. -/
def Quieter (u v : Value) : Prop := u.truth = v.truth ∨ (u.truth = .ok true ∧ v.truth = .ok false)

/-- A part that an error of the host puts out. -/
def Part.isHostError (p : Part) : Bool := (p.visit.bind Visit.pushed?).isSome

/-- Parts without some of the errors of the host among them. -/
inductive Hushed : List Part → List Part → Prop
  | nil : Hushed [] []
  | keep (p : Part) {ps kept} (h : Hushed ps kept) : Hushed (p :: ps) (p :: kept)
  | drop {p : Part} {ps kept} (hp : p.isHostError = true) (h : Hushed ps kept) : Hushed (p :: ps) kept

/-- Two benches with the same channels, of which the second may have a quieter host. -/
structure Bench.Hushes (b b' : Bench) : Prop where
  host : b.host.channel = b'.host.channel
  channel : b.channel = b'.channel
  reports : Quieter b.host.reports b'.host.reports

/-- The same texts, and on the same clock the same events. -/
structure Similar (clock : Prop) (es fs : List Event) : Prop where
  text : ∀ terminal stream, textOn terminal stream es = textOn terminal stream fs
  events : clock → es = fs

/-- A part shows what another one does, or nothing where the other is an error of the host. -/
def Part.Follows (clock : Prop) (p q : Part) : Prop :=
  Similar clock p.events q.events ∨ (p.isHostError = true ∧ q.events = [])

/-- The same test on two benches, of which the second may have a quieter host. -/
structure Twins (clock : Prop) (e e' : Bench × Target) : Prop where
  target : e.2 = e'.2
  bench : e.1.Hushes e'.1
  clock : clock → e.1.clock = e'.1.clock

def Summary.findings (s : Summary) : List Finding × Bool :=
  (s.outcomes.map Outcome.finding,s.interrupted)

variable {tree tree' : FileTree} {clock : Prop}

lemma unnoticed_quieter : Unnoticed Quieter Action.isBlind where
  given _ := .inl rfl
  pushed h := by
    rcases h with h | ⟨hon,hoff⟩
    · rw [h]
    · rw [hon,hoff]
      rfl
  asserted h := by cases h
  unloaded := rfl

namespace Similar

lemma refl (clock : Prop) (es : List Event) : Similar clock es es := ⟨fun _ _ => rfl,fun _ => rfl⟩

lemma append {es fs es' fs' : List Event} (h : Similar clock es fs) (h' : Similar clock es' fs') :
    Similar clock (es ++ es') (fs ++ fs') where
  text terminal stream := by rw [textOn_append,textOn_append,h.text,h'.text]
  events hc := by rw [h.events hc,h'.events hc]

end Similar

section Parts

/-- An action of the class puts out the same under a quieter host, unless it pushes an error. -/
lemma output_quieter (host own : Channel) {a : Action} (ha : a.isBlind = true) {u v : Value}
    (h : Quieter u v) : a.output host own u = a.output host own v ∨
      ((∃ text, a = .pushError text) ∧ a.output host own v = []) := by
  cases a with
  | pushError text =>
    rcases h with h | ⟨_,hoff⟩
    · refine .inl ?_
      simp only [Action.output,h]
    · refine .inr ⟨⟨text,rfl⟩,?_⟩
      simp only [Action.output,hoff]
  | assertReports message => cases ha
  | _ => exact .inl rfl

lemma visit_follows (host own : Channel) {v w : Visit} (h : v.Like Quieter Action.isBlind w) :
    Part.Follows clock ⟨own,some v,v.output host own⟩ ⟨own,some w,w.output host own⟩ := by
  have hw := h.step
  have hallowed := h.allowed
  cases hv : v.record.step with
  | act a bails =>
    rw [hv] at hw hallowed
    rw [Step.every] at hallowed
    simp only [Part.Follows,Visit.output,hv,← hw]
    rcases output_quieter host own hallowed h.reports with hsame | ⟨⟨text,rfl⟩,hnone⟩
    · rw [hsame]
      exact .inl (.refl clock _)
    · exact .inr ⟨by simp [Part.isHostError,Visit.pushed?,hv],hnone⟩
  | _ =>
    rw [hv] at hw
    simp only [Part.Follows,Visit.output,hv,← hw]
    exact .inl (.refl clock _)

lemma partsOf_follow (host own : Channel) {vs ws : List Visit}
    (h : List.Forall₂ (Visit.Like Quieter Action.isBlind) vs ws) :
    List.Forall₂ (Part.Follows clock) (partsOf host own vs) (partsOf host own ws) := by
  induction h with
  | nil => exact .nil
  | cons hv _ ih => exact .cons (visit_follows host own hv) ih

/-- Parts that follow others show what those do without some errors of the host. -/
lemma exists_hushed {ps qs : List Part} (h : List.Forall₂ (Part.Follows clock) ps qs) :
    ∃ kept, Hushed ps kept ∧
      Similar clock (kept.flatMap Part.events) (qs.flatMap Part.events) := by
  induction h with
  | nil => exact ⟨[],.nil,.refl clock _⟩
  | @cons p q ps qs hpq _ ih =>
    obtain ⟨kept,hkept,hsimilar⟩ := ih
    rcases hpq with hpq | ⟨hp,hq⟩
    · exact ⟨p :: kept,.keep p hkept,hpq.append hsimilar⟩
    · refine ⟨kept,.drop hp hkept,?_⟩
      rw [List.flatMap_cons,hq]
      exact hsimilar

end Parts

section Trials

variable {b b' : Bench} {target : Target} {targets : List Target}

lemma testParts_follow (h : b.Hushes b') (hblind : target.IsBlind) :
    List.Forall₂ (Part.Follows clock) (testParts tree (b,target)) (testParts tree' (b',target)) := by
  have hlike := call_like unnoticed_quieter tree tree' hblind h.reports
  rw [testParts,testParts,← h.host,← h.channel]
  exact partsOf_follow _ _ hlike.visits

lemma escapeReport_congr (h : b.channel = b'.channel) (name : String) {p q : Progress}
    (hfault : p.fault = q.fault) : b.escapeReport name p = b'.escapeReport name q := by
  unfold Bench.escapeReport Bench.faultReport
  rw [h,hfault]

/-- Two trials find the same, and on the same clock take the same time, or let the same fault
through. -/
lemma runTest_twice (tree tree' : FileTree) (h : b.Hushes b') (hc : clock → b.clock = b'.clock)
    (hblind : target.IsBlind) :
    (∃ o o', (b.runTest tree target).result = .ok o ∧ (b'.runTest tree' target).result = .ok o' ∧
      o.finding = o'.finding ∧ (clock → o = o')) ∨
    ∃ f, (b.runTest tree target).result = .error f ∧ (b'.runTest tree' target).result = .error f := by
  have hfound := runTest_finding unnoticed_quieter tree tree' hblind h.reports
  rcases map_eq_map hfound with ⟨o,o',hr,hr',hsame⟩ | hfault
  · refine .inl ⟨o,o',hr,hr',hsame,fun hcl => ?_⟩
    have hd := (runTest_of_outcome hr).1
    have hd' := (runTest_of_outcome hr').1
    rw [← hc hcl,← hd] at hd'
    obtain ⟨name,passed,error,duration⟩ := o
    obtain ⟨name',passed',error',duration'⟩ := o'
    obtain ⟨rfl,rfl,rfl⟩ := Finding.mk.inj hsame
    obtain rfl : duration' = duration := hd'
    rfl
  · exact .inr hfault

lemma runTest_hushes (tree tree' : FileTree) (target : Target) (h : b.Hushes b') :
    (b.runTest tree target).bench.Hushes (b'.runTest tree' target).bench where
  host := by
    have hlast := (lasting_channels : Lasting tree _).of_runAll target.callable.steps b.scene
    have hlast' := (lasting_channels : Lasting tree' _).of_runAll target.callable.steps b'.scene
    rw [runTest_host,runTest_host,Bench.call,Bench.call,call_scene,call_scene]
    exact hlast.1.trans (h.host.trans hlast'.1.symm)
  channel := by rw [runTest_channel,runTest_channel,h.channel]
  reports := by
    rw [runTest_host,runTest_host]
    exact h.reports

lemma runTest_clock (tree tree' : FileTree) (h : b.Hushes b') (hc : clock → b.clock = b'.clock)
    (hblind : target.IsBlind) (hcl : clock) :
    (b.runTest tree target).bench.clock = (b'.runTest tree' target).bench.clock := by
  rcases runTest_twice tree tree' h hc hblind with ⟨o,o',hr,hr',_⟩ | ⟨f,hr,hr'⟩
  · rw [(runTest_of_outcome hr).2.1,(runTest_of_outcome hr').2.1,hc hcl]
  · rw [(runTest_of_fault hr).1,(runTest_of_fault hr').1,hc hcl]

/-- What a bench adds behind a test is the same under a quieter host, but for the time that the test
took. -/
lemma behind_similar (h : b.Hushes b') (hc : clock → b.clock = b'.clock) (hblind : target.IsBlind)
    (total index : ℕ) : Similar clock (Run.behind total index (b.runTest tree target))
      (Run.behind total index (b'.runTest tree' target)) := by
  have hlike := call_like unnoticed_quieter tree tree' hblind h.reports
  rcases runTest_twice tree tree' h hc hblind with ⟨o,o',hr,hr',hsame,_⟩ | ⟨f,hr,hr'⟩
  · obtain ⟨hname,hpassed,_⟩ := Finding.mk.inj hsame
    rw [Run.behind,Run.behind,(runTest_of_outcome hr).2.2,(runTest_of_outcome hr').2.2,hr,hr',
      escapeReport_congr h.channel o.name hlike.fault,hname,hpassed]
    refine .append (.append (.refl clock _) ⟨fun _ _ => rfl,fun hcl => ?_⟩) ?_
    · rw [hc hcl]
    · simp only [Run.statusLine,hname,hpassed]
      exact .refl clock _
  · rw [Run.behind_of_fault total index hr,Run.behind_of_fault total index hr']
    exact .refl clock _

/-- The tests of two runs are tried on benches that differ as the first ones do. -/
lemma onBenches_twins (h : b.Hushes b') (hc : clock → b.clock = b'.clock)
    (hblind : ∀ t ∈ targets, t.IsBlind) :
    List.Forall₂ (Twins clock) (onBenches tree b targets) (onBenches tree' b' targets) := by
  induction targets generalizing b b' with
  | nil => exact .nil
  | cons target targets ih =>
    obtain ⟨htarget,htargets⟩ := List.forall_mem_cons.mp hblind
    refine .cons ⟨rfl,h,hc⟩ (ih (runTest_hushes tree tree' target h) ?_ htargets)
    exact runTest_clock tree tree' h hc htarget

/-- Two series of tests find the same, and come to the same end. -/
lemma series_twice (tree tree' : FileTree) (total index : ℕ) (h : b.Hushes b')
    (hc : clock → b.clock = b'.clock) (hblind : ∀ t ∈ targets, t.IsBlind) :
    (Run.series tree total index b targets).fault = (Run.series tree' total index b' targets).fault ∧
    (Run.series tree total index b targets).outcomes.map Outcome.finding =
      (Run.series tree' total index b' targets).outcomes.map Outcome.finding ∧
    (clock → (Run.series tree total index b targets).outcomes =
      (Run.series tree' total index b' targets).outcomes) := by
  induction targets generalizing index b b' with
  | nil => exact ⟨rfl,rfl,fun _ => rfl⟩
  | cons target targets ih =>
    obtain ⟨htarget,htargets⟩ := List.forall_mem_cons.mp hblind
    rcases runTest_twice tree tree' h hc htarget with ⟨o,o',hr,hr',hsame,hsame'⟩ | ⟨f,hr,hr'⟩
    · have hafter := runTest_hushes tree tree' target h
      obtain ⟨hfault,hfindings,houtcomes⟩ := ih (index+1) hafter
        (runTest_clock tree tree' h hc htarget) htargets
      rw [Run.series_of_outcome hr,Run.series_of_outcome hr']
      refine ⟨hfault,?_,fun hcl => ?_⟩
      · simp only [List.map_cons,hfindings,hsame]
      · simp only [houtcomes hcl,hsame' hcl]
    · rw [Run.series_of_fault hr,Run.series_of_fault hr']
      exact ⟨rfl,rfl,fun _ => rfl⟩

end Trials

section Runs

variable {b b' : Bench} {targets : List Target}

/-- Parts of the same tests, with what the benches add behind them. -/
lemma partsFrom_follow {es es' : List (Bench × Target)} (h : List.Forall₂ (Twins clock) es es')
    (hblind : ∀ e ∈ es, e.2.IsBlind) (c : Channel) (total index : ℕ) :
    List.Forall₂ (Part.Follows clock) (Run.partsFrom tree c total index es)
      (Run.partsFrom tree' c total index es') := by
  induction h generalizing index with
  | nil => exact .nil
  | @cons e e' es es' he _ ih =>
    obtain ⟨b,target⟩ := e
    obtain ⟨b',target'⟩ := e'
    obtain rfl : target = target' := he.target
    obtain ⟨hhead,htail⟩ := List.forall_mem_cons.mp hblind
    simp only [Run.partsFrom,List.zipIdx_cons,List.flatMap_cons] at ih ⊢
    refine List.rel_append (List.rel_append ?_ (.cons (.inl ?_) .nil)) (ih htail (index+1))
    · exact testParts_follow he.bench hhead
    · exact behind_similar he.bench he.clock hhead total index

lemma counts_congr {s s' : Summary}
    (h : s.outcomes.map Outcome.finding = s'.outcomes.map Outcome.finding) :
    s.outcomes.length = s'.outcomes.length ∧ s.passedCount = s'.passedCount ∧
      s.failedCount = s'.failedCount := by
  have hcount : ∀ s : Summary,
      s.passedCount = (s.outcomes.map Outcome.finding).countP Finding.passed := by
    intro s
    rw [Summary.passedCount,← List.countP_eq_length_filter,List.countP_map]
    rfl
  have hlength : s.outcomes.length = s'.outcomes.length := by
    rw [← List.length_map Outcome.finding,h,List.length_map]
  have hpassed : s.passedCount = s'.passedCount := by rw [hcount,hcount,h]
  exact ⟨hlength,hpassed,by rw [Summary.failedCount,Summary.failedCount,hlength,hpassed]⟩

lemma ending_congr {r r' : Except Fault Summary}
    (h : r.map Summary.findings = r'.map Summary.findings) (total : ℕ) :
    Run.ending total r = Run.ending total r' := by
  rcases map_eq_map h with ⟨s,s',rfl,rfl,hsame⟩ | ⟨f,rfl,rfl⟩
  · obtain ⟨hfindings,hinterrupted⟩ := Prod.mk.inj hsame
    obtain ⟨hlength,hpassed,hfailed⟩ := counts_congr hfindings
    rw [Run.ending,Run.ending,hinterrupted,hlength,Run.closing,Run.closing,hpassed,hfailed]
  · rfl

/-- Two runs end the same way, apart from durations. -/
lemma result_twice (tree tree' : FileTree) (h : b.Hushes b') (hc : clock → b.clock = b'.clock)
    (hblind : ∀ t ∈ targets, t.IsBlind) :
    (Run.of tree b targets).result.map Summary.findings =
      (Run.of tree' b' targets).result.map Summary.findings ∧
    (clock → (Run.of tree b targets).result = (Run.of tree' b' targets).result) := by
  obtain ⟨hfault,hfindings,houtcomes⟩ :
      (Run.tests tree b targets).fault = (Run.tests tree' b' targets).fault ∧
      (Run.tests tree b targets).outcomes.map Outcome.finding =
        (Run.tests tree' b' targets).outcomes.map Outcome.finding ∧
      (clock → (Run.tests tree b targets).outcomes = (Run.tests tree' b' targets).outcomes) :=
    series_twice tree tree' targets.length 1 h hc hblind
  cases hf : (Run.tests tree b targets).fault with
  | none =>
    rw [hf] at hfault
    rw [Run.of_result_of_no_fault hf,Run.of_result_of_no_fault hfault.symm]
    refine ⟨?_,fun hcl => by rw [houtcomes hcl]⟩
    simp only [Except.map,Summary.findings,hfindings]
  | some f =>
    rw [hf] at hfault
    by_cases hi : f.isInterrupt = true
    · rw [Run.of_result_of_interrupt hf hi,Run.of_result_of_interrupt hfault.symm hi]
      refine ⟨?_,fun hcl => by rw [houtcomes hcl]⟩
      simp only [Except.map,Summary.findings,hfindings]
    · have hnot : f.isInterrupt = false := by simpa using hi
      rw [Run.of_result_of_fault hf hnot,Run.of_result_of_fault hfault.symm hnot]
      exact ⟨rfl,fun _ => rfl⟩

lemma begun_twins (h : b.Hushes b') (hc : clock → b.clock = b'.clock)
    (hblind : ∀ t ∈ targets, t.IsBlind) :
    List.Forall₂ (Twins clock) (Run.begun tree b targets) (Run.begun tree' b' targets) := by
  obtain ⟨hfault,hfindings,_⟩ := series_twice tree tree' targets.length 1 h hc hblind
  have hlength : (Run.of tree b targets).trials.length = (Run.of tree' b' targets).trials.length := by
    rw [Run.of_trials,Run.of_trials,Run.tests,Run.tests,Run.series_trials_length,
      Run.series_trials_length,hfault,← List.length_map Outcome.finding,hfindings,List.length_map]
  rw [Run.begun,Run.begun,hlength]
  exact List.forall₂_take _ (onBenches_twins h hc hblind)

lemma parts_follow (tree tree' : FileTree) (h : b.Hushes b') (hc : clock → b.clock = b'.clock)
    (hblind : ∀ t ∈ targets, t.IsBlind) :
    List.Forall₂ (Part.Follows clock) (Run.parts tree b targets) (Run.parts tree' b' targets) := by
  have hbegun : ∀ e ∈ Run.begun tree b targets, e.2.IsBlind := fun e he =>
    hblind e.2 (snd_mem_of_mem_onBenches (List.mem_of_mem_take he))
  rw [Run.parts,Run.parts,ending_congr (result_twice tree tree' h hc hblind).1,← h.channel]
  refine List.rel_append (.cons (.inl (.refl clock _)) ?_) (.cons (.inl (.refl clock _)) .nil)
  exact partsFrom_follow (begun_twins h hc hblind) hbegun b.channel targets.length 1

lemma textOn_of_on {terminal : Bool} {stream : Stream} {c : Channel} (hs : stream ≠ c.stream)
    {events : List Event} (h : ∀ e ∈ events, e.On c) : textOn terminal stream events = "" := by
  induction events with
  | nil => rfl
  | cons e es ih =>
    obtain ⟨he,hes⟩ := List.forall_mem_cons.mp h
    rw [textOn_cons,he.textOn_eq hs,ih hes,String.empty_append]

lemma Routed.on_host {host own : Channel} {v : Visit} {events : List Event}
    (h : Routed host own v events) (hpush : v.pushed?.isSome = true) : ∀ e ∈ events, e.On host := by
  obtain ⟨text,htext⟩ := Option.isSome_iff_exists.mp hpush
  by_cases hon : v.before.reports.truth = .ok true
  · rw [h.told text htext hon]
    exact error_on host text
  · rw [h.untold text htext hon]
    intro e he
    cases he

/-- Leaving out errors of the host changes nothing off the channel of the host. -/
lemma Hushed.textOn_eq {host : Channel} {terminal : Bool} {stream : Stream}
    (hs : stream ≠ host.stream) {ps kept : List Part} (h : Hushed ps kept)
    (hrouted : ∀ p ∈ ps, ∀ v, p.visit = some v → Routed host p.channel v p.events) :
    textOn terminal stream (ps.flatMap Part.events) =
      textOn terminal stream (kept.flatMap Part.events) := by
  induction h with
  | nil => rfl
  | keep p _ ih =>
    obtain ⟨_,hrest⟩ := List.forall_mem_cons.mp hrouted
    rw [List.flatMap_cons,List.flatMap_cons,textOn_append,textOn_append,ih hrest]
  | @drop p ps kept hp _ ih =>
    obtain ⟨hhead,hrest⟩ := List.forall_mem_cons.mp hrouted
    rw [List.flatMap_cons,textOn_append,ih hrest]
    cases hv : p.visit with
    | none => simp [Part.isHostError,hv] at hp
    | some v =>
      have hpush : v.pushed?.isSome = true := by simpa [Part.isHostError,hv] using hp
      rw [textOn_of_on hs ((hhead v hv).on_host hpush),String.empty_append]

/-- What two runs put out: the second one does without some errors of the host, and is otherwise the
same. -/
theorem run_hushed (tree tree' : FileTree) (h : b.Hushes b') (hblind : ∀ t ∈ targets, t.IsBlind) :
    ∃ kept, Hushed (Run.parts tree b targets) kept ∧
      Similar (b.clock = b'.clock) (kept.flatMap Part.events) (Run.of tree' b' targets).events ∧
      ∀ terminal stream, stream ≠ b.host.channel.stream →
        textOn terminal stream (Run.of tree b targets).events =
          textOn terminal stream (Run.of tree' b' targets).events := by
  have hfollow := parts_follow tree tree' h (fun hc : b.clock = b'.clock => hc) hblind
  obtain ⟨kept,hkept,hsimilar⟩ := exists_hushed hfollow
  rw [← Run.of_events] at hsimilar
  refine ⟨kept,hkept,hsimilar,fun terminal stream hs => ?_⟩
  rw [Run.of_events tree b targets,← hsimilar.text]
  exact hkept.textOn_eq hs (Run.accounted tree b targets).steps

end Runs

end TestBench
