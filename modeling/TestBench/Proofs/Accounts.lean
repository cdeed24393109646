import TestBench.Proofs.HostErrors

/-! The accounts of a run. A run tells of itself in its summary, in the lines that it prints, in its log
and through its clock, and all of these agree: the first tests have an outcome each, in order, and each
outcome has its line and its records; behind them a run is complete, or the user's wish to stop left the
next test. -/
namespace TestBench

def Outcome.status (o : Outcome) : String := if o.passed then "PASS" else "FAIL"

/-- What the log of a bench has for a test that is done: the fault that left it, if one did, and the
verdict with the time that the test took. -/
def Outcome.records (o : Outcome) (fault : Option Fault) (seconds : Double) : List LogRecord :=
  (fault.map fun f => ⟨.error,"Test '" ++ o.name ++ "' raised",some f.kind⟩).toList ++
    [⟨.debug,"Test '" ++ o.name ++ "' " ++ (if o.passed then "passed" else "failed") ++ " in " ++
      String.ofList (seconds.fixed 3) ++ "s",none⟩]

def Event.printed? : Event → Option String
  | .printed text => some text
  | _ => none

/-- The lines that events print. -/
def printedBy (events : List Event) : List String := events.filterMap Event.printed?

namespace Run

/-- What the bench puts out itself in a run, without the tests. -/
def own (tree : FileTree) (b : Bench) (targets : List Target) : List Event :=
  ((parts tree b targets).filter fun p => p.visit.isNone).flatMap Part.events

/-- The tests of a run that have an outcome in its summary, each with the bench that it was tried
on. -/
def done (tree : FileTree) (b : Bench) (targets : List Target) (s : Summary) :
    List (Bench × Target) := (onBenches tree b targets).take s.outcomes.length

end Run

/-- The accounts of a run that ended with a summary. -/
structure Accounts (tree : FileTree) (b : Bench) (targets : List Target) (s : Summary) : Prop where
  outcomes : List.Forall₂ (fun e o => (tried tree e).result = .ok o) (Run.done tree b targets s)
    s.outcomes
  names : s.outcomes.map Outcome.name = (targets.take s.outcomes.length).map Target.name
  interrupted : s.interrupted = true ↔ ∃ e f,
    (onBenches tree b targets)[s.outcomes.length]? = some e ∧ (tried tree e).result = .error f ∧
      f.isInterrupt = true
  complete : s.interrupted = false → s.outcomes.length = targets.length
  whole : (Run.of tree b targets).events = (Run.parts tree b targets).flatMap Part.events
  lines : printedBy (Run.own tree b targets) =
    ("Running " ++ toString targets.length ++ " test(s)...") :: (s.outcomes.zipIdx 1).map fun e =>
      "  [" ++ toString e.2 ++ "/" ++ toString targets.length ++ "] " ++ e.1.status ++ "  " ++ e.1.name
  /-- The lines are all that ordinary output gets from the bench, unless its diagnostics go there. -/
  output : b.channel.stream ≠ .output → ∀ terminal, textOn terminal .output (Run.own tree b targets) =
    String.join ((printedBy (Run.own tree b targets)).map (· ++ "\n"))
  records : recordsOf (Run.own tree b targets) =
    ⟨.debug,"Starting run of " ++ toString targets.length ++ " test(s)",none⟩ ::
      ((Run.done tree b targets s).zip s.outcomes).flatMap (fun e =>
        e.2.records (e.1.1.call tree e.1.2).fault e.1.1.clock.lap) ++
      (if s.interrupted then [⟨.warning,"Run interrupted by user (Ctrl+C) after " ++
        toString s.outcomes.length ++ " of " ++ toString targets.length ++ " test(s)",none⟩] else []) ++
      [⟨.debug,"Run finished: " ++ toString s.passedCount ++ " passed, " ++ toString s.failedCount ++
        " failed",none⟩]
  passed : s.passedCount = (s.outcomes.map Outcome.status).count "PASS"
  failed : s.failedCount = (s.outcomes.map Outcome.status).count "FAIL"
  sum : s.passedCount + s.failedCount = s.outcomes.length
  allPassed : s.allPassed = true ↔ s.interrupted = false ∧ s.failedCount = 0
  dict : s.asDict = .dict [(.text "outcomes",.list (s.outcomes.map Outcome.asDict)),
    (.text "passed",.int ((s.outcomes.map Outcome.status).count "PASS")),
    (.text "failed",.int ((s.outcomes.map Outcome.status).count "FAIL")),
    (.text "interrupted",.bool s.interrupted)]
  durations : s.outcomes.map Outcome.duration =
    (Run.done tree b targets s).map fun e => .measured e.1.clock.lap
  /-- The clock is read twice for every test that is done, and once for one that is not. -/
  clocks : ∀ i e, (Run.done tree b targets s)[i]? = some e → e.1.clock = b.clock.after (2*i)
  clock : (Run.of tree b targets).bench.clock =
    b.clock.after (2*s.outcomes.length + if s.interrupted then 1 else 0)

namespace Summary

variable (s : Summary)

lemma passedCount_eq : s.passedCount = (s.outcomes.map Outcome.status).count "PASS" := by
  rw [passedCount,← List.countP_eq_length_filter,List.count,List.countP_map]
  congr 1
  funext o
  cases hp : o.passed <;> simp [Outcome.status,hp]

lemma passedCount_le : s.passedCount ≤ s.outcomes.length := List.length_filter_le _ _

lemma failedCount_eq : s.failedCount = (s.outcomes.map Outcome.status).count "FAIL" := by
  have hsplit := List.length_eq_countP_add_countP Outcome.passed (l := s.outcomes)
  have hfail : (s.outcomes.map Outcome.status).count "FAIL" =
      s.outcomes.countP fun o => ¬o.passed = true := by
    rw [List.count,List.countP_map]
    congr 1
    funext o
    cases hp : o.passed <;> simp [Outcome.status,hp]
  rw [failedCount,passedCount,← List.countP_eq_length_filter,hfail]
  omega

lemma passedCount_add_failedCount : s.passedCount + s.failedCount = s.outcomes.length := by
  rw [failedCount,Nat.add_sub_cancel' s.passedCount_le]

lemma allPassed_iff : s.allPassed = true ↔ s.interrupted = false ∧ s.failedCount = 0 := by
  have hall : s.failedCount = 0 ↔ s.outcomes.all Outcome.passed = true := by
    have hle := s.passedCount_le
    rw [List.all_eq_true,← List.length_filter_eq_length_iff,failedCount]
    rw [passedCount] at hle ⊢
    omega
  simp [allPassed,hall]

end Summary

section Bench

variable {tree : FileTree} {b : Bench} {target : Target} {total index : ℕ}

@[simp] lemma printedBy_append (es fs : List Event) :
    printedBy (es ++ fs) = printedBy es ++ printedBy fs := by simp [printedBy]

lemma escapeReport_printedBy (name : String) (p : Progress) :
    printedBy (b.escapeReport name p) = [] := by
  unfold Bench.escapeReport
  split
  · rfl
  · split <;> rfl

lemma escapeReport_records {o : Outcome} (h : (b.runTest tree target).result = .ok o) :
    recordsOf (b.escapeReport o.name (b.call tree target)) = ((b.call tree target).fault.map fun f =>
      LogRecord.mk .error ("Test '" ++ o.name ++ "' raised") (some f.kind)).toList := by
  cases hf : (b.call tree target).fault with
  | none => simp [Bench.escapeReport,hf,recordsOf]
  | some f =>
    obtain ⟨_,text,htext,_⟩ := error_of_fault h hf
    simp [Bench.escapeReport,hf,Fault.line,htext,Except.map,Bench.faultReport,recordsOf,
      Event.record?,Channel.blank,Channel.write]

lemma verdictRecord_eq (name : String) (passed : Bool) (seconds : Double) :
    Bench.verdictRecord name passed seconds = ⟨.debug,"Test '" ++ name ++ "' " ++
      (if passed then "passed" else "failed") ++ " in " ++ String.ofList (seconds.fixed 3) ++ "s",
      none⟩ := by
  have hp : "' " ++ ("passed" ++ " in ") = "' passed in " := rfl
  have hf : "' " ++ ("failed" ++ " in ") = "' failed in " := rfl
  cases passed <;> simp only [Bench.verdictRecord,String.append_assoc,← hp,← hf] <;> rfl

namespace Run

lemma behind_printedBy {o : Outcome} (h : (b.runTest tree target).result = .ok o) :
    printedBy (behind total index (b.runTest tree target)) = ["  [" ++ toString index ++ "/" ++
      toString total ++ "] " ++ o.status ++ "  " ++ o.name] := by
  rw [behind,(runTest_of_outcome h).2.2,h,printedBy_append,printedBy_append,escapeReport_printedBy]
  rfl

lemma behind_records {o : Outcome} (h : (b.runTest tree target).result = .ok o) :
    recordsOf (behind total index (b.runTest tree target)) =
      o.records (b.call tree target).fault b.clock.lap := by
  rw [behind,(runTest_of_outcome h).2.2,h,recordsOf_append,recordsOf_append,escapeReport_records h,
    verdictRecord_eq]
  exact List.append_nil _

end Run
end Bench

section Run

variable {tree : FileTree} {b : Bench} {targets : List Target} {total index : ℕ}

/-- What the bench adds behind tests that are done, in lines and in records. -/
lemma flatMap_behind {es : List (Bench × Target)} {os : List Outcome}
    (h : List.Forall₂ (fun e o => (tried tree e).result = .ok o) es os) (total index : ℕ) :
    let events := (es.zipIdx index).flatMap fun e => Run.behind total e.2 (tried tree e.1)
    printedBy events = (os.zipIdx index).map (fun e =>
      "  [" ++ toString e.2 ++ "/" ++ toString total ++ "] " ++ e.1.status ++ "  " ++ e.1.name) ∧
    recordsOf events = (es.zip os).flatMap fun e =>
      e.2.records (e.1.1.call tree e.1.2).fault e.1.1.clock.lap := by
  induction h generalizing index with
  | nil => exact ⟨rfl,rfl⟩
  | cons he _ ih =>
    obtain ⟨hlines,hrecords⟩ := ih (index+1)
    simp only [List.zipIdx_cons,List.flatMap_cons,List.map_cons,List.zip_cons_cons]
    constructor
    · rw [printedBy_append,hlines,tried,Run.behind_printedBy he]
      rfl
    · rw [recordsOf_append,hrecords,tried,Run.behind_records he]

/-- The tests of a run that were begun are those done and, if a fault cut the run short, one more. -/
lemma begun_eq : Run.begun tree b targets =
    (onBenches tree b targets).take (Run.tests tree b targets).outcomes.length ++
      if (Run.tests tree b targets).fault.isSome then
        (onBenches tree b targets)[(Run.tests tree b targets).outcomes.length]?.toList else [] := by
  rw [Run.begun,Run.of_trials,Run.tests,Run.series_trials_length]
  split
  · rw [List.take_add_one]
  · rw [Nat.add_zero,List.append_nil]

/-- Behind the tests that are done the bench adds nothing. -/
lemma flatMap_behind_begun : ((Run.begun tree b targets).zipIdx 1).flatMap
      (fun e => Run.behind total e.2 (tried tree e.1)) =
    (((onBenches tree b targets).take (Run.tests tree b targets).outcomes.length).zipIdx 1).flatMap
      fun e => Run.behind total e.2 (tried tree e.1) := by
  rw [begun_eq,List.zipIdx_append,List.flatMap_append]
  cases hf : (Run.tests tree b targets).fault with
  | none => exact List.append_nil _
  | some f =>
    -- The test that cut the run short was begun, but the bench adds nothing behind it.
    obtain ⟨e,he,hr⟩ := (Run.series_fault_at f).mp hf
    have hnothing := fun i => Run.behind_of_fault total i hr
    rw [Run.tests,he]
    simp [tried,hnothing]

lemma own_eq (tree : FileTree) (b : Bench) (targets : List Target) : Run.own tree b targets =
    Run.opening targets.length ++
      (((onBenches tree b targets).take (Run.tests tree b targets).outcomes.length).zipIdx 1).flatMap
        (fun e => Run.behind targets.length e.2 (tried tree e.1)) ++
      Run.ending targets.length (Run.of tree b targets).result := by
  have htest : ∀ e : Bench × Target,
      (testParts tree e).filter (fun p => p.visit.isNone) = [] := by
    intro e
    rw [List.filter_eq_nil_iff]
    intro p hp
    obtain ⟨v,_,rfl⟩ := List.mem_map.mp hp
    exact Bool.false_ne_true
  rw [← flatMap_behind_begun]
  simp [Run.own,Run.parts,Run.partsFrom,List.filter_flatMap,List.flatMap_assoc,htest]

lemma own_ofBench : ∀ e ∈ Run.own tree b targets, e.OfBench b.channel := by
  intro e he
  obtain ⟨p,hp,he⟩ := List.mem_flatMap.mp he
  obtain ⟨hp,hv⟩ := List.mem_filter.mp hp
  obtain ⟨v,rfl⟩ | ⟨events,rfl,hbench⟩ := mem_parts hp
  · cases hv
  · exact hbench e he

lemma textOn_printed (terminal : Bool) (events : List Event) :
    textOn terminal .output (events.filter Event.isPrinted) =
      String.join ((printedBy events).map (· ++ "\n")) := by
  induction events with
  | nil => rfl
  | cons e es ih =>
    cases e with
    | printed text =>
      rw [List.filter_cons_of_pos rfl,textOn_cons,ih]
      exact (String.join_cons ..).symm
    | _ => exact ih

lemma own_textOn (hstream : b.channel.stream ≠ .output) (terminal : Bool) :
    textOn terminal .output (Run.own tree b targets) =
      String.join ((printedBy (Run.own tree b targets)).map (· ++ "\n")) := by
  rw [← textOn_printed terminal]
  refine textOn_filter_isPrinted fun e he => ?_
  rcases own_ofBench e he with ⟨text,rfl⟩ | ⟨r,rfl⟩ | hon
  · exact .inl rfl
  · exact .inr rfl
  · exact .inr (hon.textOn_eq hstream.symm)

/-- Every test that is done begins with the clock read twice for each test before it. -/
lemma onBenches_clock (i : ℕ) (e : Bench × Target)
    (h : ((onBenches tree b targets).take
      (Run.series tree total index b targets).outcomes.length)[i]? = some e) :
    e.1.clock = b.clock.after (2*i) := by
  induction targets generalizing index b i with
  | nil => simp [onBenches] at h
  | cons target targets ih =>
    cases hr : (b.runTest tree target).result with
    | error f =>
      rw [Run.series_of_fault hr] at h
      cases h
    | ok outcome =>
      rw [Run.series_of_outcome hr] at h
      cases i with
      | zero =>
        obtain rfl := Option.some.inj h
        rfl
      | succ i =>
        rw [ih i h,(runTest_of_outcome hr).2.1,← Clock.after_add,Nat.mul_succ,Nat.add_comm]

lemma series_clock : (Run.series tree total index b targets).bench.clock =
    b.clock.after (2*(Run.series tree total index b targets).outcomes.length +
      if (Run.series tree total index b targets).fault.isSome then 1 else 0) := by
  induction targets generalizing index b with
  | nil => rfl
  | cons target targets ih =>
    cases hr : (b.runTest tree target).result with
    | error f =>
      rw [Run.series_of_fault hr]
      exact (runTest_of_fault hr).1
    | ok outcome =>
      rw [Run.series_of_outcome hr]
      simp only [List.length_cons,ih,(runTest_of_outcome hr).2.1,← Clock.after_add]
      congr 1
      omega

lemma durations_eq {es : List (Bench × Target)} {os : List Outcome}
    (h : List.Forall₂ (fun e o => (tried tree e).result = .ok o) es os) :
    os.map Outcome.duration = es.map fun e => .measured e.1.clock.lap := by
  induction h with
  | nil => rfl
  | cons he _ ih => rw [List.map_cons,List.map_cons,ih,(runTest_of_outcome he).1]

lemma names_eq {es : List (Bench × Target)} {os : List Outcome}
    (h : List.Forall₂ (fun e o => (tried tree e).result = .ok o) es os) :
    os.map Outcome.name = (es.map Prod.snd).map Target.name := by
  induction h with
  | nil => rfl
  | cons he _ ih => rw [List.map_cons,List.map_cons,List.map_cons,ih,(told_of_outcome he).2.1]

lemma ending_printedBy (s : Summary) : printedBy (Run.ending total (.ok s)) = [] := by
  cases h : s.interrupted <;> simp [Run.ending,h,printedBy,Event.printed?,Run.interruption,Run.closing]

lemma ending_records (s : Summary) : recordsOf (Run.ending total (.ok s)) =
    (if s.interrupted then [⟨.warning,"Run interrupted by user (Ctrl+C) after " ++
      toString s.outcomes.length ++ " of " ++ toString total ++ " test(s)",none⟩] else []) ++
    [⟨.debug,"Run finished: " ++ toString s.passedCount ++ " passed, " ++ toString s.failedCount ++
      " failed",none⟩] := by
  cases h : s.interrupted <;> simp [Run.ending,h,recordsOf,Event.record?,Run.interruption,Run.closing]

section Ended

variable {s : Summary} (h : (Run.of tree b targets).result = .ok s)

include h

lemma done_eq : Run.done tree b targets s =
    (onBenches tree b targets).take (Run.tests tree b targets).outcomes.length := by
  rw [Run.done,(Run.of_result_eq_ok h).1]

lemma done_outcomes : List.Forall₂ (fun e o => (tried tree e).result = .ok o)
    (Run.done tree b targets s) s.outcomes := by
  rw [done_eq h,(Run.of_result_eq_ok h).1]
  exact Run.series_outcomes_front tree targets.length 1 b targets

lemma own_of_summary : Run.own tree b targets = Run.opening targets.length ++
    ((Run.done tree b targets s).zipIdx 1).flatMap
      (fun e => Run.behind targets.length e.2 (tried tree e.1)) ++
    Run.ending targets.length (.ok s) := by
  rw [own_eq,done_eq h,h]

lemma own_printedBy : printedBy (Run.own tree b targets) =
    ("Running " ++ toString targets.length ++ " test(s)...") :: (s.outcomes.zipIdx 1).map fun e =>
      "  [" ++ toString e.2 ++ "/" ++ toString targets.length ++ "] " ++ e.1.status ++ "  " ++
        e.1.name := by
  have hlines := (flatMap_behind (done_outcomes h) targets.length 1).1
  rw [own_of_summary h,printedBy_append,printedBy_append,hlines,ending_printedBy,List.append_nil]
  rfl

lemma own_records : recordsOf (Run.own tree b targets) =
    ⟨.debug,"Starting run of " ++ toString targets.length ++ " test(s)",none⟩ ::
      ((Run.done tree b targets s).zip s.outcomes).flatMap (fun e =>
        e.2.records (e.1.1.call tree e.1.2).fault e.1.1.clock.lap) ++
      (if s.interrupted then [⟨.warning,"Run interrupted by user (Ctrl+C) after " ++
        toString s.outcomes.length ++ " of " ++ toString targets.length ++ " test(s)",none⟩] else []) ++
      [⟨.debug,"Run finished: " ++ toString s.passedCount ++ " passed, " ++ toString s.failedCount ++
        " failed",none⟩] := by
  have hrecords := (flatMap_behind (done_outcomes h) targets.length 1).2
  rw [own_of_summary h,recordsOf_append,recordsOf_append,hrecords,ending_records,← List.append_assoc]
  rfl

lemma interrupted_iff : s.interrupted = true ↔ ∃ e f,
    (onBenches tree b targets)[s.outcomes.length]? = some e ∧ (tried tree e).result = .error f ∧
      f.isInterrupt = true := by
  obtain ⟨houtcomes,hend⟩ := Run.of_result_eq_ok h
  rw [houtcomes]
  constructor
  · intro hi
    rw [hi] at hend
    obtain ⟨_,hi⟩ | ⟨f,hf,hinterrupt,_⟩ := hend
    · cases hi
    · obtain ⟨e,he,hr⟩ := (Run.series_fault_at f).mp hf
      exact ⟨e,f,he,hr,hinterrupt⟩
  · rintro ⟨e,f,he,hr,_⟩
    have hf : (Run.tests tree b targets).fault = some f := (Run.series_fault_at f).mpr ⟨e,he,hr⟩
    obtain ⟨hnone,_⟩ | ⟨_,_,_,hi⟩ := hend
    · rw [hf] at hnone
      cases hnone
    · exact hi

lemma complete_of_not_interrupted (hi : s.interrupted = false) :
    s.outcomes.length = targets.length := by
  obtain ⟨houtcomes,⟨hnone,_⟩ | ⟨_,_,_,hcut⟩⟩ := Run.of_result_eq_ok h
  · rw [houtcomes,← onBenches_length tree b targets]
    exact (Run.series_of_no_fault hnone).2.length_eq.symm
  · rw [hi] at hcut
    cases hcut

lemma clock_of_summary : (Run.of tree b targets).bench.clock =
    b.clock.after (2*s.outcomes.length + if s.interrupted then 1 else 0) := by
  have hclock : (Run.tests tree b targets).bench.clock = _ := series_clock
  obtain ⟨houtcomes,hend⟩ := Run.of_result_eq_ok h
  have hcut : (Run.tests tree b targets).fault.isSome = s.interrupted := by
    obtain ⟨hnone,hi⟩ | ⟨f,hf,_,hi⟩ := hend
    · rw [hnone,hi]
      rfl
    · rw [hf,hi]
      rfl
  rw [Run.of_bench,hclock,houtcomes,← hcut]
  rfl

end Ended
end Run

/-- Whenever a run ends with a summary, its accounts agree. -/
theorem run_accounts {tree : FileTree} {b : Bench} {targets : List Target} {s : Summary}
    (h : (Run.of tree b targets).result = .ok s) : Accounts tree b targets s where
  outcomes := done_outcomes h
  names := by rw [names_eq (done_outcomes h),Run.done,List.map_take,onBenches_targets]
  interrupted := interrupted_iff h
  complete := complete_of_not_interrupted h
  whole := Run.of_events tree b targets
  lines := own_printedBy h
  output := own_textOn
  records := own_records h
  passed := s.passedCount_eq
  failed := s.failedCount_eq
  sum := s.passedCount_add_failedCount
  allPassed := s.allPassed_iff
  dict := by
    rw [← s.passedCount_eq,← s.failedCount_eq]
    rfl
  durations := durations_eq (done_outcomes h)
  clocks i e he := onBenches_clock i e (done_eq h ▸ he)
  clock := clock_of_summary h

/-- A test that passes, one that raises, one that the user stops, and one that is not begun. -/
theorem run_accounts_interrupted :
    let raising : Target := ⟨"m:b",.test [.act (.raise (Fault.say "ValueError" "no")) false]⟩
    let stopped : Target := ⟨"m:c",.test [.act (.raise ⟨"KeyboardInterrupt",[]⟩) false]⟩
    let targets : List Target := [⟨"m:a",.test []⟩,raising,stopped,⟨"m:d",.test []⟩]
    let b : Bench := ⟨.shared,.standard,⟨[],[]⟩,⟨[]⟩⟩
    ∃ s, (Run.of .empty b targets).result = .ok s ∧ s.interrupted = true ∧ s.passedCount = 1 ∧
      s.failedCount = 1 ∧ Accounts .empty b targets s := by
  intro raising stopped targets b
  exact ⟨_,rfl,rfl,rfl,rfl,run_accounts rfl⟩

end TestBench
