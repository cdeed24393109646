import TestBench.Proofs.CommandLine.Reading
import TestBench.Proofs.CommandLine.Silence
import TestBench.Proofs.Logger

/-! Requests that differ in whether they are verbose. The log goes to its file in both, and standard error
gets its lines in between only if the request is verbose; nothing that takes part in a run can tell. -/
namespace TestBench

/-- The members of two lists in one, each in the order of its own list. -/
inductive Interleaved {α : Type} : List α → List α → List α → Prop
  | nil : Interleaved [] [] []
  | left {a as bs cs} (h : Interleaved as bs cs) : Interleaved (a :: as) bs (a :: cs)
  | right {b as bs cs} (h : Interleaved as bs cs) : Interleaved as (b :: bs) (b :: cs)

namespace Interleaved

variable {α : Type} {as as' bs bs' cs cs' : List α}

lemma append (h : Interleaved as bs cs) (h' : Interleaved as' bs' cs') :
    Interleaved (as ++ as') (bs ++ bs') (cs ++ cs') := by
  induction h with
  | nil => exact h'
  | left _ ih => exact .left ih
  | right _ ih => exact .right ih

lemma lefts (as : List α) : Interleaved as [] as := by
  induction as with
  | nil => exact .nil
  | cons a as ih => exact .left ih

end Interleaved

namespace CommandLine

/-- The lines that records give a log. -/
def linesOf (events : List Event) : List String := (recordsOf events).map LogRecord.line

/-- What an event puts on standard error in a run, piece by piece. -/
def piecesOf (verbose : Bool) : Event → List String
  | .logged r => if verbose then [r.line] else []
  | e => [e.textOn false .errors]

/-- A command that is verbose, if it can be. -/
def Command.verbosely : Command → Command
  | .run r => .run { r with verbose := true }
  | command => command

namespace Running

/-- Does a request get past the run of its tests? -/
def IsPast (x : Running) : Prop := ∃ run summary, x.run = some run ∧ run.result = .ok summary

/-- The lines that a request gives its log. -/
def lines (x : Running) : List String := (x.run.map fun run => linesOf run.events).getD []

end Running

/-- What a request comes to with and without the log on standard error. It differs in the line that
names the log, and in the lines of the log themselves. -/
structure SameButShown (s : Setting) (logFile : String) (quiet loud : Running) : Prop where
  ending : quiet.performed.ending = loud.performed.ending
  attempts : quiet.attempts = loud.attempts
  run : quiet.run = loud.run
  tree : quiet.performed.tree = loud.performed.tree
  clock : quiet.performed.clock = loud.performed.clock
  /-- The name of the log is the last thing said by a request that gets past the run. -/
  past : quiet.IsPast →
    quiet.performed.output = loud.performed.output ++ lineOf ("Debug log: " ++ logFile)
  notPast : ¬quiet.IsPast → quiet.performed.output = loud.performed.output
  /-- The lines of the log stand between the pieces of what is shown without them. -/
  errors : ∃ pieces shown, quiet.performed.errors = String.join pieces ∧
    loud.performed.errors = String.join shown ∧ Interleaved pieces quiet.lines shown
  /-- The file of the log has the same lines behind what it held, and no other file has changed. -/
  files : ∀ way, quiet.performed.tree.bytesAt way = s.tree.bytesAt way ++
    if (SetUp.openLog s.tree s.directory logFile).1 = .ok way
      then quiet.lines.flatMap (fun line => line.toUTF8.toList) else []
  grows : s.tree.Grows quiet.performed.tree

/-- A tree with lines behind what the file at a way holds. -/
def appended (way : List String) (t : FileTree) (lines : List String) : FileTree :=
  lines.foldl (fun t line => t.log way line.toUTF8.toList) t

section Appended

variable {t : FileTree} {way : List String} {c : Content}

lemma grows_appended (h : t.get? way = some (.file c)) (lines : List String) :
    t.Grows (appended way t lines) := by
  induction lines generalizing t c with
  | nil => exact .refl t
  | cons line lines ih =>
    have hgrows := FileTree.grows_log h line.toUTF8.toList
    obtain ⟨c',hc',-⟩ := hgrows.file h
    exact hgrows.trans (ih hc')

lemma bytesAt_appended (h : t.get? way = some (.file c)) (lines : List String) (other : List String) :
    (appended way t lines).bytesAt other = t.bytesAt other ++
      if other = way then lines.flatMap (fun line => line.toUTF8.toList) else [] := by
  induction lines generalizing t c with
  | nil => simp [appended]
  | cons line lines ih =>
    obtain ⟨c',hc',-⟩ := (FileTree.grows_log h line.toUTF8.toList).file h
    have hrest := ih hc'
    rw [FileTree.bytesAt_log h] at hrest
    rw [appended,List.foldl_cons,← appended,hrest]
    by_cases he : other = way <;> simp [he]

end Appended

lemma linesOf_cons (e : Event) (events : List Event) :
    linesOf (e :: events) = linesOf [e] ++ linesOf events := by
  rw [linesOf,linesOf,linesOf,← List.map_append,← recordsOf_append,List.singleton_append]

lemma interleaved_pieces (events : List Event) :
    Interleaved (events.flatMap (piecesOf false)) (linesOf events) (events.flatMap (piecesOf true)) := by
  induction events with
  | nil => exact .nil
  | cons e events ih =>
    rw [List.flatMap_cons,List.flatMap_cons,linesOf_cons]
    refine Interleaved.append ?_ ih
    cases e with
    | logged r => exact .right .nil
    | _ => exact .lefts _

namespace Running

section Take

variable {ls : Loggers} {w : Written} {verbose : Bool} {way : List String}

lemma take_of_setUp (h : ls.Settled w.tree) (hname : ls.placesOf loggerName = SetUp.sinks verbose way)
    (e : Event) : take ls w e =
      ⟨appended way w.tree (linesOf [e]),w.errors ++ String.join (piecesOf verbose e)⟩ := by
  cases e with
  | logged r =>
    rw [take,Written.log_of_setUp h hname]
    cases verbose <;> simp [piecesOf,linesOf,recordsOf,Event.record?,appended]
  | line stream text => exact congrArg (Written.mk w.tree) (by simp [piecesOf])
  | blank stream => exact congrArg (Written.mk w.tree) (by simp [piecesOf])
  | printed text => exact congrArg (Written.mk w.tree) (by simp [piecesOf])

/-- Events of a run give their lines to the file of the log, and their pieces to standard error. -/
lemma foldl_take_of_setUp {c : Content} (h : ls.Settled w.tree)
    (hname : ls.placesOf loggerName = SetUp.sinks verbose way)
    (hc : w.tree.get? way = some (.file c)) (events : List Event) : events.foldl (take ls) w =
      ⟨appended way w.tree (linesOf events),
        w.errors ++ String.join (events.flatMap (piecesOf verbose))⟩ := by
  induction events generalizing w c with
  | nil => simp [linesOf,recordsOf,appended]
  | cons e events ih =>
    have hgrows := grows_appended hc (linesOf [e])
    obtain ⟨c',hc',-⟩ := hgrows.file hc
    rw [List.foldl_cons,take_of_setUp h hname,ih (h.grows hgrows) hc',linesOf_cons e events,appended,
      appended,appended,← List.foldl_append,List.flatMap_cons,String.join_append,String.append_assoc]

end Take

variable {s : Setting} {r : RunRequest} {plan : Plan} {targets : List Target} {tree : FileTree}
  {way : List String}

lemma of_unopened {f : FileFault} (hp : Plan.of s r = .ok plan)
    (ht : (resolution s plan).result = .ok targets)
    (h : SetUp.openLog s.tree s.directory r.logFile = (.error f,tree)) :
    Running.of s r = refuse (.log (.file f)) tree s.clock (resolution s plan).attempts := by
  have hlog : log s r = ⟨.error (.file f),_,tree⟩ := SetUp.run_of_unopened rfl h
  rw [of_unlogged hp ht (congrArg SetUp.result hlog),hlog]

lemma log_of_opened (h : SetUp.openLog s.tree s.directory r.logFile = (.ok way,tree)) :
    (log s r).result = .ok () ∧ (log s r).tree = tree ∧ (log s r).loggers.Settled tree ∧
      (log s r).loggers.placesOf loggerName = SetUp.sinks r.verbose way := by
  have hinitial := Loggers.Settled.initial s.tree
  have hsettled := hinitial.run s.directory r.logFile r.verbose loggerName
  rw [SetUp.run_of_opened rfl h] at hsettled
  rw [log,SetUp.run_of_opened rfl h]
  exact ⟨rfl,rfl,hsettled,by rw [SetUp.placesOf_attached hinitial.root rfl,if_pos rfl]⟩

/-- The tests of a request find the same files in both cases: the log has the same lines by then. -/
lemma files_of_opened {c : Content} (h : SetUp.openLog s.tree s.directory r.logFile = (.ok way,tree))
    (hc : tree.get? way = some (.file c)) (targets : List Target) :
    files s r targets = appended way tree (linesOf (Run.opening targets.length)) := by
  obtain ⟨-,htree,hsettled,hplaces⟩ := log_of_opened h
  rw [files,filesOf,htree,foldl_take_of_setUp (w := ⟨tree,""⟩) hsettled hplaces hc]

/-- What is left of a request whose log is open once its run is over. -/
lemma conclude_of_opened {c : Content} (h : SetUp.openLog s.tree s.directory r.logFile = (.ok way,tree))
    (hc : tree.get? way = some (.file c)) (run : Run) :
    let concluded := conclude r (log s r).loggers (log s r).tree run
    concluded.tree = appended way tree (linesOf run.events) ∧
    concluded.errors = String.join (run.events.flatMap (piecesOf r.verbose)) ++ (said r run.result).2 ∧
    concluded.clock = run.bench.clock := by
  obtain ⟨-,htree,hsettled,hplaces⟩ := log_of_opened h
  have htaken := foldl_take_of_setUp (w := ⟨tree,""⟩) hsettled hplaces hc run.events
  rw [htree]
  cases hresult : run.result <;> simp [conclude,said,hresult,htaken]

lemma said_quiet (r : RunRequest) (summary : Summary) :
    (said { r with verbose := false } (.ok summary)).1 =
      (said { r with verbose := true } (.ok summary)).1 ++ lineOf ("Debug log: " ++ r.logFile) := by
  simp [said,closing]

/-- A fault that ends a request is told the same way by every request. -/
lemma said_errors (r r' : RunRequest) (result : Except Fault Summary) :
    (said r result).2 = (said r' result).2 := by
  cases result <;> rfl

end Running

section Requests

variable {s : Setting} {r : RunRequest} {quiet loud : Running}

/-- A request that is refused comes to the same in both cases, and has no log. -/
lemma sameButShown_of_refused {refusal : Refusal} {tree : FileTree} {clock : Clock}
    {attempts : List Resolved} (logFile : String) (htree : s.tree.Extends tree)
    (hq : quiet = Running.refuse refusal tree clock attempts)
    (hl : loud = Running.refuse refusal tree clock attempts) :
    SameButShown s logFile quiet loud := by
  subst hq hl
  refine ⟨rfl,rfl,rfl,rfl,rfl,?_,fun _ => rfl,?_,fun way => ?_,htree.grows⟩
  · rintro ⟨run,summary,hrun,-⟩
    cases hrun
  · exact ⟨[refusal.farewell.errors],_,by simp [Running.refuse],by simp [Running.refuse],.lefts _⟩
  · have hbytes := htree.bytesAt_eq way
    simpa [Running.refuse,Running.lines] using hbytes

lemma sameButShown_of_begun {plan : Plan} {targets : List Target} {way : List String} {tree : FileTree}
    (hp : Plan.of s r = .ok plan) (ht : (Running.resolution s plan).result = .ok targets)
    (ho : SetUp.openLog s.tree s.directory r.logFile = (.ok way,tree)) :
    SameButShown s r.logFile (Running.of s { r with verbose := false })
      (Running.of s { r with verbose := true }) := by
  obtain ⟨c,hc⟩ := FileTree.file_of_openLog ho
  have hextends := s.tree.extends_openLog s.directory r.logFile
  rw [ho] at hextends
  obtain ⟨hquiet,-⟩ := Running.log_of_opened (r := { r with verbose := false }) ho
  obtain ⟨hloud,-⟩ := Running.log_of_opened (r := { r with verbose := true }) ho
  rw [Running.of_begun (r := { r with verbose := false }) hp ht hquiet,
    Running.of_begun (r := { r with verbose := true }) hp ht hloud,
    Running.files_of_opened (r := { r with verbose := false }) ho hc,
    Running.files_of_opened (r := { r with verbose := true }) ho hc]
  generalize Run.of _ _ _ = run
  obtain ⟨htree,herrors,hclock⟩ :=
    Running.conclude_of_opened (r := { r with verbose := false }) ho hc run
  obtain ⟨htree',herrors',hclock'⟩ :=
    Running.conclude_of_opened (r := { r with verbose := true }) ho hc run
  refine ⟨Running.conclude_ending _ _ _ _ _ _ rfl,rfl,rfl,htree.trans htree'.symm,
    hclock.trans hclock'.symm,?_,fun hnot => ?_,?_,fun other => ?_,?_⟩
  · rintro ⟨_,summary,hrun,hresult⟩
    obtain rfl := Option.some.inj hrun
    simp only [Running.conclude_output,hresult,Running.said_quiet,String.append_assoc]
  · cases hresult : run.result with
    | ok summary => exact absurd ⟨run,summary,rfl,hresult⟩ hnot
    | error f =>
      simp only [Running.conclude_output,hresult]
      rfl
  · -- What is said at the end comes behind all the pieces in both cases.
    have hend := (interleaved_pieces run.events).append (.lefts [(Running.said r run.result).2])
    rw [List.append_nil] at hend
    refine ⟨_,_,herrors.trans ?_,herrors'.trans ?_,hend⟩
    · rw [String.join_append,Running.said_errors { r with verbose := false } r]
      simp
    · rw [String.join_append,Running.said_errors { r with verbose := true } r]
      simp
  · dsimp only
    rw [htree,bytesAt_appended hc,hextends.bytesAt_eq,ho]
    congr 1
    by_cases he : other = way
    · simp [he,Running.lines]
    · simp [he,Ne.symm he]
  · dsimp only
    rw [htree]
    exact hextends.grows.trans (grows_appended hc _)

/-- The same request with and without the log on standard error. -/
lemma sameButShown (s : Setting) (r : RunRequest) :
    SameButShown s r.logFile (Running.of s { r with verbose := false })
      (Running.of s { r with verbose := true }) := by
  cases hp : Plan.of s r with
  | error x =>
    exact sameButShown_of_refused _ (.refl s.tree)
      (Running.of_unplanned (r := { r with verbose := false }) hp)
      (Running.of_unplanned (r := { r with verbose := true }) hp)
  | ok plan =>
    cases ht : (Running.resolution s plan).result with
    | error f =>
      exact sameButShown_of_refused _ (.refl s.tree)
        (Running.of_unresolved (r := { r with verbose := false }) hp ht)
        (Running.of_unresolved (r := { r with verbose := true }) hp ht)
    | ok targets =>
      rcases ho : SetUp.openLog s.tree s.directory r.logFile with ⟨opened,tree⟩
      cases opened with
      | ok way => exact sameButShown_of_begun hp ht ho
      | error f =>
        have hextends := s.tree.extends_openLog s.directory r.logFile
        rw [ho] at hextends
        exact sameButShown_of_refused _ hextends
          (Running.of_unopened (r := { r with verbose := false }) hp ht ho)
          (Running.of_unopened (r := { r with verbose := true }) hp ht ho)

end Requests

namespace Command

lemma readWords_verbose (arguments : List String) :
    readWords runForms none ("--verbose" :: arguments) =
      (readWords runForms none arguments).map (.option "verbose" none :: ·) := by
  have hsaid : argumentSaid runForms "--verbose".toList = some ⟨[.option "verbose" none],none⟩ := by
    decide +kernel
  have hoption : isOptions "--verbose" = true := by decide +kernel
  exact readWords_option (by decide) hoption hsaid arguments

lemma runOf_verbose (ws : List Word) :
    runOf (.option "verbose" none :: ws) = (runOf ws).map Command.verbosely := by
  have hhelp : Word.hasFlag helpForm.name (.option "verbose" none :: ws) =
      Word.hasFlag helpForm.name ws := by
    simp [Word.hasFlag,helpForm]
  rw [runOf,runOf,hhelp]
  split
  · rfl
  · simp [verbosely,RunRequest.ofWords,Word.operands,Word.values,Word.hasFlag]

/-- The flag in front of all other arguments asks for the same, and for it to be verbose. -/
lemma ofArguments_verbose (arguments : List String) :
    ofArguments ("run" :: "--verbose" :: arguments) =
      (ofArguments ("run" :: arguments)).map Command.verbosely := by
  rw [ofArguments_run,ofArguments_run,readWords_verbose]
  cases readWords runForms none arguments with
  | none => rfl
  | some ws => exact runOf_verbose ws

end Command

/-- Being verbose changes nothing of a request but where its log is shown: tests, outcomes, files and the
exit status are the same, the line that names the log goes, and its lines stand on standard error between
what is there without them. The flag changes nothing else of what arguments ask for. -/
theorem verbose_shows_log_alone :
    (∀ (s : Setting) (r : RunRequest), SameButShown s r.logFile
      (Running.of s { r with verbose := false }) (Running.of s { r with verbose := true })) ∧
    ∀ arguments : List String, Command.ofArguments ("run" :: "--verbose" :: arguments) =
      (Command.ofArguments ("run" :: arguments)).map Command.verbosely :=
  ⟨sameButShown,Command.ofArguments_verbose⟩

end CommandLine
end TestBench
