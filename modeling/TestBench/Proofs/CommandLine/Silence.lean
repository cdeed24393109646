import TestBench.Proofs.Blanked
import TestBench.Proofs.CommandLine.Status
import TestBench.Proofs.Silence

/-! Requests that differ in whether the host is to report its errors. They end the same way with the same
output, and standard error lacks at most some errors of the host. -/
namespace TestBench.CommandLine

/-- What a place of a log shows of a record on standard error. -/
def sinkShown (r : LogRecord) : Sink → String
  | .file _ => ""
  | .errors => r.line

/-- What the log of a run shows of a record on standard error. -/
def recordShown (ls : Loggers) (r : LogRecord) : String :=
  if ls.isEnabled Running.loggerName r.level then
    match ls.sinksOf Running.loggerName with
    | [] => if Level.warning.rank ≤ r.level.rank then r.message ++ "\n" else ""
    | sinks => String.join (sinks.map (sinkShown r))
  else ""

def eventShown (ls : Loggers) : Event → String
  | .logged r => recordShown ls r
  | e => e.textOn false .errors

/-- What events show on standard error in a run. -/
def shown (ls : Loggers) (events : List Event) : String := String.join (events.map (eventShown ls))

def Config.unreported (c : Config) : Config := { c with reports := true }

/-- The second of two requests is the first one, but that the host may be asked to keep its errors to
itself: by a flag, or by what is written in the configuration. -/
structure Hushes (s s' : Setting) (r r' : RunRequest) : Prop where
  files : s.tree.blanked = s'.tree.blanked
  directory : s.directory = s'.directory
  clock : s.clock = s'.clock
  request : { r with silent := false } = { r' with silent := false }
  config : (Plan.configOf s r.config).map (Option.map Config.unreported) =
    (Plan.configOf s' r'.config).map (Option.map Config.unreported)
  reports : ∀ plan plan', Plan.of s r = .ok plan → Plan.of s' r' = .ok plan' →
    plan'.reports = true → plan.reports = true

/-- The parts that the tests of a request put out, if they are run. -/
def Running.parts (s : Setting) (r : RunRequest) : List Part :=
  match Plan.of s r with
  | .error _ => []
  | .ok plan =>
    match (resolution s plan).result, (log s r).result with
    | .ok targets, .ok _ => Run.parts (files s r targets) (bench s plan) targets
    | _, _ => []

/-- Standard error as it is and without some errors of the host. -/
def Hushes.Errors (s : Setting) (r : RunRequest) (errors errors' : String) : Prop :=
  ∃ kept rest, Hushed (Running.parts s r) kept ∧
    errors = shown (Running.log s r).loggers ((Running.parts s r).flatMap Part.events) ++ rest ∧
    errors' = shown (Running.log s r).loggers (kept.flatMap Part.events) ++ rest

/-- What two requests come to that differ in whether the host is to report. -/
structure Hushes.Alike (s : Setting) (r : RunRequest) (p p' : Performed) : Prop where
  ending : p.ending = p'.ending
  output : p.output = p'.output
  errors : Hushes.Errors s r p.errors p'.errors

namespace Running

lemma foldl_put_errors (r : LogRecord) (sinks : List Sink) (w : Written) :
    (sinks.foldl (fun w sink => w.put r sink) w).errors =
      w.errors ++ String.join (sinks.map (sinkShown r)) := by
  induction sinks generalizing w with
  | nil => simp
  | cons sink sinks ih =>
    rw [List.foldl_cons,ih,List.map_cons,String.join_cons,← String.append_assoc]
    cases sink <;> simp [Written.put,sinkShown]

lemma take_errors (ls : Loggers) (w : Written) (e : Event) :
    (take ls w e).errors = w.errors ++ eventShown ls e := by
  cases e with
  | logged r =>
    simp only [take,eventShown,Written.log,recordShown]
    by_cases henabled : ls.isEnabled loggerName r.level = true
    · rw [if_pos henabled,if_pos henabled]
      cases hsinks : ls.sinksOf loggerName with
      | nil => by_cases hrank : Level.warning.rank ≤ r.level.rank <;> simp [hrank,String.append_assoc]
      | cons sink sinks => exact foldl_put_errors r (sink :: sinks) w
    · rw [if_neg henabled,if_neg henabled,String.append_empty]
  | _ => rfl

lemma foldl_take_errors (ls : Loggers) (events : List Event) (w : Written) :
    (events.foldl (take ls) w).errors = w.errors ++ shown ls events := by
  induction events generalizing w with
  | nil => simp [shown]
  | cons e es ih =>
    rw [List.foldl_cons,ih,take_errors,shown,shown,List.map_cons,String.join_cons,String.append_assoc]

/-- What is said at the end of a request, on standard output and on standard error. -/
def said (r : RunRequest) : Except Fault Summary → String × String
  | .error f => ((Ending.ofFault f).output,(Ending.ofFault f).errors)
  | .ok summary => (closing r summary,"")

lemma conclude_output (r : RunRequest) (ls : Loggers) (tree : FileTree) (run : Run) :
    (conclude r ls tree run).output = textOn false .output run.events ++ (said r run.result).1 := by
  cases h : run.result <;> simp only [conclude,said,h]

lemma conclude_errors (r : RunRequest) (ls : Loggers) (tree : FileTree) (run : Run) :
    (conclude r ls tree run).errors = shown ls run.events ++ (said r run.result).2 := by
  cases h : run.result <;> simp [conclude,said,h,foldl_take_errors]

lemma conclude_ending (r r' : RunRequest) (ls ls' : Loggers) (tree tree' : FileTree) {run run' : Run}
    (h : run.result = run'.result) :
    (conclude r ls tree run).ending = (conclude r' ls' tree' run').ending := by
  cases hr : run'.result with
  | error f => rw [conclude_of_fault hr,conclude_of_fault (h.trans hr)]
  | ok summary => rw [conclude_of_summary hr,conclude_of_summary (h.trans hr)]

end Running

section Requests

variable {s s' : Setting} {r r' : RunRequest}

namespace Hushes

lemma request_eq (h : Hushes s s' r r') : r.targets = r'.targets ∧ r.searchPaths = r'.searchPaths ∧
    r.logFile = r'.logFile ∧ r.verbose = r'.verbose := by
  obtain ⟨htargets,_,hpaths,hlog,hverbose,_⟩ := RunRequest.mk.inj h.request
  exact ⟨htargets,hpaths,hlog,hverbose⟩

lemma specsOf_eq (h : Hushes s s' r r') {c c' : Option Config}
    (hc : c.map Config.unreported = c'.map Config.unreported) :
    Plan.specsOf r c = Plan.specsOf r' c' ∧
      (c.map Config.searchPaths).getD [] = (c'.map Config.searchPaths).getD [] := by
  obtain ⟨htargets,_⟩ := h.request_eq
  have htests : (c.map Config.unreported).map Config.tests =
      (c'.map Config.unreported).map Config.tests := by rw [hc]
  have hpaths : (c.map Config.unreported).map Config.searchPaths =
      (c'.map Config.unreported).map Config.searchPaths := by rw [hc]
  rw [Option.map_map,Option.map_map] at htests hpaths
  constructor
  · rw [Plan.specsOf,Plan.specsOf,htargets]
    exact congrArg (fun tests => if r'.targets.isEmpty then tests.getD [] else r'.targets) htests
  · exact congrArg (·.getD []) hpaths

/-- The plans of the two requests are refused alike, or have the same targets and directories. -/
lemma plan (h : Hushes s s' r r') :
    (∃ x, Plan.of s r = .error x ∧ Plan.of s' r' = .error x) ∨
      ∃ plan plan', Plan.of s r = .ok plan ∧ Plan.of s' r' = .ok plan' ∧
        plan.specs = plan'.specs ∧ plan.directories = plan'.directories := by
  obtain ⟨_,hpaths,_⟩ := h.request_eq
  have hdirs : Plan.directoryOf s = Plan.directoryOf s' := by
    funext text
    rw [Plan.directoryOf,Plan.directoryOf,h.directory]
  have hconfig := h.config
  cases hc : Plan.configOf s r.config with
  | error x =>
    cases hc' : Plan.configOf s' r'.config with
    | error x' =>
      rw [hc,hc'] at hconfig
      obtain rfl := Except.error.inj hconfig
      exact .inl ⟨x,Plan.of_unconfigured hc,Plan.of_unconfigured hc'⟩
    | ok c' =>
      rw [hc,hc'] at hconfig
      cases hconfig
  | ok c =>
    cases hc' : Plan.configOf s' r'.config with
    | error x' =>
      rw [hc,hc'] at hconfig
      cases hconfig
    | ok c' =>
      rw [hc,hc'] at hconfig
      obtain ⟨hspecs,hsearch⟩ := h.specsOf_eq (Except.ok.inj hconfig)
      by_cases hempty : Plan.specsOf r c = []
      · exact .inl ⟨_,Plan.of_testless hc hempty,Plan.of_testless hc' (hspecs ▸ hempty)⟩
      · have hempty' : Plan.specsOf r' c' ≠ [] := hspecs ▸ hempty
        cases hd : r.searchPaths.mapM (Plan.directoryOf s) with
        | error x =>
          have hd' : r'.searchPaths.mapM (Plan.directoryOf s') = .error x := by
            rw [← hpaths,← hdirs,hd]
          exact .inl ⟨x,Plan.of_misdirected hc hempty hd,Plan.of_misdirected hc' hempty' hd'⟩
        | ok directories =>
          have hd' : r'.searchPaths.mapM (Plan.directoryOf s') = .ok directories := by
            rw [← hpaths,← hdirs,hd]
          refine .inr ⟨_,_,Plan.of_ready hc hempty hd,Plan.of_ready hc' hempty' hd',hspecs,?_⟩
          exact congrArg (directories ++ ·) hsearch

lemma resolution_eq (h : Hushes s s' r r') {plan plan' : Plan} (hspecs : plan.specs = plan'.specs)
    (hdirs : plan.directories = plan'.directories) :
    Running.resolution s plan = Running.resolution s' plan' := by
  rw [Running.resolution,Running.resolution,hspecs,hdirs,← resolveAll_blanked s.tree,h.files,
    resolveAll_blanked]

lemma log_eq (h : Hushes s s' r r') : (Running.log s r).result = (Running.log s' r').result ∧
    (Running.log s r).loggers = (Running.log s' r').loggers := by
  obtain ⟨_,_,hlog,hverbose⟩ := h.request_eq
  obtain ⟨hresult,hloggers⟩ := SetUp.run_blanked .initial s.tree s.directory r.logFile r.verbose
    Running.loggerName
  obtain ⟨hresult',hloggers'⟩ := SetUp.run_blanked .initial s'.tree s'.directory r'.logFile r'.verbose
    Running.loggerName
  rw [h.files,h.directory,hlog,hverbose] at hresult hloggers
  rw [Running.log,Running.log,h.directory,hlog,hverbose]
  exact ⟨hresult.symm.trans hresult',hloggers.symm.trans hloggers'⟩

lemma bench (h : Hushes s s' r r') {plan plan' : Plan} (hp : Plan.of s r = .ok plan)
    (hp' : Plan.of s' r' = .ok plan') : (Running.bench s plan).Hushes (Running.bench s' plan') where
  host := rfl
  channel := rfl
  reports := by
    have hreports := h.reports plan plan' hp hp'
    change Quieter (.bool plan.reports) (.bool plan'.reports)
    cases hoff : plan'.reports with
    | true =>
      rw [hreports hoff]
      exact .inl rfl
    | false =>
      cases plan.reports with
      | true => exact .inr ⟨rfl,rfl⟩
      | false => exact .inl rfl

end Hushes

lemma alike_of_refused {refusal : Refusal} {tree tree' : FileTree} {clock clock' : Clock}
    {attempts attempts' : List Resolved} (hparts : Running.parts s r = [])
    (h : Running.of s r = Running.refuse refusal tree clock attempts)
    (h' : Running.of s' r' = Running.refuse refusal tree' clock' attempts') :
    Hushes.Alike s r (Running.of s r).performed (Running.of s' r').performed := by
  rw [h,h']
  refine ⟨rfl,rfl,[],refusal.farewell.errors,?_,?_,?_⟩
  · rw [hparts]
    exact .nil
  · rw [hparts]
    exact (String.empty_append).symm
  · exact (String.empty_append).symm

lemma alike_of_begun (h : Hushes s s' r r') {plan plan' : Plan} {targets : List Target}
    (hp : Plan.of s r = .ok plan) (hp' : Plan.of s' r' = .ok plan')
    (ht : (Running.resolution s plan).result = .ok targets)
    (ht' : (Running.resolution s' plan').result = .ok targets)
    (hl : (Running.log s r).result = .ok ()) (hblind : ∀ t ∈ targets, t.IsBlind) :
    Hushes.Alike s r (Running.of s r).performed (Running.of s' r').performed := by
  obtain ⟨hresult,hloggers⟩ := h.log_eq
  have hl' : (Running.log s' r').result = .ok () := hresult.symm.trans hl
  have hbench := h.bench hp hp'
  have hclock : (Running.bench s plan).clock = (Running.bench s' plan').clock := h.clock
  have hsame := (result_twice (Running.files s r targets) (Running.files s' r' targets) hbench
    (fun _ : True => hclock) hblind).2 trivial
  -- The files that the two runs find differ, but blind tests import nothing.
  obtain ⟨kept,hkept,hsimilar,hstreams⟩ :=
    run_hushed (Running.files s r targets) (Running.files s' r' targets) hbench hblind
  have hsaid : Running.said r = Running.said r' := by
    obtain ⟨_,_,hlog,hverbose⟩ := h.request_eq
    funext result
    cases result with
    | error f => rfl
    | ok summary => rw [Running.said,Running.said,Running.closing,Running.closing,hlog,hverbose]
  have hparts : Running.parts s r =
      Run.parts (Running.files s r targets) (Running.bench s plan) targets := by
    simp only [Running.parts,hp,ht,hl]
  have hapart : Stream.output ≠ (Running.bench s plan).host.channel.stream := by
    change Stream.output ≠ .errors
    decide
  have hstdout := hstreams false .output hapart
  have hevents := hsimilar.events hclock
  rw [Running.of_begun hp ht hl,Running.of_begun hp' ht' hl']
  refine ⟨Running.conclude_ending _ _ _ _ _ _ hsame,?_,kept,
    (Running.said r (Run.of (Running.files s r targets) (Running.bench s plan) targets).result).2,
    hparts ▸ hkept,?_,?_⟩
  · simp only [Running.conclude_output,hsaid,hsame,hstdout]
  · simp only [Running.conclude_errors,hparts,Run.of_events]
  · simp only [Running.conclude_errors,hevents,hsaid,hsame,hloggers]

/-- Two requests that differ in whether the host is to report end the same way with the same output, and
standard error differs by errors of the host alone. -/
theorem alike_of_hushes (h : Hushes s s' r r')
    (hblind : ∀ plan targets, Plan.of s r = .ok plan →
      (Running.resolution s plan).result = .ok targets → ∀ t ∈ targets, t.IsBlind) :
    Hushes.Alike s r (Running.of s r).performed (Running.of s' r').performed := by
  obtain ⟨x,hx,hx'⟩ | ⟨plan,plan',hp,hp',hspecs,hdirs⟩ := h.plan
  · have hparts : Running.parts s r = [] := by simp only [Running.parts,hx]
    exact alike_of_refused hparts (Running.of_unplanned hx) (Running.of_unplanned hx')
  · have hresolution := h.resolution_eq hspecs hdirs
    cases ht : (Running.resolution s plan).result with
    | error f =>
      have ht' : (Running.resolution s' plan').result = .error f := hresolution ▸ ht
      have hparts : Running.parts s r = [] := by simp only [Running.parts,hp,ht]
      exact alike_of_refused hparts (Running.of_unresolved hp ht) (Running.of_unresolved hp' ht')
    | ok targets =>
      have ht' : (Running.resolution s' plan').result = .ok targets := hresolution ▸ ht
      cases hl : (Running.log s r).result with
      | error f =>
        have hl' := h.log_eq.1.symm.trans hl
        have hparts : Running.parts s r = [] := by simp only [Running.parts,hp,ht,hl]
        exact alike_of_refused hparts (Running.of_unlogged hp ht hl) (Running.of_unlogged hp' ht' hl')
      | ok _ => exact alike_of_begun h hp hp' ht ht' hl (hblind plan targets hp ht)

lemma reports_of_plan {plan : Plan} (hp : Plan.of s r = .ok plan) :
    ∃ config, Plan.configOf s r.config = .ok config ∧
      plan.reports = (!r.silent && (config.map Config.reports).getD true) := by
  cases hc : Plan.configOf s r.config with
  | error x =>
    rw [Plan.of_unconfigured hc] at hp
    cases hp
  | ok config =>
    by_cases hs : Plan.specsOf r config = []
    · rw [Plan.of_testless hc hs] at hp
      cases hp
    · cases hd : r.searchPaths.mapM (Plan.directoryOf s) with
      | error x =>
        rw [Plan.of_misdirected hc hs hd] at hp
        cases hp
      | ok directories =>
        rw [Plan.of_ready hc hs hd] at hp
        obtain rfl := Except.ok.inj hp
        exact ⟨config,rfl,rfl⟩

lemma hushes_of_flag (s : Setting) (r : RunRequest) : Hushes s s r { r with silent := true } where
  files := rfl
  directory := rfl
  clock := rfl
  request := rfl
  config := rfl
  reports plan plan' _ hp' hon := by
    obtain ⟨config,_,hreports⟩ := reports_of_plan hp'
    rw [hreports] at hon
    cases hon

lemma hushes_of_config {tree' : FileTree} {c : Config} (hfiles : s.tree.blanked = tree'.blanked)
    (hc : Plan.configOf s r.config = .ok (some { c with reports := true }))
    (hc' : Plan.configOf { s with tree := tree' } r.config = .ok (some { c with reports := false })) :
    Hushes s { s with tree := tree' } r r where
  files := hfiles
  directory := rfl
  clock := rfl
  request := rfl
  config := by
    rw [hc,hc']
    rfl
  reports plan plan' _ hp' hon := by
    obtain ⟨config,hconfig,hreports⟩ := reports_of_plan hp'
    obtain rfl := Except.ok.inj (hc'.symm.trans hconfig)
    rw [hreports,Option.map_some,Option.getD_some,Bool.and_false] at hon
    cases hon

end Requests

/-- Whether the host reports its errors in the beginning changes no verdict of tests that never look at
it, and nothing that is put out but errors of the host: neither in a run, nor in a request, where a
flag or the configuration keeps the host silent. -/
theorem silence_changes_no_verdict :
    (∀ (tree : FileTree) (b b' : Bench) (targets : List Target), b.Hushes b' →
      (∀ t ∈ targets, t.IsBlind) →
      (Run.of tree b targets).result.map Summary.findings =
        (Run.of tree b' targets).result.map Summary.findings ∧
      (b.clock = b'.clock → (Run.of tree b targets).result = (Run.of tree b' targets).result) ∧
      ∃ kept, Hushed (Run.parts tree b targets) kept ∧
        Similar (b.clock = b'.clock) (kept.flatMap Part.events) (Run.of tree b' targets).events ∧
        ∀ terminal stream, stream ≠ b.host.channel.stream →
          textOn terminal stream (Run.of tree b targets).events =
            textOn terminal stream (Run.of tree b' targets).events) ∧
    (∀ (s s' : Setting) (r r' : RunRequest), Hushes s s' r r' →
      (∀ plan targets, Plan.of s r = .ok plan →
        (Running.resolution s plan).result = .ok targets → ∀ t ∈ targets, t.IsBlind) →
      Hushes.Alike s r (Running.of s r).performed (Running.of s' r').performed) ∧
    (∀ (s : Setting) (r : RunRequest), Hushes s s r { r with silent := true }) ∧
    ∀ (s : Setting) (tree' : FileTree) (r : RunRequest) (c : Config),
      s.tree.blanked = tree'.blanked →
      Plan.configOf s r.config = .ok (some { c with reports := true }) →
      Plan.configOf { s with tree := tree' } r.config = .ok (some { c with reports := false }) →
      Hushes s { s with tree := tree' } r r := by
  refine ⟨fun tree b b' targets h hblind => ?_,fun s s' r r' h hblind => alike_of_hushes h hblind,
    hushes_of_flag,fun s tree' r c hfiles hc hc' => hushes_of_config hfiles hc hc'⟩
  obtain ⟨hfindings,hsame⟩ := result_twice tree tree h (fun hc : b.clock = b'.clock => hc) hblind
  exact ⟨hfindings,hsame,run_hushed tree tree h hblind⟩

/-- The steps of a test that pushes an error, turns the reports off and on again, pushes another and
fails. -/
def noisySteps : List Step :=
  [.act (.pushError "first") false,.act .silence false,.act .unsilence false,
    .act (.pushError "second") false,.act (.assertFail "") false]

/-- A module with that test and a configuration that asks for it, in which the host's reports are as
written. -/
def noisySetting (reports : String) : Setting :=
  let script : Script := ⟨none,false,[],[("t",.function noisySteps "t")],none⟩
  let config := "tests: ['m:t']\nprint_error_messages: " ++ reports
  ⟨(FileTree.empty.plant ["w","m.py"] ⟨[],some script⟩).plant ["w","c.yml"] ⟨config.toUTF8.toList,none⟩,
    ["w"],⟨[]⟩,⟨[]⟩⟩

def noisyRequest : RunRequest := ⟨[],some "c.yml",["."],standardLogFile,false,false⟩

/-- With a host that is silent in the beginning the test fails as well, and the first error alone is not
told; and so it goes when it is requested with the flag, or with the other configuration. -/
theorem silence_changes_no_verdict_noisy :
    let noisy : Target := ⟨"m:t",.test noisySteps⟩
    let b : Bench := ⟨.new .standard (.bool true),.standard,⟨[],[]⟩,⟨[]⟩⟩
    let b' : Bench := ⟨.new .standard (.bool false),.standard,⟨[],[]⟩,⟨[]⟩⟩
    let told := (Running.of (noisySetting "true") noisyRequest).performed
    let flagged := (Running.of (noisySetting "true") { noisyRequest with silent := true }).performed
    let untold := (Running.of (noisySetting "false") noisyRequest).performed
    ((Run.of .empty b [noisy]).result = (Run.of .empty b' [noisy]).result ∧
      textOn false .errors (Run.of .empty b [noisy]).events =
        "first\n" ++ textOn false .errors (Run.of .empty b' [noisy]).events) ∧
    Hushes.Alike (noisySetting "true") noisyRequest told flagged ∧
    Hushes.Alike (noisySetting "true") noisyRequest told untold ∧
    told.errors = "first\n" ++ untold.errors := by
  intro noisy b b' told flagged untold
  have hbenches : b.Hushes b' := ⟨rfl,rfl,.inr ⟨rfl,rfl⟩⟩
  have hnoisy : ∀ t ∈ [noisy], t.IsBlind := by decide
  obtain ⟨_,hsame,_⟩ := silence_changes_no_verdict.1 .empty b b' [noisy] hbenches hnoisy
  have hresolved : ((Plan.of (noisySetting "true") noisyRequest).toOption.bind fun plan =>
      (Running.resolution (noisySetting "true") plan).result.toOption.map
        fun targets => targets.all fun t => decide t.IsBlind) = some true := by decide +kernel
  have hblind : ∀ plan targets, Plan.of (noisySetting "true") noisyRequest = .ok plan →
      (Running.resolution (noisySetting "true") plan).result = .ok targets →
        ∀ t ∈ targets, t.IsBlind := by
    intro plan targets hp ht t hmem
    simp only [hp,ht,Except.toOption,Option.bind_some,Option.map_some,Option.some.injEq,
      List.all_eq_true,decide_eq_true_eq] at hresolved
    exact hresolved t hmem
  have hflag := silence_changes_no_verdict.2.2.1 (noisySetting "true") noisyRequest
  have hfiles : (noisySetting "true").tree.blanked = (noisySetting "false").tree.blanked := by
    simp only [noisySetting,FileTree.plant,FileTree.put_blanked,Node.blanked,Content.blanked]
  have hconfig := silence_changes_no_verdict.2.2.2 (noisySetting "true") (noisySetting "false").tree
    noisyRequest ⟨["m:t"],[],true⟩ hfiles (eq_ok_of_toOption (by decide +kernel))
    (eq_ok_of_toOption (by decide +kernel))
  exact ⟨⟨hsame rfl,by decide +kernel⟩,silence_changes_no_verdict.2.1 _ _ _ _ hflag hblind,
    silence_changes_no_verdict.2.1 _ _ _ _ hconfig hblind,by decide +kernel⟩

end TestBench.CommandLine
