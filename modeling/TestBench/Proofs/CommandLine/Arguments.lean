import TestBench.Proofs.CommandLine.Reading
import TestBench.Proofs.CommandLine.Refusal
import TestBench.Proofs.Config.Plain

/-! Two ways to ask for a run. Targets, directories and whether the host is to report come from arguments
or from a configuration; either way the same plan is made of them, and a run goes by its plan alone. -/
namespace TestBench

namespace CommandLine

/-- A file is there whose text is a mapping with these entries. -/
def Says (s : Setting) (name : String) (entries : List (String × Given)) : Prop :=
  ∃ bytes document, s.tree.read s.directory (Path.ofText name) = .ok bytes ∧
    Yaml.load (.ofBytes bytes) = .ok (some document) ∧
    document.entries? = some (entries.map fun e => (.text e.1,e.2))

section Plans

variable {s : Setting} {name : String} {ts sp : List String} {b : Bool} {g : Given}
  {entries : List (String × Given)} {config : Config}

lemma exists_of_read {tree : FileTree} {dir : List String} {path : Path} {bytes : List UInt8}
    (h : tree.read dir path = .ok bytes) : tree.exists? dir path = .ok true := by
  unfold FileTree.read at h
  unfold FileTree.exists?
  cases hlook : tree.look dir path with
  | error f =>
    rw [hlook] at h
    cases h
  | ok node => rfl

lemma entriesOfBytes_of_mapping {bytes : List UInt8} {document : Yaml.Document} (name : String)
    (hd : Yaml.load (.ofBytes bytes) = .ok (some document))
    (hes : document.entries? = some (entries.map fun e => (.text e.1,e.2))) :
    Config.entriesOfBytes name bytes = .ok entries := by
  unfold Config.entriesOfBytes
  rw [hd]
  simp only [Option.bind_some,hes,Config.textEntries_of_texts]

/-- What comes of a file that says what a configuration is. -/
lemma configOf_of_says (h : Says s name entries) : ∃ dir, Plan.configOf s (some name) =
    match (Config.judge entries s.environment).1 with
    | .error ms => .error (.config (.invalid ms))
    | .ok c =>
      match c.resolved dir with
      | .error f => .error (.config f)
      | .ok c => .ok (some c) := by
  obtain ⟨bytes,document,hread,hd,hes⟩ := h
  refine ⟨Path.resolve (Path.ofWay s.directory) (Path.ofText name).parent,?_⟩
  simp only [Plan.configOf,exists_of_read hread,Config.load,hread]
  unfold Config.ofBytes
  rw [entriesOfBytes_of_mapping _ hd hes]
  dsimp only
  rcases Config.judge entries s.environment with ⟨_ | c,after⟩
  · rfl
  · rfl

/-- A file that says which targets to run gives a configuration that has them. -/
lemma configOf_of_targets (hts : ts ≠ []) (htargets : ∀ t ∈ ts, isTarget t = true)
    (hsp : ∀ p ∈ sp, IsPlainPath p) (he : Config.AreEntries (Config.listed ts) sp b entries)
    (h : Says s name entries) : Plan.configOf s (some name) = .ok (some ⟨ts,sp,b⟩) := by
  have hverdict : Config.testsVerdict (Config.asDict entries) (some (Config.listed ts)) = .ok ts :=
    Config.testsVerdict_eq_ok.mpr ⟨⟨_,rfl,Config.isTexts_listed ts⟩,hts,htargets⟩
  obtain ⟨dir,hconfig⟩ := configOf_of_says h
  rw [(Config.judge_of_entries he hsp s.environment).1 ts hverdict] at hconfig
  dsimp only at hconfig
  rw [Config.resolved_of_plain hsp] at hconfig
  exact hconfig

/-- Whatever tests a valid configuration has, its search paths and its flag are as they are written. -/
lemma config_of_says (hsp : ∀ p ∈ sp, IsPlainPath p) (he : Config.AreEntries g sp b entries)
    (h : Says s name entries) (hc : Plan.configOf s (some name) = .ok (some config)) :
    config.searchPaths = sp ∧ config.reports = b := by
  obtain ⟨dir,hconfig⟩ := configOf_of_says h
  rw [hconfig] at hc
  have hfields := (Config.judge_of_entries he hsp s.environment).2
  cases hj : (Config.judge entries s.environment).1 with
  | error ms =>
    rw [hj] at hc
    cases hc
  | ok c =>
    rw [hj] at hc
    obtain ⟨hpaths,hreports⟩ := hfields c hj
    obtain ⟨tests,paths,reports⟩ := c
    obtain rfl : paths = sp := hpaths
    obtain rfl : reports = b := hreports
    dsimp only at hc
    rw [Config.resolved_of_plain hsp] at hc
    obtain rfl := Option.some.inj (Except.ok.inj hc)
    exact ⟨rfl,rfl⟩

lemma directories_of_plain (s : Setting) (hsp : ∀ p ∈ sp, IsPlainPath p) :
    sp.mapM (Plan.directoryOf s) = .ok sp := by
  refine mapM_self fun p hp => ?_
  have hnul : (Path.ofText p).hasNul = false := Path.hasNul_of_isFull (hsp p hp).full
  rw [Plan.directoryOf,hnul,if_neg Bool.false_ne_true,Path.resolve_of_isFull (hsp p hp).full]

variable (logFile : String) (verbose : Bool)

lemma plan_of_arguments (s : Setting) (hts : ts ≠ []) (hsp : ∀ p ∈ sp, IsPlainPath p) (b : Bool) :
    Plan.of s ⟨ts,none,sp,logFile,verbose,!b⟩ = .ok ⟨ts,sp,b⟩ := by
  have hspecs : Plan.specsOf ⟨ts,none,sp,logFile,verbose,!b⟩ none = ts := by
    simp [Plan.specsOf,hts]
  rw [Plan.of_ready rfl (by rwa [hspecs]) (directories_of_plain s hsp),hspecs]
  simp

/-- A run goes by its plan, its log file and whether it is verbose. -/
lemma running_congr {r r' : RunRequest} (h : Plan.of s r = Plan.of s r') (hlog : r.logFile = r'.logFile)
    (hverbose : r.verbose = r'.verbose) : Running.of s r = Running.of s r' := by
  obtain ⟨targets,config,searchPaths,logFile,verbose,silent⟩ := r
  obtain ⟨targets',config',searchPaths',logFile',verbose',silent'⟩ := r'
  obtain rfl : logFile = logFile' := hlog
  obtain rfl : verbose = verbose' := hverbose
  unfold Running.of
  rw [h]
  rfl

end Plans

/-- Arguments that give targets, search paths and whether the host is to report. -/
def givenAs (ts sp : List String) (b : Bool) : List String :=
  ts ++ (sp.flatMap fun p => ["-s",p]) ++ if b then [] else ["--no-host-errors"]

def wordsFor (ts sp : List String) (b : Bool) : List Word :=
  ts.map .operand ++ (sp.map fun p => .option "search-path" (some p)) ++
    if b then [] else [.option "no-host-errors" none]

/-- A word that is about something else than targets, directories and the host. -/
def Word.IsOther : Word → Prop
  | .option name _ => name ≠ "config" ∧ name ≠ "search-path" ∧ name ≠ "no-host-errors"
  | .operand _ => False

/-- Arguments that are about something else, as far as they can be read. -/
def AreOthers (others : List String) : Prop :=
  ∀ ws, readWords runForms none others = some ws → ∀ w ∈ ws, w.IsOther

section Reading

variable {ts sp : List String} {ws : List Word}

lemma not_hyphen_of_target {t : String} (h : isTarget t = true) : t.startsWith "-" = false := by
  rw [Bool.eq_false_iff]
  intro hstarts
  obtain ⟨rest,hrest⟩ := String.startsWith_string_iff.mp hstarts
  have hnone : afterName isDottedWord t.toList = none := by
    rw [← hrest]
    rfl
  rw [isTarget,hnone] at h
  cases h

lemma readWords_targets (h : ∀ t ∈ ts, isTarget t = true) (rest : List String) :
    readWords runForms none (ts ++ rest) =
      (readWords runForms none rest).map (ts.map .operand ++ ·) :=
  readWords_operands (fun t ht => not_hyphen_of_target (h t ht)) rest

lemma readWords_searchPath (p : String) (rest : List String) :
    readWords runForms none ("-s" :: p :: rest) =
      (readWords runForms none rest).map (.option "search-path" (some p) :: ·) := by
  have hsaid : argumentSaid runForms "-s".toList = some ⟨[],some "search-path"⟩ := by decide +kernel
  rw [readWords_option (by decide) (by decide +kernel) hsaid,readWords,Option.map_map]
  rfl

lemma readWords_config (name : String) (rest : List String) :
    readWords runForms none ("-c" :: name :: rest) =
      (readWords runForms none rest).map (.option "config" (some name) :: ·) := by
  have hsaid : argumentSaid runForms "-c".toList = some ⟨[],some "config"⟩ := by decide +kernel
  rw [readWords_option (by decide) (by decide +kernel) hsaid,readWords,Option.map_map]
  rfl

lemma readWords_silent (rest : List String) : readWords runForms none ("--no-host-errors" :: rest) =
    (readWords runForms none rest).map (.option "no-host-errors" none :: ·) := by
  have hsaid : argumentSaid runForms "--no-host-errors".toList =
      some ⟨[.option "no-host-errors" none],none⟩ := by decide +kernel
  exact readWords_option (by decide) (by decide +kernel) hsaid rest

lemma readWords_searchPaths (sp rest : List String) :
    readWords runForms none ((sp.flatMap fun p => ["-s",p]) ++ rest) =
      (readWords runForms none rest).map ((sp.map fun p => .option "search-path" (some p)) ++ ·) := by
  induction sp with
  | nil => simp
  | cons p sp ih =>
    rw [List.flatMap_cons,List.append_assoc,List.cons_append,List.cons_append,List.nil_append,
      readWords_searchPath,ih,Option.map_map]
    rfl

lemma readWords_givenAs (htargets : ∀ t ∈ ts, isTarget t = true) (sp : List String) (b : Bool)
    (rest : List String) : readWords runForms none (givenAs ts sp b ++ rest) =
      (readWords runForms none rest).map (wordsFor ts sp b ++ ·) := by
  rw [givenAs,List.append_assoc,List.append_assoc,readWords_targets htargets,readWords_searchPaths]
  cases b with
  | true => simp [wordsFor,Option.map_map,Function.comp_def]
  | false => simp [wordsFor,readWords_silent,Option.map_map,Function.comp_def]

lemma values_eq_nil {name : String} (h : ∀ value, .option name value ∉ ws) :
    Word.values name ws = [] := by
  refine List.filterMap_eq_nil_iff.mpr fun w hw => ?_
  cases w with
  | operand text => rfl
  | option other value =>
    cases value with
    | none => rfl
    | some text =>
      refine if_neg ?_
      rintro rfl
      exact h _ hw

/-- What words about other things leave open. -/
lemma ofWords_others (h : ∀ w ∈ ws, w.IsOther) : Word.operands ws = [] ∧
    Word.values "config" ws = [] ∧ Word.values "search-path" ws = [] ∧
    Word.hasFlag "no-host-errors" ws = false := by
  refine ⟨?_,values_eq_nil fun value hw => (h _ hw).1 rfl,
    values_eq_nil fun value hw => (h _ hw).2.1 rfl,?_⟩
  · refine List.filterMap_eq_nil_iff.mpr fun w hw => ?_
    have hother := h w hw
    cases w with
    | option name value => rfl
    | operand text => exact hother.elim
  · rw [Word.hasFlag,Bool.eq_false_iff]
    intro hmem
    exact (h _ (List.contains_iff_mem.mp hmem)).2.2 rfl

lemma ofWords_wordsFor (h : ∀ w ∈ ws, w.IsOther) (ts sp : List String) (b : Bool) :
    RunRequest.ofWords (wordsFor ts sp b ++ ws) = ⟨ts,none,sp,(RunRequest.ofWords ws).logFile,
      (RunRequest.ofWords ws).verbose,!b⟩ := by
  obtain ⟨hoperands,hconfig,hpaths,hsilent⟩ := ofWords_others h
  cases b with
  | true => simp [RunRequest.ofWords,wordsFor,hoperands,hconfig,hpaths,hsilent]
  | false =>
    simp [RunRequest.ofWords,wordsFor,Word.operands_cons_option,Word.values_cons_flag,hoperands,hconfig,
      hpaths,hsilent]

lemma ofWords_config (h : ∀ w ∈ ws, w.IsOther) (ts : List String) (name : String) :
    RunRequest.ofWords (ts.map .operand ++ [.option "config" (some name)] ++ ws) =
      ⟨ts,some name,[],(RunRequest.ofWords ws).logFile,(RunRequest.ofWords ws).verbose,false⟩ := by
  obtain ⟨hoperands,hconfig,hpaths,hsilent⟩ := ofWords_others h
  simp [RunRequest.ofWords,Word.operands_cons_option,hoperands,hconfig,hpaths,hsilent]

lemma readWords_both (htargets : ∀ t ∈ ts, isTarget t = true) (name : String) (rest : List String) :
    readWords runForms none (ts ++ ["-c",name] ++ rest) = (readWords runForms none rest).map
      (ts.map .operand ++ [.option "config" (some name)] ++ ·) := by
  rw [List.append_assoc,readWords_targets htargets,List.cons_append,List.cons_append,List.nil_append,
    readWords_config,Option.map_map]
  simp [Function.comp_def]

variable {s : Setting} {front front' others : List String} {fs fs' : List Word}

/-- Arguments in front of the same others come to the same if their words ask for the same run, whatever
the others are. -/
lemma perform_congr
    (h : readWords runForms none (front ++ others) =
      (readWords runForms none others).map (fs ++ ·))
    (h' : readWords runForms none (front' ++ others) =
      (readWords runForms none others).map (fs' ++ ·))
    (hhelp : Word.hasFlag helpForm.name fs = false) (hhelp' : Word.hasFlag helpForm.name fs' = false)
    (hsame : ∀ ws, readWords runForms none others = some ws →
      Running.of s (.ofWords (fs ++ ws)) = Running.of s (.ofWords (fs' ++ ws))) :
    perform s ("run" :: (front ++ others)) = perform s ("run" :: (front' ++ others)) := by
  cases hws : readWords runForms none others with
  | none =>
    rw [hws] at h h'
    rw [perform_of_unread h,perform_of_unread h']
  | some ws =>
    rw [hws] at h h'
    rw [perform_of_words h,perform_of_words h',Word.hasFlag_append,Word.hasFlag_append,hhelp,hhelp',
      hsame ws hws]

/-- Arguments and a configuration that come to the same targets, directories and flag are two ways to ask
for the same. -/
lemma perform_of_config {name : String} {config : Config} {ts' : List String} (hts : ts ≠ [])
    (htargets : ∀ t ∈ ts, isTarget t = true) (hsp : ∀ p ∈ sp, IsPlainPath p)
    (hothers : AreOthers others) (hnamed : ∀ t ∈ ts', isTarget t = true)
    (hc : Plan.configOf s (some name) = .ok (some config))
    (hspecs : ∀ logFile verbose,
      Plan.specsOf ⟨ts',some name,[],logFile,verbose,false⟩ (some config) = ts)
    (hpaths : config.searchPaths = sp) :
    perform s ("run" :: (ts' ++ ["-c",name] ++ others)) =
      perform s ("run" :: (givenAs ts sp config.reports ++ others)) := by
  refine perform_congr (readWords_both hnamed name others)
    (readWords_givenAs htargets sp config.reports others) ?_ ?_ fun ws hws => ?_
  · simp [helpForm,Word.hasFlag_nil]
  · cases config.reports <;> simp [wordsFor,helpForm,Word.hasFlag_nil]
  · have hwords := hothers ws hws
    rw [ofWords_config hwords,ofWords_wordsFor hwords]
    refine running_congr ?_ rfl rfl
    rw [plan_of_arguments _ _ s hts hsp,Plan.of_ready hc (by rwa [hspecs]) rfl,hspecs]
    simp [hpaths]

end Reading

/-- Targets, directories and the flag that come from arguments come to the same as those that a
configuration says, whatever else is asked for; and where arguments name the targets, the tests of a
configuration make no difference. -/
theorem arguments_and_config_agree (s : Setting) {ts sp others : List String} (b : Bool) (hts : ts ≠ [])
    (htargets : ∀ t ∈ ts, isTarget t = true) (hsp : ∀ p ∈ sp, IsPlainPath p)
    (hothers : AreOthers others) :
    let given := perform s ("run" :: (givenAs ts sp b ++ others))
    (∀ name entries, Says s name entries → Config.AreEntries (Config.listed ts) sp b entries →
      perform s ("run" :: (["-c",name] ++ others)) = given) ∧
    (∀ name entries tests config, Says s name entries → Config.AreEntries tests sp b entries →
      Plan.configOf s (some name) = .ok (some config) →
      perform s ("run" :: (ts ++ ["-c",name] ++ others)) = given) ∧
    ∀ name config, Plan.configOf s (some name) = .ok (some config) → config.searchPaths = sp →
      config.reports = b → perform s ("run" :: (ts ++ ["-c",name] ++ others)) = given := by
  have hboth : ∀ name config, Plan.configOf s (some name) = .ok (some config) →
      config.searchPaths = sp → config.reports = b →
      perform s ("run" :: (ts ++ ["-c",name] ++ others)) =
        perform s ("run" :: (givenAs ts sp b ++ others)) := by
    rintro name config hc hpaths rfl
    refine perform_of_config hts htargets hsp hothers htargets hc (fun logFile verbose => ?_) hpaths
    simp [Plan.specsOf,hts]
  refine ⟨fun name entries hsays hentries => ?_,fun name entries tests config hsays hentries hc => ?_,
    hboth⟩
  · have hc := configOf_of_targets hts htargets hsp hentries hsays
    have hnone : ∀ t ∈ ([] : List String), isTarget t = true := fun t ht => absurd ht List.not_mem_nil
    have hsame := perform_of_config hts htargets hsp hothers hnone hc (fun _ _ => rfl) rfl
    rwa [List.nil_append] at hsame
  · obtain ⟨hpaths,hreports⟩ := config_of_says hsp hentries hsays hc
    exact hboth name config hc hpaths hreports

/-- A module with a test that pushes an error, and two configurations that keep the host silent. The
first one asks for that test, the second one for a test that is nowhere. -/
def silentSetting : Setting :=
  let script : Script := ⟨none,false,[],[("t",.function [.act (.pushError "unheard") false] "t")],none⟩
  let config (tests : String) : Content :=
    ⟨("tests: ['" ++ tests ++ "']\nsearch_paths: [/w]\nprint_error_messages: no\n").toUTF8.toList,none⟩
  ⟨((FileTree.empty.plant ["w","m.py"] ⟨[],some script⟩).plant ["w","c.yml"] (config "m:t")).plant
    ["w","d.yml"] (config "n:u"),["w"],⟨[]⟩,⟨[]⟩⟩

/-- What the text of a file says, if it is a mapping. -/
def readEntries (s : Setting) (name : String) : Option (List (Value × Given)) :=
  match s.tree.read s.directory (Path.ofText name) with
  | .error _ => none
  | .ok bytes =>
    match Yaml.load (.ofBytes bytes) with
    | .ok (some document) => document.entries?
    | _ => none

lemma says_of_readEntries {s : Setting} {name : String} {entries : List (String × Given)}
    (h : readEntries s name = some (entries.map fun e => (.text e.1,e.2))) : Says s name entries := by
  unfold readEntries at h
  split at h
  · cases h
  · rename_i bytes hread
    split at h
    · rename_i document hd
      exact ⟨bytes,document,hread,hd,h⟩
    · cases h

/-- Does a file say that one test is to be run, from one directory and with a silent host? -/
def asksFor (s : Setting) (name test directory : String) : Bool :=
  match readEntries s name with
  | some [(.text "tests",⟨.list [.text t],some [.text t']⟩),
      (.text "search_paths",⟨.list [.text p],some [.text p']⟩),
      (.text "print_error_messages",⟨.bool false,none⟩)] =>
    t = test && t' = test && p = directory && p' = directory
  | _ => false

lemma says_of_asksFor {s : Setting} {name test directory : String}
    (h : asksFor s name test directory = true) : Says s name [("tests",Config.listed [test]),
      ("search_paths",Config.listed [directory]),
      ("print_error_messages",.ofValue (.bool false))] := by
  unfold asksFor at h
  split at h
  · rename_i t t' p p' hread
    simp only [Bool.and_eq_true,decide_eq_true_eq] at h
    obtain ⟨⟨⟨rfl,rfl⟩,rfl⟩,rfl⟩ := h
    exact says_of_readEntries hread
  · cases h

/-- The same run, asked for in three ways: the host keeps its error to itself, and the test passes. -/
theorem arguments_and_config_agree_silent :
    let given := perform silentSetting ["run","m:t","-s","/w","--no-host-errors","--verbose"]
    perform silentSetting ["run","-c","c.yml","--verbose"] = given ∧
    perform silentSetting ["run","m:t","-c","d.yml","--verbose"] = given ∧
    given.ending = .exit 0 := by
  have hpath : ∀ p ∈ ["/w"], IsPlainPath p := by
    intro p hp
    obtain rfl := List.mem_singleton.mp hp
    refine ⟨⟨["w"],by decide,fun part hpart => ?_⟩,by decide,by decide⟩
    obtain rfl := List.mem_singleton.mp hpart
    exact ⟨by decide,by decide,by decide,by decide,by decide⟩
  have hothers : AreOthers ["--verbose"] := by
    intro ws hws w hw
    have hread : readWords runForms none ["--verbose"] = some [.option "verbose" none] := by
      decide +kernel
    obtain rfl := Option.some.inj (hws.symm.trans hread)
    obtain rfl := List.mem_singleton.mp hw
    exact ⟨by decide,by decide,by decide⟩
  have hsome : ["m:t"] ≠ [] := List.cons_ne_nil _ _
  have htarget : ∀ t ∈ ["m:t"], isTarget t = true := by decide +kernel
  have hfirst : asksFor silentSetting "c.yml" "m:t" "/w" = true := by decide +kernel
  have hsecond : asksFor silentSetting "d.yml" "n:u" "/w" = true := by decide +kernel
  have hvalid : Plan.configOf silentSetting (some "d.yml") = .ok (some ⟨["n:u"],["/w"],false⟩) :=
    eq_ok_of_toOption (by decide +kernel)
  obtain ⟨hconfig,hboth,-⟩ :=
    arguments_and_config_agree silentSetting false hsome htarget hpath hothers
  exact ⟨hconfig "c.yml" _ (says_of_asksFor hfirst) (.refl _),
    hboth "d.yml" _ _ _ (says_of_asksFor hsecond) (.refl _) hvalid,by decide +kernel⟩

end CommandLine
end TestBench
