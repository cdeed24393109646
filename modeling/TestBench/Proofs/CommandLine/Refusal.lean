import TestBench.Proofs.CommandLine.Running
import TestBench.Proofs.Config.Load
import TestBench.Proofs.Resolution

/-! Requests that are refused. Before the first test is called there must be a configuration if one is
asked for, tests to run, and a target for each of them. What is missing is told by one message, and then
nothing has been run and nothing written; only a fault that has no message, or none that can be made up,
goes through. -/
namespace TestBench

/-- What is said of a target that is not resolved, if that can be said. -/
def ResolveFault.told : ResolveFault → Except Fault String
  | .raised f => f.text.map String.ofList
  | f => .ok f.message

/-- Is a fault about a value? All are, but for one that resolving lets through. -/
def ResolveFault.isValueFault : ResolveFault → Bool
  | .raised f => f.isValueFault
  | _ => true

namespace CommandLine

/-- A request that ends with a farewell after some attempts at its targets. It runs nothing, prints
nothing and leaves all files as they are. -/
def Running.dismissed (s : Setting) (farewell : Farewell) (attempts : List Resolved) : Running :=
  ⟨⟨farewell.ending,s.tree,s.clock,farewell.output,farewell.errors⟩,attempts,none⟩

/-- A request that is refused with a message: the status is one, and the message is the only thing that
is said. -/
def Running.refused (s : Setting) (message : String) (attempts : List Resolved) : Running :=
  dismissed s ⟨.exit 1,"",lineOf ("Error: " ++ message)⟩ attempts

/-- What comes of the configuration that a request names. -/
def loaded (s : Setting) (name : String) : Except LoadFault Config :=
  (Config.load s.tree s.directory (Path.ofText name) s.environment).1

variable {s : Setting} {r : RunRequest} {plan : Plan} {name : String} {f : LoadFault}

lemma of_configRefusal {x : Refusal} (hname : r.config = some name)
    (h : Plan.configOf s (some name) = .error x) :
    Running.of s r = .dismissed s x.farewell [] := by
  rw [← hname] at h
  rw [Running.of_unplanned (Plan.of_unconfigured h)]
  rfl

lemma of_missing (hname : r.config = some name)
    (h : s.tree.exists? s.directory (Path.ofText name) = .ok false) :
    Running.of s r = .refused s ("config file not found: " ++ name) [] :=
  of_configRefusal (x := .noConfig name) hname (by simp only [Plan.configOf,h])

/-- A name that is too long is the only one of which it cannot be asked whether it leads anywhere. -/
lemma exists_eq_error {g : FileFault} {dir : List String} {path : Path} {tree : FileTree}
    (h : tree.exists? dir path = .error g) : g = .nameTooLong := by
  unfold FileTree.exists? at h
  split at h
  · cases h
  · exact (Except.error.inj h).symm
  · cases h

lemma of_unasked {g : FileFault} (hname : r.config = some name)
    (h : s.tree.exists? s.directory (Path.ofText name) = .error g) :
    Running.of s r = .dismissed s ⟨.escaped (.ofFile g),"",""⟩ [] := by
  obtain rfl := exists_eq_error h
  exact of_configRefusal (x := .config (.file .nameTooLong)) hname (by simp only [Plan.configOf,h])

lemma of_unloaded (hname : r.config = some name)
    (h : s.tree.exists? s.directory (Path.ofText name) = .ok true) (hf : loaded s name = .error f) :
    Running.of s r = .dismissed s (Refusal.ofLoad f) [] := by
  unfold loaded at hf
  exact of_configRefusal (x := .config f) hname (by simp only [Plan.configOf,h,hf])

/-- A fault of the configuration that is reported is what the request is refused with. -/
lemma of_misconfigured (hname : r.config = some name)
    (h : s.tree.exists? s.directory (Path.ofText name) = .ok true) (hl : loaded s name = .error f)
    (hf : f.isReported = true) :
    ∃ message, f.message? = some message ∧ Running.of s r = .refused s message [] := by
  obtain ⟨message,hm⟩ := Config.message_of_reported hl hf
  refine ⟨message,hm,?_⟩
  rw [of_unloaded hname h hl]
  simp [Refusal.ofLoad,hf,hm,Refusal.reported,Running.refused]

lemma configOf_of_loaded {c : Config} (h : s.tree.exists? s.directory (Path.ofText name) = .ok true)
    (hc : loaded s name = .ok c) : Plan.configOf s (some name) = .ok (some c) := by
  unfold loaded at hc
  simp only [Plan.configOf,h,hc]

/-- A configuration that is there is read; or it is refused with a message; or, if the fault is of a kind
that is not reported, the fault goes through and nothing is said. -/
theorem config_told_or_escapes (s : Setting) (path : Path) :
    (∀ f, (Config.load s.tree s.directory path s.environment).1 = .error f →
      (f.isReported = true ∧ ∃ message, f.message? = some message) ∨
      f.isReported = false ∧ f.kind ∈ Config.unreportedKinds) ∧
    (∀ f, (Config.load s.tree s.directory path s.environment).1 = .error f ∧ f.isReported = false ↔
      Config.Unreported s.tree s.directory path f) ∧
    ∀ r name, r.config = some name → Path.ofText name = path →
      (∀ g, s.tree.exists? s.directory path = .error g →
        Running.of s r = .dismissed s ⟨.escaped (.ofFile g),"",""⟩ []) ∧
      (s.tree.exists? s.directory path = .ok true →
        (∃ c, loaded s name = .ok c ∧ Plan.configOf s r.config = .ok (some c)) ∨
        ∃ f, loaded s name = .error f ∧
          (f.isReported = true → ∃ message, f.message? = some message ∧
            Running.of s r = .refused s message []) ∧
          (f.isReported = false → Running.of s r = .dismissed s ⟨.escaped (.ofLoad f),"",""⟩ [])) := by
  refine ⟨fun f h => ?_,fun f => ?_,?_⟩
  · cases hf : f.isReported with
    | true => exact .inl ⟨rfl,Config.message_of_reported h hf⟩
    | false => exact .inr ⟨rfl,Config.kind_of_unreported (Config.unreported_of_load h hf)⟩
  · constructor
    · exact fun ⟨h,hf⟩ => Config.unreported_of_load h hf
    · exact fun h => ⟨Config.load_of_unreported h,Config.isReported_of_unreported h⟩
  · rintro r name hname rfl
    refine ⟨fun g hg => of_unasked hname hg,fun hthere => ?_⟩
    cases hl : loaded s name with
    | ok c =>
      rw [hname]
      exact .inl ⟨c,rfl,configOf_of_loaded hthere hl⟩
    | error f =>
      refine .inr ⟨f,rfl,fun hf => of_misconfigured hname hthere hl hf,fun hf => ?_⟩
      rw [of_unloaded hname hthere hl]
      simp [Refusal.ofLoad,hf]

/-- A configuration whose only key is a number. -/
def numberedSetting : Setting :=
  ⟨FileTree.empty.plant ["w","c.yaml"] ⟨"1: x\n".toUTF8.toList,none⟩,["w"],⟨[]⟩,⟨[]⟩⟩

def numberedRequest : RunRequest := ⟨[],some "c.yaml",[],standardLogFile,false,false⟩

/-- A key that is no text is no mistake that is told: the request ends by a fault, and says nothing. -/
theorem escapes_from_number :
    numberedSetting.tree.exists? ["w"] (Path.ofText "c.yaml") = .ok true ∧
    (Running.of numberedSetting numberedRequest).performed.ending =
      .escaped ⟨"TypeError",some "keywords must be strings"⟩ ∧
    (Running.of numberedSetting numberedRequest).performed.errors = "" :=
  ⟨by decide +kernel,by decide +kernel,by decide +kernel⟩

lemma farewell_of_told {f : ResolveFault} {message : String} (hv : f.isValueFault = true)
    (h : f.told = .ok message) : (Refusal.target f).farewell = Refusal.reported message := by
  cases f with
  | raised g =>
    have hg : g.isValueFault = true := hv
    simp only [ResolveFault.told] at h
    cases ht : g.text with
    | error g' =>
      rw [ht] at h
      cases h
    | ok cs =>
      rw [ht] at h
      obtain rfl := Except.ok.inj h
      simp [Refusal.farewell,Refusal.ofRaised,hg,ht]
  | _ =>
    obtain rfl := Except.ok.inj h
    rfl

lemma farewell_of_untold {f : ResolveFault} {g : Fault} (hv : f.isValueFault = true)
    (h : f.told = .error g) : (Refusal.target f).farewell = Ending.ofFault g := by
  cases f with
  | raised g' =>
    have hg : g'.isValueFault = true := hv
    simp only [ResolveFault.told] at h
    cases ht : g'.text with
    | ok cs =>
      rw [ht] at h
      cases h
    | error g'' =>
      rw [ht] at h
      obtain rfl := Except.error.inj h
      simp [Refusal.farewell,Refusal.ofRaised,hg,ht]
  | _ => cases h

lemma farewell_of_passing {f : ResolveFault} (hv : f.isValueFault = false) :
    ∃ g, f = .raised g ∧ (Refusal.target f).farewell = Ending.ofFault g := by
  cases f with
  | raised g =>
    have hg : g.isValueFault = false := hv
    exact ⟨g,rfl,by simp [Refusal.farewell,Refusal.ofRaised,hg]⟩
  | _ => cases hv

/-- A test is called only if everything asked for was found: the plan was made, and every target of it
was resolved. -/
lemma resolved_of_begun {run : Run} (h : (Running.of s r).run = some run) :
    ∃ plan targets, Plan.of s r = .ok plan ∧ (Running.resolution s plan).result = .ok targets ∧
      targets.map Target.name = plan.specs ∧
      List.Forall₂ (fun a t => a.result.map Prod.fst = .ok t) (Running.of s r).attempts targets ∧
      run = Run.of (Running.files s r targets) (Running.bench s plan) targets := by
  obtain ⟨x,hx,-⟩ | ⟨config,plan,-,hp,-,-⟩ := Plan.of_cases s r
  · rw [Running.of_unplanned hx] at h
    cases h
  · cases ht : (Running.resolution s plan).result with
    | error fault =>
      rw [Running.of_unresolved hp ht] at h
      cases h
    | ok targets =>
      cases hl : (Running.log s r).result with
      | error fault =>
        rw [Running.of_unlogged hp ht hl] at h
        cases h
      | ok _ =>
        obtain ⟨hnames,hattempts⟩ := resolveAll_eq_ok ht
        refine ⟨plan,targets,hp,ht,hnames,?_,?_⟩
        · rw [Running.of_begun hp ht hl]
          exact hattempts
        · rw [Running.of_begun hp ht hl] at h
          exact (Option.some.inj h).symm

/-- Everything is looked for before anything is run. The first thing that is not found ends the request,
with its message if it has one: the targets behind one that is not resolved are not attempted, and no
file is touched. And if a test is called, everything was found. -/
theorem prepared_before_run (s : Setting) (r : RunRequest) :
    (∀ name, r.config = some name → s.tree.exists? s.directory (Path.ofText name) = .ok false →
      Running.of s r = .refused s ("config file not found: " ++ name) []) ∧
    (∀ name g, r.config = some name → s.tree.exists? s.directory (Path.ofText name) = .error g →
      Running.of s r = .dismissed s ⟨.escaped (.ofFile g),"",""⟩ []) ∧
    (∀ name f, r.config = some name → s.tree.exists? s.directory (Path.ofText name) = .ok true →
      loaded s name = .error f → f.isReported = true →
      ∃ message, f.message? = some message ∧ Running.of s r = .refused s message []) ∧
    (∀ config, Plan.configOf s r.config = .ok config → Plan.specsOf r config = [] →
      Running.of s r = .refused s "no tests given (pass targets or --config)" []) ∧
    (∀ plan f, Plan.of s r = .ok plan → (Running.resolution s plan).result = .error f →
      ∃ front bad behind targets, plan.specs = front ++ bad :: behind ∧
        (resolveAll s.tree plan.directories front ⟨[],[]⟩).result = .ok targets ∧
        let done := resolveAll s.tree plan.directories front ⟨[],[]⟩
        let attempt := resolve s.tree plan.directories bad done.imports
        let attempts := done.attempts ++ [attempt]
        attempt.result = .error f ∧
        (f.isValueFault = true → ∀ message, f.told = .ok message →
          Running.of s r = .refused s message attempts) ∧
        (f.isValueFault = true → ∀ g, f.told = .error g →
          Running.of s r = .dismissed s (Ending.ofFault g) attempts) ∧
        (f.isValueFault = false →
          ∃ g, f = .raised g ∧ Running.of s r = .dismissed s (Ending.ofFault g) attempts)) ∧
    ∀ run, (Running.of s r).run = some run →
      ∃ plan targets, Plan.of s r = .ok plan ∧ (Running.resolution s plan).result = .ok targets ∧
        targets.map Target.name = plan.specs ∧
        List.Forall₂ (fun a t => a.result.map Prod.fst = .ok t) (Running.of s r).attempts targets ∧
        run = Run.of (Running.files s r targets) (Running.bench s plan) targets := by
  refine ⟨fun name hname h => of_missing hname h,fun name g hname h => of_unasked hname h,
    fun name f hname h hl hf => of_misconfigured hname h hl hf,
    fun config hc hs => ?_,fun plan f hp hr => ?_,fun run h => resolved_of_begun h⟩
  · rw [Running.of_unplanned (Plan.of_testless hc hs)]
    rfl
  · obtain ⟨front,bad,behind,targets,hspecs,hfront,hbad,hattempts⟩ := resolveAll_splits hr
    have hof : Running.of s r =
        .dismissed s (Refusal.target f).farewell (Running.resolution s plan).attempts :=
      Running.of_unresolved hp hr
    rw [Running.resolution,hattempts] at hof
    refine ⟨front,bad,behind,targets,hspecs,hfront,hbad,?_,?_,?_⟩
    · intro hv message h
      rw [hof,farewell_of_told hv h]
      rfl
    · intro hv g h
      rw [hof,farewell_of_untold hv h]
    · intro hv
      obtain ⟨g,rfl,hg⟩ := farewell_of_passing hv
      exact ⟨g,rfl,by rw [hof,hg]⟩

/-- A module whose import raises a fault about a value that cannot be shown: showing it raises another
one, and showing what that one is about asks for success. -/
def hidingModule : Script :=
  let quits : Value := .object (.raises ⟨"SystemExit",[.int 0]⟩) none (.gives true)
  let hides : Value := .object (.raises ⟨"ValueError",[quits]⟩) none (.gives true)
  ⟨none,false,[],[],some ⟨"ValueError",[hides]⟩⟩

def hidingSetting : Setting :=
  ⟨FileTree.empty.plant ["w","m.py"] ⟨[],some hidingModule⟩,["w"],⟨[]⟩,⟨[]⟩⟩

def hidingRequest : RunRequest := ⟨["m:t"],none,["."],standardLogFile,false,false⟩

/-- A target is not resolved for a fault about a value, and the request ends with success and says
nothing of it. -/
theorem succeeds_though_unresolved :
    ((Running.of hidingSetting hidingRequest).attempts.map fun a =>
      match a.result with
      | .error f => f.isValueFault
      | .ok _ => false) = [true] ∧
    (Running.of hidingSetting hidingRequest).performed.ending = .exit 0 ∧
    (Running.of hidingSetting hidingRequest).performed.errors = "" :=
  ⟨by decide +kernel,by decide +kernel,by decide +kernel⟩

end CommandLine
end TestBench
