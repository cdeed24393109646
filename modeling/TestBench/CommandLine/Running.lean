import TestBench.CommandLine.Command
import TestBench.CommandLine.Ending
import TestBench.Run

/-! The command that runs tests. All targets are resolved before the first test begins, and what
stands in the way of a run is reported before anything is written.

Left out is what a process has before the command is carried out: no module is known yet, nothing is
on the search path, and no logger has been set up. -/
namespace TestBench.CommandLine

/-- Where a command is carried out: the files, the working directory, the environment, and the
clock. -/
structure Setting where
  tree : FileTree
  directory : List String
  environment : Environment
  clock : Clock

/-- What comes of a command, and the clock afterwards. -/
structure Performed where
  ending : Ending
  tree : FileTree
  clock : Clock
  output : String
  errors : String

/-- Why a run does not begin. -/
inductive Refusal
  | noConfig (name : String)
  | config (f : LoadFault)
  | noTests
  | searchPath (f : FileFault)
  | target (f : ResolveFault)
  | log (f : SetUpFault)

/-- A line of the program's own. It shows no control sequences. -/
def lineOf (text : String) : String := Text.strip text ++ "\n"

namespace Refusal

def reported (text : String) : Farewell := ⟨.exit 1, "", lineOf ("Error: " ++ text)⟩

/-- A fault that no message of ours tells of. It is reported if it is about a value. -/
def ofRaised (f : Fault) : Farewell :=
  if f.isValueFault then
    match f.text with
    | .ok cs => reported (String.ofList cs)
    | .error g => Ending.ofFault g
  else Ending.ofFault f

/-- The configuration is wrong. It is reported unless the fault is of another kind. -/
def ofLoad (f : LoadFault) : Farewell :=
  if f.isReported then reported (f.message?.getD "") else ⟨.escaped (.ofLoad f), "", ""⟩

def farewell : Refusal → Farewell
  | .noConfig name => reported ("config file not found: " ++ name)
  | .config f => ofLoad f
  | .noTests => reported "no tests given (pass targets or --config)"
  | .searchPath f => ⟨.escaped (.ofFile f), "", ""⟩
  | .target (.raised f) => ofRaised f
  | .target f => reported f.message
  | .log f => ⟨.escaped (.ofSetUp f), "", ""⟩

end Refusal

/-- What is to be run: the targets, the directories to find them in, and whether the host reports
its errors. -/
structure Plan where
  specs : List String
  directories : List String
  reports : Bool
  deriving DecidableEq, Repr

namespace Plan

/-- The configuration of a request, if it names one. -/
def configOf (s : Setting) : Option String → Except Refusal (Option Config)
  | none => .ok none
  | some name =>
    let path := Path.ofText name
    match s.tree.exists? s.directory path with
    | .error f => .error (.config (.file f))
    | .ok false => .error (.noConfig name)
    | .ok true =>
      match (Config.load s.tree s.directory path s.environment).1 with
      | .error f => .error (.config f)
      | .ok config => .ok (some config)

/-- A search path of the arguments, seen from the working directory. -/
def directoryOf (s : Setting) (text : String) : Except Refusal String :=
  let path := Path.ofText text
  if path.hasNul then .error (.searchPath .embeddedNul)
  else .ok (Path.resolve (Path.ofWay s.directory) path).text

/-- The targets to run: those of the arguments, or else those of the configuration. -/
def specsOf (r : RunRequest) (config : Option Config) : List String :=
  if r.targets.isEmpty then (config.map Config.tests).getD [] else r.targets

def of (s : Setting) (r : RunRequest) : Except Refusal Plan := do
  let config ← configOf s r.config
  let specs := specsOf r config
  if specs.isEmpty then throw .noTests
  let directories ← r.searchPaths.mapM (directoryOf s)
  return ⟨specs, directories ++ (config.map Config.searchPaths).getD [],
    !r.silent && (config.map Config.reports).getD true⟩

end Plan

/-- A run that a command carries out: what comes of it, the targets that it tried to resolve, and
the run of the tests if it got that far. -/
structure Running where
  performed : Performed
  attempts : List Resolved
  run : Option Run

namespace Running

def loggerName : String := "hostcheck_main"

/-- The channel of a run: standard error, with a log. -/
def channel : Channel := ⟨.errors, true⟩

/-- An event that has taken place: what it shows on standard error, or writes to a log. -/
def take (ls : Loggers) (w : Written) (e : Event) : Written :=
  match e with
  | .logged r => w.log ls loggerName r
  | e => { w with errors := w.errors ++ e.textOn false .errors }

def closing (r : RunRequest) (s : Summary) : String :=
  (if s.interrupted then lineOf "Run interrupted." else "")
    ++ lineOf (toString s.passedCount ++ " passed, " ++ toString s.failedCount ++ " failed")
    ++ (if r.verbose then "" else lineOf ("Debug log: " ++ r.logFile))

def refuse (refusal : Refusal) (tree : FileTree) (clock : Clock) (attempts : List Resolved) :
    Running :=
  let farewell := refusal.farewell
  ⟨⟨farewell.ending, tree, clock, farewell.output, farewell.errors⟩, attempts, none⟩

def conclude (r : RunRequest) (ls : Loggers) (tree : FileTree) (run : Run) : Performed :=
  let written := run.events.foldl (take ls) ⟨tree, ""⟩
  let output := textOn false .output run.events
  match run.result with
  | .error f =>
    let farewell := Ending.ofFault f
    ⟨farewell.ending, written.tree, run.bench.clock, output ++ farewell.output,
      written.errors ++ farewell.errors⟩
  | .ok summary =>
    ⟨.exit (if summary.allPassed then 0 else 1), written.tree, run.bench.clock,
      output ++ closing r summary, written.errors⟩

/-- The files that a test may import: the log has the opening of the run by then. -/
def filesOf (ls : Loggers) (tree : FileTree) (total : Nat) : FileTree :=
  ((Run.opening total).foldl (take ls) ⟨tree, ""⟩).tree

/-- Run targets that have been resolved, once the log is set up. -/
def begin (s : Setting) (r : RunRequest) (plan : Plan) (targets : List Target) (imports : Imports)
    (attempts : List Resolved) : Running :=
  let log := SetUp.run .initial s.tree s.directory r.logFile r.verbose loggerName
  match log.result with
  | .error f => refuse (.log f) log.tree s.clock attempts
  | .ok () =>
    let host := Host.new channel (.bool plan.reports)
    let tree := filesOf log.loggers log.tree targets.length
    let run := Run.of tree ⟨host, channel, imports, s.clock⟩ targets
    ⟨conclude r log.loggers log.tree run, attempts, some run⟩

def of (s : Setting) (r : RunRequest) : Running :=
  match Plan.of s r with
  | .error refusal => refuse refusal s.tree s.clock []
  | .ok plan =>
    let resolution := resolveAll s.tree plan.directories plan.specs ⟨[], []⟩
    match resolution.result with
    | .error f => refuse (.target f) s.tree s.clock resolution.attempts
    | .ok targets => begin s r plan targets resolution.imports resolution.attempts

end Running
end TestBench.CommandLine
