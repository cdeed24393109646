import TestBench.Logger.Basic

/-! Setting up a logger of its own for a run: it writes every record to a file, and to standard
error too if asked. A logger that writes somewhere already is refused and nothing is changed; one
whose file cannot be opened writes nowhere. -/
namespace TestBench

inductive SetUpFault
  | taken (name : String)
  | file (f : FileFault)
  deriving DecidableEq, Repr

def SetUpFault.kind : SetUpFault → String
  | .taken _ => "RuntimeError"
  | .file f => f.kind

/-- What is wrong, in words, where there are words for it. -/
def SetUpFault.message? : SetUpFault → Option String
  | .taken name => some ("Logger '" ++ name ++ "' already exists with handlers attached; "
      ++ "use a unique logger name per run")
  | .file f => f.message?

structure SetUp where
  result : Except SetUpFault Unit
  loggers : Loggers
  tree : FileTree

namespace SetUp

/-- A logger that takes every record and keeps it to itself. -/
def claimed (l : Logger) : Logger :=
  { l with disabled := false, level := some .debug, propagates := false }

def attached (sinks : List Sink) (l : Logger) : Logger := { l with sinks := l.sinks ++ sinks }

/-- Make the directories of a log file, and the file itself if it is not there. The directories
are made along the path as it is written; the file is the one that the path means by its text. -/
def openLog (tree : FileTree) (dir : List String) (file : String) :
    Except FileFault (List String) × FileTree :=
  let path := Path.ofText file
  match tree.ensure dir path.parent with
  | (.error f, tree) => (.error f, tree)
  | (.ok (), tree) =>
    match tree.openAt dir (Path.resolve (Path.ofWay dir) path) with
    | .error f => (.error f, tree)
    | .ok (way, some _) => (.ok way, tree)
    | .ok (way, none) => (.ok way, tree.put way (.file .empty))

/-- The places of a logger that writes to a file, and to standard error if it is verbose. -/
def sinks (verbose : Bool) (way : List String) : List Sink :=
  .file way :: if verbose then [.errors] else []

def run (ls : Loggers) (tree : FileTree) (dir : List String) (file : String) (verbose : Bool)
    (name : String) : SetUp :=
  let ls := ls.obtain name
  if ((ls.get? name).map Logger.sinks).getD [] ≠ [] then ⟨.error (.taken name), ls, tree⟩
  else
    let ls := ls.update name claimed
    match openLog tree dir file with
    | (.error f, tree) => ⟨.error (.file f), ls, tree⟩
    | (.ok way, tree) => ⟨.ok (), ls.update name (attached (sinks verbose way)), tree⟩

end SetUp
end TestBench
