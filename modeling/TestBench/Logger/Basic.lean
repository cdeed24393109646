import TestBench.Event
import TestBench.FileTree

/-! Loggers. They form a tree by their dotted names, below a root that is always there; a record
goes to the places of its logger and of those above it, up to one that keeps its records to itself.
Obtaining a logger leaves the places of every other one alone, and the loggers above one have ever
shorter names, so the way up ends. -/
namespace TestBench

/-- A place that a logger writes to: a file, by its way, or standard error. -/
inductive Sink
  | file (way : List String)
  | errors
  deriving DecidableEq, Repr

/-- A logger. Without a level of its own it takes that of the next one above it that has one. -/
structure Logger where
  name : String
  parent : Option String
  level : Option Level
  propagates : Bool
  disabled : Bool
  sinks : List Sink
  deriving DecidableEq, Repr

namespace Logger

def rootName : String := "root"

def root : Logger := ⟨rootName, none, some .warning, true, false, []⟩

def fresh (name parent : String) : Logger := ⟨name, some parent, none, true, false, []⟩

/-- The places of the dots in a text, the last one first. -/
def dots (cs : List Char) : List Nat :=
  ((List.range cs.length).filter fun i => cs[i]? = some '.').reverse

/-- Those of some descending numbers that are above nought and not next to the one kept before. -/
def spaced : Option Nat → List Nat → List Nat
  | _, [] => []
  | last, i :: is =>
    let close := match last with
      | some j => decide (j < i + 2)
      | none => false
    if i == 0 || close then spaced last is else i :: spaced (some i) is

/-- The names that a logger of this name may stand below, the nearest first. -/
def above (name : String) : List String :=
  (spaced none (dots name.toList)).map fun i => String.ofList (name.toList.take i)

end Logger

structure Loggers where
  all : List Logger

namespace Loggers

def initial : Loggers := ⟨[.root]⟩

/-- The name under which a logger is kept. The root also goes without a name. -/
def key (name : String) : String := if name = "" then Logger.rootName else name

def get? (ls : Loggers) (name : String) : Option Logger := ls.all.find? fun l => l.name == key name

def has (ls : Loggers) (name : String) : Bool := (ls.get? name).isSome

def update (ls : Loggers) (name : String) (change : Logger → Logger) : Loggers :=
  ⟨ls.all.map fun l => if l.name == key name then change l else l⟩

/-- A logger with a new one put above it, if that is nearer than the one above it now. -/
def adopt (name : String) (l : Logger) : Logger :=
  if (Logger.above l.name).contains name && !(l.parent.getD "").startsWith name then
    { l with parent := some name }
  else l

/-- The loggers with one of this name among them. -/
def obtain (ls : Loggers) (name : String) : Loggers :=
  if ls.has name then ls
  else
    let parent := ((Logger.above name).find? ls.has).getD Logger.rootName
    ⟨ls.all.map (adopt name) ++ [.fresh name parent]⟩

/-- A logger and those above it, at most as many as the number given. -/
def chainUpTo (ls : Loggers) : Nat → String → List Logger
  | 0, _ => []
  | n + 1, name =>
    match ls.get? name with
    | none => []
    | some l =>
      match l.parent with
      | none => [l]
      | some parent => l :: chainUpTo ls n parent

def chain (ls : Loggers) (name : String) : List Logger := ls.chainUpTo (name.length + 2) name

/-- The level that counts for a logger. -/
def levelOf (ls : Loggers) (name : String) : Level :=
  ((ls.chain name).findSome? Logger.level).getD .debug

def isEnabled (ls : Loggers) (name : String) (level : Level) : Bool :=
  match ls.get? name with
  | some l => !l.disabled && (ls.levelOf name).rank ≤ level.rank
  | none => false

/-- The loggers that a record passes, up to the first that keeps its records to itself. -/
def passed : List Logger → List Logger
  | [] => []
  | l :: ls => if l.propagates then l :: passed ls else [l]

def sinksOf (ls : Loggers) (name : String) : List Sink :=
  (passed (ls.chain name)).flatMap Logger.sinks

end Loggers

/-- Files, and what has been written to standard error. -/
structure Written where
  tree : FileTree
  errors : String

namespace Written

def put (w : Written) (r : LogRecord) : Sink → Written
  | .file way => { w with tree := w.tree.log way r.line.toUTF8.toList }
  | .errors => { w with errors := w.errors ++ r.line }

/-- A record written to all the places of its logger. Without any, a record that matters enough
is shown by its bare text. -/
def log (w : Written) (ls : Loggers) (name : String) (r : LogRecord) : Written :=
  if ls.isEnabled name r.level then
    match ls.sinksOf name with
    | [] =>
      if Level.warning.rank ≤ r.level.rank then { w with errors := w.errors ++ r.message ++ "\n" }
      else w
    | sinks => sinks.foldl (fun w s => w.put r s) w
  else w

end Written
end TestBench
