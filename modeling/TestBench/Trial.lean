import TestBench.Double.Fixed
import TestBench.Target
import TestBench.Execution

/-! One test on the bench. A fault that a test lets out counts against it and is told, and the
host's toggle is put back however the test ends. A test passes exactly when nothing in it failed and
no ordinary fault left it, and the toggle after a trial is the one before. -/
namespace TestBench

/-- How long something took: as a clock measured it in seconds, in whole seconds, or in words. -/
inductive Duration
  | measured (seconds : Double)
  | whole (seconds : Int)
  | told (words : String)
  deriving DecidableEq, Repr

def Duration.shown : Duration → String
  | .measured x => String.ofList x.shown
  | .whole n => toString n
  | .told words => words

def Duration.value : Duration → Value
  | .measured x => .double x
  | .whole n => .int n
  | .told words => .text words

/-- What came of a test: its verdict, the ordinary fault that left it, and how long it took. -/
structure Outcome where
  name : String
  passed : Bool
  error : Option String
  duration : Duration
  deriving DecidableEq, Repr

/-- An outcome as a value. -/
def Outcome.asDict (o : Outcome) : Value :=
  .dict [(.text "name", .text o.name), (.text "passed", .bool o.passed),
    (.text "error", (o.error.map .text).getD .none), (.text "duration_seconds", o.duration.value)]

/-- The readings that a clock has still to give; the last one is given for ever. -/
structure Clock where
  readings : List Double

namespace Clock

/-- Read a clock. One without readings stands at nought. -/
def read (c : Clock) : Double × Clock :=
  match c.readings with
  | [] => (.zero false, c)
  | [x] => (x, c)
  | x :: xs => (x, ⟨xs⟩)

end Clock

/-- A bench: the host and the channel that every test gets, the modules, and a clock. -/
structure Bench where
  host : Host
  channel : Channel
  imports : Imports
  clock : Clock

/-- What comes of a trial. It has no outcome when a fault that is not ordinary left the test, or
when an ordinary one cannot be told. What the test put out itself and what the bench adds to that
are kept apart. -/
structure Trial where
  result : Except Fault Outcome
  bench : Bench
  records : List Record
  shown : List Event
  report : List Event

namespace Trial

def events (t : Trial) : List Event := t.shown ++ t.report

end Trial

namespace Bench

def scene (b : Bench) : Scene := ⟨b.host, .new b.channel, b.imports⟩

/-- The bench after a test, with the toggle as it was before. -/
def resume (b : Bench) (s : Scene) (clock : Clock) : Bench :=
  { b with host := { s.host with reports := b.host.reports }, imports := s.imports, clock }

/-- What is told of a fault that left a test: a record of it, and two lines that are not logged.
Making up the record, with the trace of the fault that goes with it, is taken never to fail. -/
def faultReport (b : Bench) (name kind line : String) : List Event :=
  .logged ⟨.error, "Test '" ++ name ++ "' raised", some kind⟩ ::
    (b.channel.blank ++ b.channel.write ("test raised an exception:  " ++ line))

def verdictRecord (name : String) (passed : Bool) (duration : Double) : LogRecord :=
  ⟨.debug, "Test '" ++ name ++ (if passed then "' passed in " else "' failed in ")
    ++ String.ofList (duration.fixed 3) ++ "s", none⟩

def conclude (b : Bench) (name : String) (start : Double) (clock : Clock) (p : Progress)
    (error : Option String) (report : List Event) : Trial :=
  let (stop, clock) := clock.read
  let duration := stop.sub start
  let passed := !p.scene.context.failed && error.isNone
  ⟨.ok ⟨name, passed, error, .measured duration⟩, b.resume p.scene clock, p.records, p.events,
    report ++ [.logged (verdictRecord name passed duration)]⟩

/-- The trial of a test that ended without a verdict. -/
def abandon (b : Bench) (clock : Clock) (p : Progress) (f : Fault) : Trial :=
  ⟨.error f, b.resume p.scene clock, p.records, p.events, []⟩

def runTest (tree : FileTree) (b : Bench) (target : Target) : Trial :=
  let (start, clock) := b.clock.read
  let p := target.callable.run tree b.scene
  match p.fault with
  | none => b.conclude target.name start clock p none []
  | some f =>
    if f.ordinary then
      match f.line with
      | .ok line =>
        b.conclude target.name start clock p (some line) (b.faultReport target.name f.kind line)
      | .error g => b.abandon clock p g
    else b.abandon clock p f

end Bench
end TestBench
