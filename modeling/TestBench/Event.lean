import TestBench.Text.ControlSequence

/-! What a test bench puts out, as a list of events, and what streams and logs make of them. A line
on a terminal is red; anywhere else it loses every control sequence. What the two get differs by the
control sequences alone. -/
namespace TestBench

/-- A place that text is written to. -/
inductive Stream
  | main
  | other
  | output
  | errors
  deriving DecidableEq, Repr

/-- How much a log record matters. -/
inductive Level
  | debug
  | info
  | warning
  | error
  | critical
  deriving DecidableEq, Repr

def Level.name : Level → String
  | .debug => "DEBUG"
  | .info => "INFO"
  | .warning => "WARNING"
  | .error => "ERROR"
  | .critical => "CRITICAL"

def Level.rank : Level → Nat
  | .debug => 10
  | .info => 20
  | .warning => 30
  | .error => 40
  | .critical => 50

/-- A record of a log: a level, a text, and the kind of the fault that it tells of, if any. -/
structure LogRecord where
  level : Level
  message : String
  fault : Option String
  deriving DecidableEq, Repr

/-- The line of a log file for a record. The time is always the same, and a fault is told by a
trace under its record. -/
def LogRecord.line (r : LogRecord) : String :=
  "[1970-01-01T00:00:00] " ++ r.level.name ++ " " ++ r.message ++
    (match r.fault with
      | none => "\n"
      | some _ => (if r.message.endsWith "\n" then "" else "\n") ++ "<traceback>\n")

/-- Something that a bench or a test puts out: a diagnostic line, an empty line, a line of its
ordinary output, or a log record. -/
inductive Event
  | line (stream : Stream) (text : String)
  | blank (stream : Stream)
  | printed (text : String)
  | logged (record : LogRecord)
  deriving DecidableEq, Repr

namespace Event

/-- A diagnostic line as a stream gets it. -/
def lineText (terminal : Bool) (text : String) : String :=
  (if terminal then Text.styled text else Text.strip (Text.styled text)) ++ "\n"

/-- What an event writes to a stream. -/
def textOn (terminal : Bool) (stream : Stream) : Event → String
  | .line s text => if s = stream then lineText terminal text else ""
  | .blank s => if s = stream then "\n" else ""
  | .printed text => if stream = .output then text ++ "\n" else ""
  | .logged _ => ""

def record? : Event → Option LogRecord
  | .logged r => some r
  | _ => none

end Event

/-- What events write to a stream. -/
def textOn (terminal : Bool) (stream : Stream) (events : List Event) : String :=
  String.join (events.map (Event.textOn terminal stream))

@[simp] theorem textOn_nil (terminal : Bool) (stream : Stream) : textOn terminal stream [] = "" :=
  rfl

@[simp] theorem textOn_cons (terminal : Bool) (stream : Stream) (e : Event) (es : List Event) :
    textOn terminal stream (e :: es) = e.textOn terminal stream ++ textOn terminal stream es := by
  simp [textOn]

@[simp] theorem textOn_append (terminal : Bool) (stream : Stream) (es fs : List Event) :
    textOn terminal stream (es ++ fs) =
      textOn terminal stream es ++ textOn terminal stream fs := by
  simp [textOn]

def recordsOf (events : List Event) : List LogRecord := events.filterMap Event.record?

@[simp] theorem recordsOf_append (es fs : List Event) :
    recordsOf (es ++ fs) = recordsOf es ++ recordsOf fs := by simp [recordsOf]

end TestBench
