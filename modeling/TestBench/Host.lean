import TestBench.Event
import TestBench.Value.Basic

/-! The host under test and the channels that diagnostics go to. The host prints its own errors
while it reports; otherwise it counts them. -/
namespace TestBench

/-- Where diagnostics go: a stream, and a log too if errors are logged. -/
structure Channel where
  stream : Stream
  logs : Bool
  deriving DecidableEq, Repr

namespace Channel

def blank (c : Channel) : List Event := [.blank c.stream]

/-- A diagnostic line that is not logged. -/
def write (c : Channel) (text : String) : List Event := [.line c.stream text]

/-- A diagnostic line that is logged as it was given, if the channel has a log. -/
def error (c : Channel) (text : String) : List Event :=
  .line c.stream text :: if c.logs then [.logged ⟨.error, text, none⟩] else []

/-- The channel of a host that was given none: standard error without a log. -/
def standard : Channel := ⟨.errors, false⟩

end Channel

/-- A host: its channel, whether it reports its errors, and how many it has kept to itself. The
toggle that a host begins with may be any value; its truth counts. -/
structure Host where
  channel : Channel
  reports : Value
  suppressed : Nat

namespace Host

def new (channel : Channel) (reports : Value) : Host := ⟨channel, reports, 0⟩

/-- The host that a process has without asking for one. -/
def shared : Host := new .standard (.bool true)

def withReports (h : Host) (b : Bool) : Host := { h with reports := .bool b }

/-- The host reports an error of its own, or counts it. -/
def pushError (h : Host) (text : String) : Except Fault Unit × Host × List Event :=
  match h.reports.truth with
  | .error f => (.error f, h, [])
  | .ok true => (.ok (), h, h.channel.error text)
  | .ok false => (.ok (), { h with suppressed := h.suppressed + 1 }, [])

@[simp] theorem pushError_channel (h : Host) (text : String) :
    (h.pushError text).2.1.channel = h.channel := by
  unfold pushError
  split <;> rfl

@[simp] theorem pushError_reports (h : Host) (text : String) :
    (h.pushError text).2.1.reports = h.reports := by
  unfold pushError
  split <;> rfl

end Host
end TestBench
