import TestBench.Host
import TestBench.Value.Equality
import TestBench.Value.Rendering

/-! Assertions. One that fails marks its context for good, tells of it on the context's channel and
answers no; it never stops a test. An assertion either changes nothing at all, or marks its context
and writes an empty line first. -/
namespace TestBench

/-- What a test asserts through: a channel, and whether an assertion has failed yet. -/
structure Context where
  channel : Channel
  failed : Bool
  deriving DecidableEq, Repr

def Context.state (c : Context) : String := if c.failed then "failed" else "passing"

/-- What comes of an assertion. -/
structure Asserted where
  result : Except Fault Bool
  context : Context
  events : List Event

namespace Context

/-- A context in which nothing has failed. -/
def new (channel : Channel) : Context := ⟨channel, false⟩

/-- An assertion that holds. -/
def pass (c : Context) : Asserted := ⟨.ok true, c, []⟩

/-- An assertion that cannot be decided. -/
def undecided (c : Context) (f : Fault) : Asserted := ⟨.error f, c, []⟩

/-- An assertion that fails. The text for it is made up after the empty line is written, and that
may go wrong. -/
def fail (c : Context) (text : Except Fault String) : Asserted :=
  match text with
  | .ok t => ⟨.ok false, { c with failed := true }, c.channel.blank ++ c.channel.error t⟩
  | .error f => ⟨.error f, { c with failed := true }, c.channel.blank⟩

def conditionText (message : String) : String :=
  if message = "" then "assertion failed." else "assertion failed:  " ++ message

def inequalityText (left right : Value) (message : String) : Except Fault String := do
  let headline := if message = "" then "(left == right)" else message
  let l ← left.rendered
  let r ← right.rendered
  return "assertion failed:  " ++ headline ++ "\n  left: " ++ String.ofList l ++
    "\n right: " ++ String.ofList r

def reachedText (message : String) : String :=
  if message = "" then "Test execution should have failed"
  else "Test execution should have failed: " ++ message

def assertTrue (c : Context) (condition : Value) (message : String) : Asserted :=
  match condition.truth with
  | .ok true => c.pass
  | .ok false => c.fail (.ok (conditionText message))
  | .error f => c.undecided f

/-- Are the two sides of an equation equal? Without a right side, the left one is on both. -/
def holds (left : Value) : Option Value → Except Fault Bool
  | some right => left.equal right
  | none => left.equalSelf

/-- Assert that two values are equal, or that one equals itself. -/
def assertEqual (c : Context) (left : Value) (right : Option Value) (message : String) :
    Asserted :=
  match holds left right with
  | .ok true => c.pass
  | .ok false => c.fail (inequalityText left (right.getD left) message)
  | .error f => c.undecided f

def assertFail (c : Context) (message : String) : Asserted := c.fail (.ok (reachedText message))

end Context
end TestBench
