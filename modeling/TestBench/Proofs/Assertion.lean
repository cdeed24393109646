import Mathlib.Tactic.Common
import TestBench.Assertion

/-! What an assertion makes of its context. It keeps the channel, and the context has failed afterwards
if it had before or if the condition was found false. -/
namespace TestBench

/-- What comes of an assertion whose condition was found true or false, or could not be decided: every
assertion with a condition is of this form. -/
def Context.decided (c : Context) (found : Except Fault Bool) (text : Except Fault String) :
    Asserted :=
  match found with
  | .ok true => c.pass
  | .ok false => c.fail text
  | .error f => c.undecided f

lemma fail_failed (c : Context) (text : Except Fault String) : (c.fail text).context.failed = true := by
  cases text <;> rfl

lemma decided_failed (c : Context) (found : Except Fault Bool) (text : Except Fault String) :
    (c.decided found text).context.failed = true ↔ c.failed = true ∨ found = .ok false := by
  cases found with
  | error f => simp [Context.decided,Context.undecided]
  | ok b => cases b <;> simp [Context.decided,Context.pass,fail_failed]

lemma decided_channel (c : Context) (found : Except Fault Bool) (text : Except Fault String) :
    (c.decided found text).context.channel = c.channel := by
  cases found with
  | error f => rfl
  | ok b =>
    cases b with
    | true => rfl
    | false => cases text <;> rfl

/-- What an assertion answers does not depend on the context. -/
lemma decided_result (c d : Context) (found : Except Fault Bool) (text : Except Fault String) :
    (c.decided found text).result = (d.decided found text).result := by
  cases found with
  | error f => rfl
  | ok b =>
    cases b with
    | true => rfl
    | false => cases text <;> rfl

end TestBench
