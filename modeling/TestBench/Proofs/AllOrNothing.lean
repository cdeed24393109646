import TestBench.Proofs.Output
import TestBench.Proofs.Value.Asking

/-! Assertions as a whole. One ends with a yes and changes nothing, or with a no that it tells of, or with a
fault that a value raised; only a value that is shown can raise one after the context was marked. -/
namespace TestBench

/-- Something asserted: that a condition is true, that a value equals another one or itself, or that a
place is never reached. -/
inductive Assertion
  | isTrue (condition : Value) (message : String)
  | areEqual (left : Value) (right : Option Value) (message : String)
  | isUnreachable (message : String)

/-- A channel got this text on its stream and these records in its log; no other stream got any. -/
def Channel.Got (c : Channel) (text : Bool → String) (records : List LogRecord)
    (events : List Event) : Prop :=
  (∀ terminal stream,
    textOn terminal stream events = if stream = c.stream then text terminal else "") ∧
  recordsOf events = records

lemma Channel.got_blank (c : Channel) : c.Got (fun _ => "\n") [] c.blank := by
  refine ⟨fun terminal stream => ?_,rfl⟩
  simp [Channel.blank,Event.textOn,eq_comm]

lemma Channel.got_failure (c : Channel) (text : String) :
    c.Got (fun terminal => "\n" ++ Event.lineText terminal text)
      (if c.logs then [⟨.error,text,none⟩] else []) (c.blank ++ c.error text) := by
  refine ⟨fun terminal stream => ?_,?_⟩
  · have hrest : textOn terminal stream
        (if c.logs = true then [Event.logged ⟨.error,text,none⟩] else []) = "" := by
      cases c.logs <;> simp [Event.textOn]
    rw [textOn_append,Channel.blank,Channel.error,textOn_cons,textOn_cons,textOn_nil,hrest]
    by_cases hs : stream = c.stream
    · simp [Event.textOn,hs]
    · simp [Event.textOn,hs,Ne.symm hs]
  · rw [Channel.error]
    cases c.logs <;> rfl

namespace Assertion

def action : Assertion → Action
  | .isTrue condition message => .assertTrue condition message
  | .areEqual left right message => .assertEqual left right message
  | .isUnreachable message => .assertFail message

/-- Does it hold what is asserted? Finding out may fail. -/
def found : Assertion → Except Fault Bool
  | .isTrue condition _ => condition.truth
  | .areEqual left right _ => Context.holds left right
  | .isUnreachable _ => .ok false

/-- The text that tells of the assertion when it fails, if it can be made up. -/
def text : Assertion → Except Fault String
  | .isTrue _ message => .ok (Context.conditionText message)
  | .areEqual left right message => Context.inequalityText left (right.getD left) message
  | .isUnreachable message => .ok (Context.reachedText message)

/-- A failed assertion is told by its message, if it has one, and by the two sides of an equation. -/
inductive Tells : Assertion → String → Prop
  | condition {c} : Tells (.isTrue c "") "assertion failed."
  | conditionWith {c message} (h : message ≠ "") :
    Tells (.isTrue c message) ("assertion failed:  " ++ message)
  | sides {left right l r} (hl : left.rendered = .ok l) (hr : (right.getD left).rendered = .ok r) :
    Tells (.areEqual left right "") ("assertion failed:  (left == right)\n  left: " ++
      String.ofList l ++ "\n right: " ++ String.ofList r)
  | sidesWith {left right l r message} (h : message ≠ "") (hl : left.rendered = .ok l)
    (hr : (right.getD left).rendered = .ok r) :
    Tells (.areEqual left right message) ("assertion failed:  " ++ message ++ "\n  left: " ++
      String.ofList l ++ "\n right: " ++ String.ofList r)
  | reached : Tells (.isUnreachable "") "Test execution should have failed"
  | reachedWith {message} (h : message ≠ "") :
    Tells (.isUnreachable message) ("Test execution should have failed: " ++ message)

/-- A value fails with this fault when it is asked whether the assertion holds: for its truth, or for
its equality. -/
inductive Refuses : Assertion → Fault → Prop
  | truth {shown equals message f} : Refuses (.isTrue (.object shown equals (.raises f)) message) f
  | equality {left right message f} (h : Value.BalksIn left (right.getD left) f) :
    Refuses (.areEqual left right message) f

/-- A side of an equation fails with this fault when it is shown, the left one first. -/
inductive Unshown : Assertion → Fault → Prop
  | left {left right message v f} (h : left.rendered = .error f) (hv : Value.Within v left)
    (hf : v.Hides f) : Unshown (.areEqual left right message) f
  | right {left right message l v f} (hl : left.rendered = .ok l)
    (h : (right.getD left).rendered = .error f) (hv : Value.Within v (right.getD left))
    (hf : v.Hides f) : Unshown (.areEqual left right message) f

variable {a : Assertion} {f : Fault}

lemma refuses_of_found (h : a.found = .error f) : a.Refuses f := by
  cases a with
  | isTrue condition message =>
    obtain ⟨shown,equals,rfl⟩ := Value.truth_eq_error.mp h
    exact .truth
  | areEqual left right message =>
    refine .equality ?_
    cases right with
    | none => exact ⟨left,.inl (.self left),Value.balks_of_equalSelf h⟩
    | some right => exact Value.balksIn_of_equal h
  | isUnreachable message => contradiction

lemma inequalityText_of_ok {left right : Value} {l r : List Char} (message : String)
    (hl : left.rendered = .ok l) (hr : right.rendered = .ok r) :
    Context.inequalityText left right message = .ok ("assertion failed:  " ++
      (if message = "" then "(left == right)" else message) ++ "\n  left: " ++ String.ofList l ++
      "\n right: " ++ String.ofList r) := by
  rw [Context.inequalityText,hl,hr]
  rfl

lemma tells_or_unshown (a : Assertion) :
    (∃ text, a.text = .ok text ∧ a.Tells text) ∨ ∃ f, a.text = .error f ∧ a.Unshown f := by
  cases a with
  | isTrue condition message =>
    refine .inl ⟨_,rfl,?_⟩
    by_cases hm : message = ""
    · subst hm
      exact .condition
    · rw [Context.conditionText,if_neg hm]
      exact .conditionWith hm
  | areEqual left right message =>
    cases hl : left.rendered with
    | error f =>
      obtain ⟨v,hv,hf⟩ := Value.hides_of_rendered hl
      refine .inr ⟨f,?_,.left hl hv hf⟩
      rw [text,Context.inequalityText,hl]
      rfl
    | ok l =>
      cases hr : (right.getD left).rendered with
      | error f =>
        obtain ⟨v,hv,hf⟩ := Value.hides_of_rendered hr
        refine .inr ⟨f,?_,.right hl hr hv hf⟩
        rw [text,Context.inequalityText,hl,hr]
        rfl
      | ok r =>
        refine .inl ⟨_,inequalityText_of_ok message hl hr,?_⟩
        by_cases hm : message = ""
        · subst hm
          exact .sides hl hr
        · rw [if_neg hm]
          exact .sidesWith hm hl hr
  | isUnreachable message =>
    refine .inl ⟨_,rfl,?_⟩
    by_cases hm : message = ""
    · subst hm
      exact .reached
    · rw [Context.reachedText,if_neg hm]
      exact .reachedWith hm

lemma action_run (a : Assertion) (tree : FileTree) (s : Scene) :
    a.action.run tree s = (s.context.decided a.found a.text).done s := by
  cases a <;> rfl

end Assertion

/-- The scene with its context marked as failed. -/
def Scene.marked (s : Scene) : Scene := { s with context := { s.context with failed := true } }

/-- An assertion ends in one of three ways. It answers yes, and nothing has changed. It answers no: its
context is marked, and its channel got an empty line and the one text for it, which is logged if the
channel logs. Or a value raised a fault: either when it was asked whether the assertion holds, and nothing
has changed; or when it was shown, and the context is marked and its channel got the empty line alone. The
host keeps its toggle and what it counted, whatever they are. -/
theorem assertion_all_or_nothing (tree : FileTree) (s : Scene) (a : Assertion) :
    let done := a.action.run tree s
    let channel := s.context.channel
    done.scene.host = s.host ∧
    ((done.result = .ok (.verdict true) ∧ a.found = .ok true ∧ done.scene = s ∧ done.events = []) ∨
    (done.result = .ok (.verdict false) ∧ a.found = .ok false ∧ done.scene = s.marked ∧
      ∃ text, a.Tells text ∧ channel.Got (fun terminal => "\n" ++ Event.lineText terminal text)
        (if channel.logs then [⟨.error,text,none⟩] else []) done.events) ∨
    ∃ f, done.result = .error f ∧
      ((a.found = .error f ∧ a.Refuses f ∧ done.scene = s ∧ done.events = []) ∨
      (a.found = .ok false ∧ a.Unshown f ∧ done.scene = s.marked ∧
        channel.Got (fun _ => "\n") [] done.events))) := by
  intro done channel
  have hdone : done = (s.context.decided a.found a.text).done s := a.action_run tree s
  clear_value done
  subst hdone
  refine ⟨rfl,?_⟩
  cases hfound : a.found with
  | error f => exact .inr (.inr ⟨f,rfl,.inl ⟨rfl,a.refuses_of_found hfound,rfl,rfl⟩⟩)
  | ok holds =>
    cases holds with
    | true => exact .inl ⟨rfl,rfl,rfl,rfl⟩
    | false =>
      obtain ⟨text,htext,htells⟩ | ⟨f,htext,hunshown⟩ := a.tells_or_unshown
      · rw [htext]
        exact .inr (.inl ⟨rfl,rfl,rfl,text,htells,channel.got_failure text⟩)
      · rw [htext]
        exact .inr (.inr ⟨f,rfl,.inr ⟨rfl,hunshown,rfl,channel.got_blank⟩⟩)

end TestBench
