import TestBench.Value.Basic
import TestBench.Double.Shortest
import TestBench.Text.Quoted

/-! Values written out. Text and bytes are quoted, numbers stand in the fewest digits, and the
brackets tell the containers apart; an object is written as it says itself. -/
namespace TestBench

def separated : List (List Char) → List Char
  | [] => []
  | [p] => p
  | p :: ps => p ++ ',' :: ' ' :: separated ps

/-- A difference of times in seconds, as days and seconds. -/
def spanText (seconds : Int) : List Char :=
  let days := Int.fdiv seconds 86400
  let rest := Int.fmod seconds 86400
  let parts := (if days = 0 then [] else [("days=" ++ toString days).toList]) ++
    (if rest = 0 then [] else [("seconds=" ++ toString rest).toList])
  "datetime.timedelta(".toList ++ (if parts.isEmpty then ['0'] else separated parts) ++ [')']

def zoneText (seconds : Int) : List Char :=
  if seconds = 0 then "datetime.timezone.utc".toList
  else "datetime.timezone(".toList ++ spanText seconds ++ [')']

/-- A moment, without seconds that are nought all the way down. -/
def Moment.shown (t : Moment) : List Char :=
  let numbers := [t.date.year, t.date.month, t.date.day, t.hour, t.minute] ++
    (if t.second = 0 ∧ t.microsecond = 0 then [] else [t.second]) ++
    (if t.microsecond = 0 then [] else [t.microsecond])
  let parts := numbers.map (Nat.toDigits 10) ++
    (match t.offset with
      | none => []
      | some s => ["tzinfo=".toList ++ zoneText s])
  "datetime.datetime(".toList ++ separated parts ++ [')']

def Date.shown (d : Date) : List Char :=
  "datetime.date(".toList ++ separated ([d.year, d.month, d.day].map (Nat.toDigits 10)) ++ [')']

namespace Value

def intText (n : Int) : List Char := Double.signText (n < 0) ++ Nat.toDigits 10 n.natAbs

/-- An integer is not written with more digits than these. -/
def digitLimit : Nat := 4300

def tooManyDigits : Fault := ⟨"ValueError", [.text ("Exceeds the limit (" ++ toString digitLimit
  ++ " digits) for integer string conversion; use sys.set_int_max_str_digits() to increase the "
  ++ "limit")]⟩

/-- An integer written out, if it is not too large. -/
def intRendered (n : Int) : Except Fault (List Char) :=
  if n.natAbs < Nat.pow 10 digitLimit then .ok (intText n) else .error tooManyDigits

/-- What stands for a container inside itself. -/
def cycleText : Shape → List Char
  | .list => "[...]".toList
  | .tuple => "(...)".toList
  | .dict => "\x7b...\x7d".toList
  | .set => "set(...)".toList

mutual

/-- A value written out; the first object that cannot say what it looks like ends it. -/
def rendered : Value → Except Fault (List Char)
  | .none => .ok "None".toList
  | .bool true => .ok "True".toList
  | .bool false => .ok "False".toList
  | .int n => intRendered n
  | .double x => .ok x.shown
  | .text s => .ok (Text.quoted s.toList)
  | .bytes bs => .ok (Text.quotedBytes bs)
  | .list xs => (allRendered xs).map fun ps => '[' :: separated ps ++ [']']
  | .tuple xs => (allRendered xs).map fun ps =>
      match ps with
      | [p] => '(' :: p ++ [',', ')']
      | ps => '(' :: separated ps ++ [')']
  | .set xs => (allRendered xs).map fun ps =>
      if ps.isEmpty then "set()".toList else '{' :: separated ps ++ ['}']
  | .frozenSet xs => (allRendered xs).map fun ps =>
      if ps.isEmpty then "frozenset()".toList
      else "frozenset(\x7b".toList ++ separated ps ++ ['}', ')']
  | .dict es => (entriesRendered es).map fun ps => '{' :: separated ps ++ ['}']
  | .date d => .ok d.shown
  | .moment t => .ok t.shown
  | .cycle shape => .ok (cycleText shape)
  | .object shown _ _ => shown.toExcept.map String.toList
termination_by structural v => v

def allRendered : List Value → Except Fault (List (List Char))
  | [] => .ok []
  | x :: xs =>
    match rendered x with
    | .error f => .error f
    | .ok p => (allRendered xs).map (p :: ·)
termination_by structural xs => xs

def entriesRendered : List (Value × Value) → Except Fault (List (List Char))
  | [] => .ok []
  | (k, v) :: es =>
    match rendered k with
    | .error f => .error f
    | .ok p =>
      match rendered v with
      | .error f => .error f
      | .ok q => (entriesRendered es).map ((p ++ ':' :: ' ' :: q) :: ·)
termination_by structural es => es

end

/-- A value as a text of its own: a text stands for itself, anything else is written out. -/
def plainText : Value → Except Fault (List Char)
  | .text s => .ok s.toList
  | v => v.rendered

end Value
end TestBench
