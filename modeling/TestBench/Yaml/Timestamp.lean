import TestBench.Value.Rendering
import TestBench.Yaml.Cursor

/-! Days and moments in YAML. A moment has a time of day behind its day, perhaps with a fraction of
a second, and perhaps with the offset of its zone. -/
namespace TestBench.Yaml

/-- The parts of a written day or moment, with the number of digits that month and day have. -/
structure Stamp where
  year : Nat
  month : Nat
  day : Nat
  isPadded : Bool
  time : Option (Nat × Nat × Nat)
  fraction : List Char
  offset : Option Int

namespace Stamp

def number (ds : List Char) : Nat := ds.foldl (fun n d => n * 10 + (d.toNat - '0'.toNat)) 0

/-- A number of exactly so many digits, and what is left behind them. -/
def exactly (count : Nat) (cs : List Char) : Option (Nat × List Char) :=
  let ds := cs.take count
  if ds.length = count ∧ ds.all Char.isDigit = true then some (number ds, cs.drop count) else none

/-- A number of one or two digits, how many they are, and what is left behind them. -/
def oneOrTwo (cs : List Char) : Option (Nat × Nat × List Char) :=
  match (cs.take 2).takeWhile Char.isDigit with
  | [] => none
  | ds => some (number ds, ds.length, cs.drop ds.length)

/-- What is left behind a character. -/
def behind (c : Char) : List Char → Option (List Char)
  | d :: cs => if c = d then some cs else none
  | [] => none

def isBlank (c : Char) : Bool := c == ' ' || c == '\t'

/-- What is left behind the mark between day and time: a letter, or blanks. -/
def betweenDayAndTime : List Char → Option (List Char)
  | c :: cs =>
    if c = 'T' ∨ c = 't' then some cs
    else if isBlank c then some (cs.dropWhile isBlank)
    else none
  | [] => none

/-- The offset of a zone in seconds: none given, that of the letter for the prime meridian, or
hours and perhaps minutes behind a sign. -/
def zone (cs : List Char) : Option (Option Int) :=
  match cs, cs.dropWhile isBlank with
  | [], _ => some none
  | _, ['Z'] => some (some 0)
  | _, sign :: ds =>
    if sign = '+' ∨ sign = '-' then do
      let (hours, _, rest) ← oneOrTwo ds
      let minutes ← match rest with
        | [] => some 0
        | rest => do
          let (m, rest) ← exactly 2 (← behind ':' rest)
          if rest.isEmpty then some m else none
      let seconds : Int := (hours * 60 + minutes) * 60
      return some (if sign = '-' then -seconds else seconds)
    else none
  | _, [] => none

/-- The time of day, the digits of a fraction, and the offset, that stand behind a day. -/
def clock (cs : List Char) : Option ((Nat × Nat × Nat) × List Char × Option Int) := do
  let (hour, _, cs) ← oneOrTwo (← betweenDayAndTime cs)
  let (minute, cs) ← exactly 2 (← behind ':' cs)
  let (second, cs) ← exactly 2 (← behind ':' cs)
  let (fraction, cs) := match cs with
    | '.' :: cs => (cs.takeWhile Char.isDigit, cs.dropWhile Char.isDigit)
    | cs => ([], cs)
  let offset ← zone cs
  return ((hour, minute, second), fraction, offset)

def read? (cs : List Char) : Option Stamp := do
  let (year, cs) ← exactly 4 cs
  let (month, monthDigits, cs) ← oneOrTwo (← behind '-' cs)
  let (day, dayDigits, cs) ← oneOrTwo (← behind '-' cs)
  let isPadded := monthDigits == 2 && dayDigits == 2
  match cs with
  | [] => return ⟨year, month, day, isPadded, none, [], none⟩
  | cs =>
    let (time, fraction, offset) ← clock cs
    return ⟨year, month, day, isPadded, some time, fraction, offset⟩

/-- Is a text written as a day or a moment? A day by itself has two digits for month and day. -/
def isStamp (cs : List Char) : Bool :=
  match read? cs with
  | some s => s.time.isSome || s.isPadded
  | none => false

def wrong {α : Type} (text : String) : Except Fault α := .error (.value (.say "ValueError" text))

def date (s : Stamp) : Except Fault Date :=
  if s.year = 0 then wrong "year 0 is out of range"
  else if s.month < 1 ∨ 12 < s.month then wrong "month must be in 1..12"
  else if s.day < 1 ∨ daysIn s.year s.month < s.day then wrong "day is out of range for month"
  else .ok ⟨s.year, s.month, s.day⟩

def checkOffset : Option Int → Except Fault Unit
  | none => .ok ()
  | some seconds =>
    if seconds.natAbs < 86400 then .ok ()
    else wrong ("offset must be a timedelta strictly between -timedelta(hours=24) and "
      ++ "timedelta(hours=24), not " ++ String.ofList (spanText seconds) ++ ".")

def checkTime (hour minute second : Nat) : Except Fault Unit :=
  if 23 < hour then wrong "hour must be in 0..23"
  else if 59 < minute then wrong "minute must be in 0..59"
  else if 59 < second then wrong "second must be in 0..59"
  else .ok ()

/-- The millionths of a second that the digits of a fraction stand for. -/
def microseconds (ds : List Char) : Nat :=
  let six := ds.take 6
  number six * Nat.pow 10 (6 - six.length)

/-- The day or the moment that a stamp stands for. -/
def value (s : Stamp) : Except Fault Value :=
  match s.time with
  | none => s.date.map .date
  | some (hour, minute, second) => do
    checkOffset s.offset
    let d ← s.date
    checkTime hour minute second
    return .moment ⟨d, hour, minute, second, microseconds s.fraction, s.offset⟩

end Stamp
end TestBench.Yaml
