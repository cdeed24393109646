/-! Days and moments of the calendar. Two moments with offsets are the same when they are one point
of time; a moment without an offset is never the same as one that has it. -/
namespace TestBench

/-- A day of the calendar. -/
structure Date where
  year : Nat
  month : Nat
  day : Nat
  deriving DecidableEq, Repr

/-- A moment of a day; the offset is in seconds to the east, if there is one. -/
structure Moment where
  date : Date
  hour : Nat
  minute : Nat
  second : Nat
  microsecond : Nat
  offset : Option Int
  deriving DecidableEq, Repr

def isLeap (year : Nat) : Bool := year % 4 == 0 && (year % 100 != 0 || year % 400 == 0)

def daysIn (year month : Nat) : Nat :=
  if month = 2 then (if isLeap year then 29 else 28)
  else if [4, 6, 9, 11].contains month then 30 else 31

/-- The number of days before a year, counted from the year one. -/
def daysBefore (year : Nat) : Nat :=
  let past := year - 1
  past * 365 + past / 4 - past / 100 + past / 400

/-- The number of a day, counted from the first of the year one. -/
def Date.number (d : Date) : Nat :=
  daysBefore d.year + (List.range' 1 (d.month - 1)).foldl (fun n m => n + daysIn d.year m) 0 + d.day

/-- The point of time that a moment is if its offset is this one, in millionths of a second. -/
def Moment.instant (t : Moment) (offset : Int) : Int :=
  let seconds : Int := ((t.date.number * 24 + t.hour) * 60 + t.minute) * 60 + t.second
  (seconds - offset) * 1000000 + t.microsecond

def Moment.same (s t : Moment) : Bool :=
  match s.offset, t.offset with
  | some a, some b => s.instant a == t.instant b
  | none, none => s == t
  | _, _ => false

example : Moment.same ⟨⟨2001, 1, 1⟩, 0, 30, 0, 0, some 3600⟩
    ⟨⟨2000, 12, 31⟩, 23, 30, 0, 0, some 0⟩ = true := by decide +kernel

end TestBench
