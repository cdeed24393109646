import TestBench.Config.Complaint
import TestBench.Value.Rendering

/-! Complaints about a configuration as a text: their number, and for each one where it applies,
what is wrong, and the value that it is about, cut short if it is long. -/
namespace TestBench.Mistake

/-- Characters from the front that take no more bytes than these. -/
def frontOf : Nat → List Char → List Char
  | _, [] => []
  | bytes, c :: cs => if c.utf8Size ≤ bytes then c :: frontOf (bytes - c.utf8Size) cs else []

def byteCount (cs : List Char) : Nat := cs.foldl (fun n c => n + c.utf8Size) 0

/-- A written value. What takes more than fifty bytes is cut in its middle. -/
def shortened (cs : List Char) : List Char :=
  if byteCount cs ≤ 50 then cs
  else frontOf 25 cs ++ "...".toList ++ (frontOf 24 cs.reverse).reverse

/-- A field as a part of a place. One with a dot in its name stands between grave accents. -/
def fieldText (field : String) : String :=
  if field.toList.contains '.' then "\x60" ++ field ++ "\x60" else field

def place (m : Mistake) : String :=
  match m.index with
  | none => fieldText m.field
  | some i => fieldText m.field ++ "." ++ toString i

/-- A value as it is told of. Of one that cannot be written the type is. -/
def inputText (v : Value) : String :=
  match v.rendered with
  | .ok cs => String.ofList (shortened cs)
  | .error _ => "<unprintable " ++ v.typeName ++ " object>"

def report (m : Mistake) : String :=
  m.place ++ "\n  " ++ m.complaint.message ++ " [type=" ++ m.complaint.kind ++ ", input_value="
    ++ inputText m.input ++ ", input_type=" ++ m.input.typeName ++ "]"

def reportAll (ms : List Mistake) : String :=
  toString ms.length ++ (if ms.length = 1 then " validation error" else " validation errors")
    ++ " for RunConfig\n" ++ "\n".intercalate (ms.map report)

end TestBench.Mistake
