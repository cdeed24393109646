import TestBench.Fault.Kind
import TestBench.Text.Utf8

/-! Arguments that a fault cannot be made from. What arises instead is another fault, which tells
of the first argument that does not fit. -/
namespace TestBench
namespace Fault

/-- The type of a value as a complaint about an argument calls it. -/
def argumentType : Value → String
  | .none => "None"
  | v => v.fullTypeName

def notText (taker : String) (position : Nat) : Value → Option Fault
  | .text _ => none
  | v => some (.say "TypeError" (taker ++ "argument " ++ toString position ++ " must be str, not "
      ++ argumentType v))

def fitsWord (n : Int) : Bool := -(Int.pow 2 63) ≤ n && n < Int.pow 2 63

def notInteger (v : Value) : Option Fault :=
  some (.say "TypeError" ("'" ++ v.fullTypeName ++ "' object cannot be interpreted as an integer"))

def notPlace (v : Value) : Option Fault :=
  match integerOf? v with
  | none => notInteger v
  | some n =>
    if fitsWord n then none
    else some (.say "OverflowError" "Python int too large to convert to C ssize_t")

def notBytes : Value → Option Fault
  | .bytes _ => none
  | v => some (.say "TypeError" ("a bytes-like object is required, not '" ++ v.fullTypeName ++ "'"))

/-- The complaint about a number of arguments other than the one that is needed. -/
def wrongCount (needed given : Nat) : Fault :=
  .say "TypeError" ("function takes exactly " ++ toString needed ++ " arguments ("
    ++ toString given ++ " given)")

/-- What a group of faults is made by. -/
def groupMaker : String := "BaseExceptionGroup.__new__() "

/-- The items of a value that is a sequence. -/
def sequence? : Value → Option (List Value)
  | .list xs => some xs
  | .tuple xs => some xs
  | .text s => some (s.toList.map fun c => .text (String.ofList [c]))
  | .bytes bs => some (bs.map fun b => .int b.toNat)
  | _ => none

def items? : Value → Option (List Value)
  | .set xs => some xs
  | .frozenSet xs => some xs
  | .dict es => some (es.map Prod.fst)
  | v => sequence? v

/-- What is wrong with the members of a group of faults: no value is a fault. -/
def membersMisfit (v : Value) : Fault :=
  match sequence? v with
  | none => .say "TypeError" "second argument (exceptions) must be a sequence"
  | some [] => .say "ValueError" "second argument (exceptions) must be a non-empty sequence"
  | some _ => .say "ValueError" "Item 0 of second argument (exceptions) is not an exception"

def groupMisfit : List Value → Fault
  | [title, members] => (notText groupMaker 1 title).getD (membersMisfit members)
  | vs => .say "TypeError" (groupMaker ++ "takes exactly 2 arguments (" ++ toString vs.length
      ++ " given)")

/-- What is wrong with the place of a fault in a source text: it has four or six parts. -/
def placeMisfit (v : Value) : Option Fault :=
  match items? v with
  | none => some (.say "TypeError" ("'" ++ v.fullTypeName ++ "' object is not iterable"))
  | some parts =>
    let given := " arguments (" ++ toString parts.length ++ " given)"
    if parts.length < 4 then some (.say "TypeError" ("function takes at least 4" ++ given))
    else if 6 < parts.length then some (.say "TypeError" ("function takes at most 6" ++ given))
    else if parts.length = 5 then
      some (.say "TypeError" "end_offset must be provided when end_lineno is provided")
    else none

/-- What is wrong with the third argument of a fault that tells how much was written before. -/
def writtenMisfit : Value → Option Fault
  | .double x => notInteger (.double x)
  | .int n =>
    if fitsWord n then none
    else some (.say "ValueError" "cannot fit 'int' into an index-sized integer")
  | _ => none

def decodingMisfit : List Value → Option Fault
  | [encoding, object, start, stop, reason] =>
    (notText "" 1 encoding).or ((notPlace start).or ((notPlace stop).or
      ((notText "" 5 reason).or (notBytes object))))
  | vs => some (wrongCount 5 vs.length)

def encodingMisfit : List Value → Option Fault
  | [encoding, object, start, stop, reason] =>
    (notText "" 1 encoding).or ((notText "" 2 object).or ((notPlace start).or
      ((notPlace stop).or (notText "" 5 reason))))
  | vs => some (wrongCount 5 vs.length)

def replacingMisfit : List Value → Option Fault
  | [object, start, stop, reason] =>
    (notText "" 1 object).or ((notPlace start).or ((notPlace stop).or (notText "" 4 reason)))
  | vs => some (wrongCount 4 vs.length)

/-- The fault that arises instead of one of a kind, if its arguments do not fit. -/
def misfit? (kind : String) (arguments : List Value) : Option Fault :=
  match kind, arguments with
  | "ExceptionGroup", vs => some (groupMisfit vs)
  | "BaseExceptionGroup", vs => some (groupMisfit vs)
  | "UnicodeDecodeError", vs => decodingMisfit vs
  | "UnicodeEncodeError", vs => encodingMisfit vs
  | "UnicodeTranslateError", vs => replacingMisfit vs
  | "SyntaxError", [_, place] => placeMisfit place
  | "IndentationError", [_, place] => placeMisfit place
  | "TabError", [_, place] => placeMisfit place
  | "BlockingIOError", _ :: _ :: written :: rest =>
    if rest.length ≤ 2 then writtenMisfit written else none
  | _, _ => none

end Fault
end TestBench
