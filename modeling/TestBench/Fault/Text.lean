import TestBench.Fault.Argument

/-! The texts of faults. Most tell their arguments as they are; a missing key is always written
out, and faults of the operating system, of a source text and of an encoding have forms of their
own. -/
namespace TestBench
namespace Fault

/-- The text of a fault of the operating system that has a number: the number, the text and the
files it is about. -/
def numberedText (number text : Value) (files : List Value) : Except Fault (List Char) := do
  let n ← number.plainText
  let t ← text.plainText
  let told := "[Errno ".toList ++ n ++ ']' :: ' ' :: t
  match files with
  | [] => return told
  | .none :: _ => return told
  | file :: rest =>
    let one ← file.rendered
    match rest with
    | [_, .none] => return told ++ ':' :: ' ' :: one
    | [_, other] => return told ++ ':' :: ' ' :: one ++ " -> ".toList ++ (← other.rendered)
    | _ => return told ++ ':' :: ' ' :: one

/-- The files that a fault of the operating system is about. A number in their place tells how
much was written, if the kind has such a thing. -/
def filesOf (kind : String) : List Value → List Value
  | [] => []
  | file :: rest =>
    if kind == "BlockingIOError" && (integerOf? file).isSome then [] else file :: rest

def systemText (f : Fault) : Except Fault (List Char) :=
  match f.arguments with
  | number :: told :: files =>
    if isNumbered f.arguments then numberedText number told (filesOf f.kind files)
    else plainText f.arguments
  | vs => plainText vs

/-- The last part of the name of a source text. -/
def lastPart (s : String) : String :=
  String.ofList (s.toList.reverse.takeWhile (· != '/')).reverse

/-- A line's number as it is shown; one that does not fit in a machine word is shown as minus
one. -/
def lineText (n : Int) : String := toString (if fitsWord n then n else -1)

/-- The place of a fault in a source text: a name, a line, or both. -/
def placeText (parts : List Value) : String :=
  match parts with
  | .text name :: .int n :: _ => " (" ++ lastPart name ++ ", line " ++ lineText n ++ ")"
  | .text name :: _ => " (" ++ lastPart name ++ ")"
  | _ :: .int n :: _ => " (line " ++ lineText n ++ ")"
  | _ => ""

def sourceText : List Value → Except Fault (List Char)
  | [] => .ok "None".toList
  | [told, place] => do
    return (← told.plainText) ++ (placeText ((items? place).getD [])).toList
  | told :: _ => told.plainText

def sourceKinds : List String := ["SyntaxError", "IndentationError", "TabError"]

/-- The last place of those before another one. It is a machine word: before the least comes the
greatest. -/
def lastPlace (stop : Int) : Int := if fitsWord (stop - 1) then stop - 1 else Int.pow 2 63 - 1

/-- What is wrong with one thing at a place, or with all from a place up to another one. -/
def spanText (start stop : Int) (one : Option String) (many reason : String) : String :=
  match if stop = start + 1 then one else none with
  | some thing => thing ++ " in position " ++ toString start ++ ": " ++ reason
  | none =>
    many ++ " in position " ++ toString start ++ "-" ++ toString (lastPlace stop) ++ ": " ++ reason

/-- A character that is named by its code. -/
def characterText (c : Char) : String :=
  "character '" ++ String.ofList (Text.codeEscape c.toNat) ++ "'"

/-- What is wrong with characters of a text. A single one before the first cannot be named, so that
no text of the fault can be made up; an address in the words for that is left out. -/
def charactersText (kind opening s : String) (start stop : Int) (reason : String) :
    Except Fault (List Char) :=
  if start < 0 ∧ stop = start + 1 then
    .error (.say "SystemError" ("<built-in method __format__ of " ++ kind
      ++ " object> returned a result with an exception set"))
  else .ok (opening ++ spanText start stop ((s.toList[start.toNat]?).map characterText) "characters"
    reason).toList

/-- The text of a fault of an encoding, if its arguments fit. What stands before the first of some
bytes is not known; the first one is told in its place. -/
def codingText? : List Value → Option (Except Fault (List Char))
  | [.text encoding, .bytes bs, start, stop, .text reason] => do
    let start ← integerOf? start
    return .ok ("'" ++ encoding ++ "' codec can't decode " ++
      spanText start (← integerOf? stop)
        ((bs[start.toNat]?).map fun b => "byte 0x" ++ Text.Utf8.byteText b) "bytes" reason).toList
  | [.text encoding, .text s, start, stop, .text reason] => do
    return charactersText "UnicodeEncodeError" ("'" ++ encoding ++ "' codec can't encode ") s
      (← integerOf? start) (← integerOf? stop) reason
  | [.text s, start, stop, .text reason] => do
    return charactersText "UnicodeTranslateError" "can't translate " s (← integerOf? start)
      (← integerOf? stop) reason
  | _ => none

def codingKinds : List String :=
  ["UnicodeDecodeError", "UnicodeEncodeError", "UnicodeTranslateError"]

def text (f : Fault) : Except Fault (List Char) :=
  if f.kind == "KeyError" then
    match f.arguments with
    | [key] => key.rendered
    | vs => plainText vs
  else if sourceKinds.contains f.kind then sourceText f.arguments
  else if f.isSystem then systemText f
  else if codingKinds.contains f.kind then (codingText? f.arguments).getD (plainText f.arguments)
  else plainText f.arguments

def line (f : Fault) : Except Fault String :=
  (text f).map fun t => f.kind ++ ": " ++ String.ofList t

end Fault
end TestBench
