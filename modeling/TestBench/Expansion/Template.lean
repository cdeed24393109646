import TestBench.Text.Alphanumeric

/-! Templates: text with references to variables. A reference is a dollar sign with a name, or with
a name in braces; inside the braces a mark may change what it stands for, and a colon or another
character may begin a modifier, which is a template itself. A template without a dollar sign or a
backslash stands for itself. -/
namespace TestBench

/-- What a reference makes of its variable. -/
inductive Use
  | value
  | length
  | orElse
  | orAssign
  | ifAny
  | required
  | slice
  deriving DecidableEq, Repr

/-- A piece of a template. At a `broken` one the template cannot be read any further. -/
inductive Piece
  | char (c : Char)
  | reference (name : List Char) (indirect : Bool) (use : Use) (modifier : List Piece)
  | broken

/-- A reference as it is written: its modifier is not read yet. -/
structure Reference where
  name : List Char
  indirect : Bool
  use : Use
  modifier : List Char

namespace Reference

/-- A modifier up to the brace that closes it, and what is left behind that. Braces inside it come
in pairs, `depth` of which are open. -/
def closed? : Nat → List Char → Option (List Char × List Char)
  | _, [] => none
  | 0, '}' :: cs => some ([], cs)
  | depth + 1, '}' :: cs => (closed? depth cs).map fun r => ('}' :: r.1, r.2)
  | depth, '{' :: cs => (closed? (depth + 1) cs).map fun r => ('{' :: r.1, r.2)
  | depth, c :: cs => (closed? depth cs).map fun r => (c :: r.1, r.2)

def useOf? (c : Char) : Option Use :=
  if c == '-' then some .orElse
  else if c == '=' then some .orAssign
  else if c == '+' then some .ifAny
  else if c == '?' then some .required
  else none

/-- The use and the modifier of a reference, from the first character of the modifier on, and what
is left behind its closing brace. A character that stands for no use belongs to a slice. -/
def modified? : List Char → Option (Use × List Char × List Char)
  | [] => none
  | '}' :: cs => some (.slice, [], cs)
  | c :: cs => do
    let (text, rest) ← closed? 0 cs
    match useOf? c with
    | some use => return (use, text, rest)
    | none => return (.slice, c :: text, rest)

/-- The marks behind an opening brace: indirect, or a length. -/
def marks : List Char → Bool × Bool × List Char
  | '!' :: cs => (true, false, cs)
  | '#' :: cs => (false, true, cs)
  | cs => (false, false, cs)

/-- The rest of a name inside braces, and what is left behind it. A name that has not begun yet may
begin with a dollar sign there. -/
def named (bare : List Char) : List Char → List Char × List Char
  | '$' :: cs =>
    if bare.isEmpty then ('$' :: cs.takeWhile Text.isWord, cs.dropWhile Text.isWord)
    else (bare, '$' :: cs)
  | cs => (bare ++ cs.takeWhile Text.isWord, cs.dropWhile Text.isWord)

/-- A reference whose braces are open. Its name may have begun before them. -/
def braced? (bare cs : List Char) : Option (Reference × List Char) :=
  let (indirect, length, cs) := marks cs
  let (name, more) := named bare cs
  match more with
  | [] => none
  | '}' :: rest => some (⟨name, indirect, if length then .length else .value, []⟩, rest)
  | ':' :: more =>
    if length then (closed? 0 more).map fun r => (⟨name, indirect, .length, r.1⟩, r.2)
    else (modified? more).map fun r => (⟨name, indirect, r.1, r.2.1⟩, r.2.2)
  | more => (modified? more).map fun r => (⟨name, indirect, r.1, r.2.1⟩, r.2.2)

/-- Read a reference behind its dollar sign, and what is left behind it. -/
def read? (cs : List Char) : Option (Reference × List Char) :=
  let bare := cs.takeWhile Text.isWord
  match cs.dropWhile Text.isWord with
  | '{' :: more => braced? bare more
  | rest => some (⟨bare, false, .value, []⟩, rest)

/-- Does a reference begin here, behind a dollar sign? -/
def begins : List Char → Bool
  | c :: _ => Text.isWord c || c == '{'
  | [] => false

end Reference

namespace Piece

/-- The greatest number of modifiers that may lie inside each other. -/
def deepestModifier : Nat := 495

/-- Read a template of no more characters than the number given, in which `room` tells how many
modifiers may still lie inside each other. -/
def readUpTo : Nat → Nat → List Char → List Piece
  | _, _, [] => []
  | _, 0, _ :: _ => [.broken]
  | room, n + 1, c :: cs =>
    if c = '\\' then
      match cs with
      | [] => [.broken]
      | d :: rest =>
        if d = '$' ∨ d = '\\' then .char d :: readUpTo room n rest
        else .char '\\' :: .char d :: readUpTo room n rest
    else if c = '$' ∧ Reference.begins cs = true then
      match Reference.read? cs with
      | none => [.broken]
      | some (r, rest) =>
        if r.name.isEmpty then [.broken]
        else
          let modifier := match room with
            | 0 => [.broken]
            | room + 1 => readUpTo room n r.modifier
          .reference r.name r.indirect r.use modifier :: readUpTo room n rest
    else .char c :: readUpTo room n cs

def readAll (cs : List Char) : List Piece := readUpTo deepestModifier cs.length cs

end Piece
end TestBench
