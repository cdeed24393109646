/-! Arguments of a command, read as options and operands. An option has a long name, and may have a
letter; letters can be put together behind one hyphen. What stands behind two hyphens alone is all
operands. -/
namespace TestBench.CommandLine

/-- An option: its long name, its letter if it has one, and whether a value belongs to it. -/
structure OptionForm where
  name : String
  letter : Option Char
  takesValue : Bool
  deriving DecidableEq, Repr

/-- A word of a command: an option, with its value if it takes one, or an operand. -/
inductive Word
  | option (name : String) (value : Option String)
  | operand (text : String)
  deriving DecidableEq, Repr

/-- What an argument says: its words, and the option that the next argument is the value of. -/
structure Said where
  words : List Word
  awaits : Option String
  deriving DecidableEq, Repr

/-- An option called by its long name, with the value attached to it. -/
def OptionForm.said (form : OptionForm) (attached : Option (List Char)) : Option Said :=
  match form.takesValue, attached with
  | true, some cs => some ⟨[.option form.name (some (String.ofList cs))], none⟩
  | true, none => some ⟨[], some form.name⟩
  | false, none => some ⟨[.option form.name none], none⟩
  | false, some _ => none

/-- Letters behind one hyphen. What follows a letter that takes a value is that value. -/
def lettersSaid (forms : List OptionForm) : List Char → Option Said
  | [] => some ⟨[], none⟩
  | c :: cs =>
    match forms.find? fun form => form.letter == some c with
    | none => none
    | some form =>
      if form.takesValue then form.said (if cs.isEmpty then none else some cs)
      else (lettersSaid forms cs).map fun s => { s with words := .option form.name none :: s.words }

/-- A text in front of its first equality sign, and what stands behind the sign. -/
def splitValue (cs : List Char) : List Char × Option (List Char) :=
  match cs.dropWhile (· != '=') with
  | [] => (cs, none)
  | _ :: value => (cs.takeWhile (· != '='), some value)

def argumentSaid (forms : List OptionForm) (cs : List Char) : Option Said :=
  let (name, attached) := splitValue cs
  match forms.find? fun form => "--".toList ++ form.name.toList == name with
  | some form => form.said attached
  | none => if ['-', '-'].isPrefixOf cs then none else lettersSaid forms (cs.drop 1)

/-- Is an argument one or more options? A hyphen alone is an operand. -/
def isOptions (argument : String) : Bool :=
  argument.startsWith "-" && argument != "-"

/-- Read arguments, the first of which is the value of an option if one is awaited. They cannot be
read if an option is unknown, lacks its value, or has one that it does not take. -/
def readWords (forms : List OptionForm) : Option String → List String → Option (List Word)
  | none, [] => some []
  | some _, [] => none
  | some name, value :: rest => (readWords forms none rest).map (.option name (some value) :: ·)
  | none, argument :: rest =>
    if argument = "--" then some (rest.map .operand)
    else if isOptions argument then
      match argumentSaid forms argument.toList with
      | none => none
      | some said => (readWords forms said.awaits rest).map (said.words ++ ·)
    else (readWords forms none rest).map (.operand argument :: ·)

namespace Word

def operands (ws : List Word) : List String :=
  ws.filterMap fun w => match w with
    | .operand text => some text
    | .option _ _ => none

def values (name : String) (ws : List Word) : List String :=
  ws.filterMap fun w => match w with
    | .option other (some value) => if other = name then some value else none
    | _ => none

def hasFlag (name : String) (ws : List Word) : Bool := ws.contains (.option name none)

end Word
end TestBench.CommandLine
