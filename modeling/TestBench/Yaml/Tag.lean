import TestBench.Yaml.Number
import TestBench.Yaml.Timestamp

/-! Tags: what a node is taken for. A node without a tag is taken for what its form says: a plain
scalar may be nothing, a truth value, a number, a day or a moment, or one of two marks that have a
meaning as keys. -/
namespace TestBench.Yaml

/-- What a node is taken for. -/
inductive Tag
  | null
  | bool
  | int
  | float
  | binary
  | timestamp
  | orderedMap
  | pairs
  | set
  | text
  | sequence
  | mapping
  | merge
  | value
  | unknown
  deriving DecidableEq, Repr

namespace Tag

def names : List (String × Tag) := [
  ("tag:yaml.org,2002:null", .null), ("tag:yaml.org,2002:bool", .bool),
  ("tag:yaml.org,2002:int", .int), ("tag:yaml.org,2002:float", .float),
  ("tag:yaml.org,2002:binary", .binary), ("tag:yaml.org,2002:timestamp", .timestamp),
  ("tag:yaml.org,2002:omap", .orderedMap), ("tag:yaml.org,2002:pairs", .pairs),
  ("tag:yaml.org,2002:set", .set), ("tag:yaml.org,2002:str", .text),
  ("tag:yaml.org,2002:seq", .sequence), ("tag:yaml.org,2002:map", .mapping),
  ("tag:yaml.org,2002:merge", .merge), ("tag:yaml.org,2002:value", .value)]

def ofName (s : String) : Tag := (names.lookup s).getD .unknown

/-- The words for truth values: in small letters, with a capital, or in capitals. -/
def truthWords : List String := [
  "yes", "Yes", "YES", "no", "No", "NO", "true", "True", "TRUE", "false", "False", "FALSE",
  "on", "On", "ON", "off", "Off", "OFF"]

def nullWords : List String := ["~", "null", "Null", "NULL"]

/-- A text without the line feed that may end it. -/
def body (cs : List Char) : List Char := if cs.getLast? = some '\n' then cs.dropLast else cs

/-- What a scalar that is not empty is taken for by its text. -/
def ofBody (cs : List Char) : Tag :=
  let s := String.ofList cs
  if truthWords.contains s then .bool
  else if Number.isFloat cs then .float
  else if Number.isInt cs then .int
  else if s == "<<" then .merge
  else if nullWords.contains s then .null
  else if Stamp.isStamp cs then .timestamp
  else if s == "=" then .value
  else if ["!", "&", "*"].contains s then .unknown
  else .text

/-- What a scalar is taken for by its text. -/
def ofText (cs : List Char) : Tag := if cs = [] then .null else ofBody (body cs)

/-- What a scalar is taken for: by its tag, by its text if that is open, or for a text. -/
def ofScalar (tag : Option String) (isOpen : Bool) (cs : List Char) : Tag :=
  match tag with
  | some s => ofName s
  | none => if isOpen then ofText cs else .text

def ofParts (tag : Option String) (otherwise : Tag) : Tag :=
  match tag with
  | some s => ofName s
  | none => otherwise

end Tag
end TestBench.Yaml
