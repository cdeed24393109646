import TestBench.Double.Basic
import TestBench.Value.Calendar

/-! The values that tests compare and faults carry. Most are plain data; an object of a test's own
making answers questions about itself as it likes, or fails to answer.

Two things are left out. Texts are made of characters, so that one half of a surrogate pair cannot
stand in them by itself; and values may be nested to any depth, where showing or comparing them in a
process would end with a fault of recursion somewhere beyond a few hundred levels. -/
namespace TestBench

/-- Something that went wrong: its kind, and values that describe it. -/
structure FaultOf (α : Type) where
  kind : String
  arguments : List α

inductive Answer (α β : Type)
  | gives (a : α)
  | raises (f : FaultOf β)

/-- The outer shape of a container that holds itself. -/
inductive Shape
  | list
  | tuple
  | dict
  | set
  deriving DecidableEq, Repr

/-- A value. The members of a set and the keys of a dictionary are pairwise different; both keep
the order in which they came. `cycle` stands, inside a container, for that container. -/
inductive Value
  | none
  | bool (b : Bool)
  | int (n : Int)
  | double (x : Double)
  | text (s : String)
  | bytes (bs : List UInt8)
  | list (xs : List Value)
  | tuple (xs : List Value)
  | set (xs : List Value)
  | frozenSet (xs : List Value)
  | dict (entries : List (Value × Value))
  | date (d : Date)
  | moment (t : Moment)
  | cycle (shape : Shape)
  | object (shown : Answer String Value) (equals : Option (Answer Value Value))
      (truth : Answer Bool Value)

/-- Something that went wrong, described by values. -/
abbrev Fault := FaultOf Value

namespace Answer

def toExcept {α : Type} : Answer α Value → Except Fault α
  | .gives a => .ok a
  | .raises f => .error f

end Answer

namespace Value

/-- The truth of a value: nothing, zero and what is empty are false. -/
def truth : Value → Except Fault Bool
  | .none => .ok false
  | .bool b => .ok b
  | .int n => .ok (n != 0)
  | .double x => .ok !x.isZero
  | .text s => .ok (s != "")
  | .bytes bs => .ok !bs.isEmpty
  | .list xs => .ok !xs.isEmpty
  | .tuple xs => .ok !xs.isEmpty
  | .set xs => .ok !xs.isEmpty
  | .frozenSet xs => .ok !xs.isEmpty
  | .dict es => .ok !es.isEmpty
  | .date _ => .ok true
  | .moment _ => .ok true
  | .cycle _ => .ok true
  | .object _ _ t => t.toExcept

def typeName : Value → String
  | .none => "NoneType"
  | .bool _ => "bool"
  | .int _ => "int"
  | .double _ => "float"
  | .text _ => "str"
  | .bytes _ => "bytes"
  | .list _ => "list"
  | .tuple _ => "tuple"
  | .set _ => "set"
  | .frozenSet _ => "frozenset"
  | .dict _ => "dict"
  | .date _ => "date"
  | .moment _ => "datetime"
  | .cycle .list => "list"
  | .cycle .tuple => "tuple"
  | .cycle .dict => "dict"
  | .cycle .set => "set"
  | .object _ _ _ => "object"

/-- The type of a value as faults call it: a date's goes by its full name. -/
def fullTypeName : Value → String
  | .date _ => "datetime.date"
  | .moment _ => "datetime.datetime"
  | v => v.typeName

end Value
end TestBench
