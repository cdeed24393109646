import TestBench.Text.Alphanumeric
import TestBench.Text.Integer

/-! Slices of text: an offset and perhaps a length, with a colon between them. An offset below
nought counts from the end. -/
namespace TestBench.Slice

/-- The integer that an offset or a length is, if it is one. Blanks around it do not count. -/
def number? (cs : List Char) : Option Int := Text.Integer.read? (Text.trim Text.isBlank cs)

/-- A length: a number that is not below nought. A single word that is no number stands for
nought. -/
def length? (cs : List Char) : Option Nat :=
  match number? cs with
  | some n => if n < 0 then none else some n.toNat
  | none => if (Text.trim Text.isBlank cs).all Text.isWord then some 0 else none

/-- The place in a text of `size` characters that an index stands for. -/
def place (size : Nat) (index : Int) : Nat :=
  if index < 0 then (index + size).toNat else min index.toNat size

/-- The characters of a text from one index to another. -/
def between (cs : List Char) (start stop : Int) : List Char :=
  (cs.take (place cs.length stop)).drop (place cs.length start)

/-- The slice of a text that a modifier asks for, if the modifier is one. An offset that is no
number stands for nought. -/
def of? (cs modifier : List Char) : Option (List Char) :=
  if modifier.isEmpty then none
  else
    match modifier.splitOn ':' with
    | [offset] => some (cs.drop (place cs.length ((number? offset).getD 0)))
    | [offset, length] =>
      let start := (number? offset).getD 0
      (length? length).map fun n => between cs start (start + n)
    | _ => none

example : of? "0123456789".toList " -4:2".toList = some "67".toList := by decide +kernel

example : of? "0123456789".toList " -4:4".toList = some [] := by decide +kernel

example : of? "0123456789".toList "3:-1".toList = none := by decide +kernel

end TestBench.Slice
