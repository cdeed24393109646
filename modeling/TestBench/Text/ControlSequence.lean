/-! Control sequences of a terminal: an escape character, an opening bracket, any number of
parameter characters and one letter. Removing them works on both sides of an escape character or a
line break on its own, because no sequence holds one after its beginning. -/
namespace TestBench.Text

def escape : Char := '\x1b'

def isParameter (c : Char) : Bool := c == ';' || c == '?' || c.isDigit

/-- How many of the characters behind an escape character belong to its control sequence, if
they complete one. -/
def sequenceLength? : List Char → Option Nat
  | '[' :: cs =>
    match cs.dropWhile isParameter with
    | letter :: _ => if letter.isAlpha then some ((cs.takeWhile isParameter).length + 2) else none
    | [] => none
  | _ => none

/-- What is left of a text whose first `skipped` characters are gone already. -/
def stripFrom : Nat → List Char → List Char
  | _, [] => []
  | skipped + 1, _ :: cs => stripFrom skipped cs
  | 0, c :: cs =>
    if c = escape then
      match sequenceLength? cs with
      | some n => stripFrom n cs
      | none => c :: stripFrom 0 cs
    else c :: stripFrom 0 cs

/-- A text without its control sequences, removed in one pass from the left. -/
def stripped (cs : List Char) : List Char := stripFrom 0 cs

def strip (s : String) : String := String.ofList (stripped s.toList)

/-- The text that turns what follows it red on a terminal. -/
def red : String := "\x1b[31m"

/-- The text that ends every colour on a terminal. -/
def plain : String := "\x1b[0m"

/-- A text between the codes for red and for no colour. -/
def styled (s : String) : String := red ++ s ++ plain

example : strip "a\x1b[1;31mb\x1b[3" = "ab\x1b[3" := by decide +kernel

end TestBench.Text
