import TestBench.Yaml.Source

/-! Reading a YAML text character by character, with the line and the column kept. The character
behind the end is written as NUL, which no text holds. A text may be readable only in part: who asks
for more gets the fault that stands behind that part, whatever else is wrong. Main statement: moving
a cursor drops as many characters as it counts. -/
namespace TestBench.Yaml

def isBreak (c : Char) : Bool := c == '\n' || c == '\x85' || c == '\u2028' || c == '\u2029'

def isBreakOrEnd (c : Char) : Bool := isBreak c || c == '\x00'

def isSpaceOrEnd (c : Char) : Bool := isBreakOrEnd c || c == ' '

def isBlankOrEnd (c : Char) : Bool := isSpaceOrEnd c || c == '\t'

/-- A character of a name: a Latin letter, a digit, a hyphen or an underscore. -/
def isNameChar (c : Char) : Bool := c.isAlphanum || c == '-' || c == '_'

/-- A place in a text, with what is left of it; how many characters of the text have been asked for,
the next one aside; and where the part that can be read ends, with the fault behind it. -/
structure Cursor where
  rest : List Char
  index : Nat
  line : Nat
  column : Nat
  asked : Nat
  limit : Option (Nat × Fault)

namespace Cursor

def start (s : Source) : Cursor := ⟨s.text, 0, 0, 0, 0, s.beyond.map (s.text.length, ·)⟩

/-- Note that some characters from here on are asked for. -/
def asking (n : Nat) (c : Cursor) : Cursor := { c with asked := max c.asked (c.index + n) }

/-- The fault behind the part that can be read, if more than that has been asked for. The next
character always is. -/
def overrun? (c : Cursor) : Option Fault :=
  match c.limit with
  | some (size, f) => if size < max c.asked (c.index + 1) then some f else none
  | none => none

def fault (f : Fault) (c : Cursor) : Fault := c.overrun?.getD f

/-- A text that cannot be cut into tokens here. -/
def refuse {α : Type} (c : Cursor) : Except Fault α := .error (c.fault .token)

def peek (c : Cursor) : Char := c.rest.headD '\x00'

def peekAt (n : Nat) (c : Cursor) : Char := (c.rest.drop n).headD '\x00'

/-- One character further. A byte order mark takes no column. -/
def step (c : Cursor) : Cursor :=
  match c.rest with
  | [] => c
  | ch :: rest =>
    if isBreak ch then { c with rest, index := c.index + 1, line := c.line + 1, column := 0 }
    else
      let column := if ch = '\uFEFF' then c.column else c.column + 1
      { c with rest, index := c.index + 1, column }

def moved : Nat → Cursor → Cursor
  | 0, c => c
  | n + 1, c => moved n c.step

/-- The characters of a class that come next, and the place behind them. -/
def span (p : Char → Bool) (c : Cursor) : List Char × Cursor :=
  let cs := c.rest.takeWhile p
  (cs, c.moved cs.length)

def skip (p : Char → Bool) (c : Cursor) : Cursor := (c.span p).2

/-- A line break as it counts, if one comes next, and the place behind it. -/
def lineBreak (c : Cursor) : List Char × Cursor :=
  if isBreak c.peek then ([if c.peek = '\x85' then '\n' else c.peek], c.step) else ([], c)

/-- Do three of these characters come next? -/
def isTriple (mark : Char) (c : Cursor) : Bool := c.rest.take 3 == [mark, mark, mark]

/-- Do three of these characters come next and nothing close behind them? -/
def isMarker (mark : Char) (c : Cursor) : Bool := c.isTriple mark && isBlankOrEnd (c.peekAt 3)

/-- Does a marker come next that separates documents? -/
def isSeparator (c : Cursor) : Bool := c.isMarker '-' || c.isMarker '.'

/-- Note what is asked for to see whether one of some triples comes next. -/
def askingTriple (marks : List Char) (c : Cursor) : Cursor :=
  c.asking (if marks.any c.isTriple then 4 else 3)

/-- Note what is asked for to see whether documents are separated here. -/
def askingSeparator (c : Cursor) : Cursor := c.askingTriple ['-', '.']

/-- The end of a comment, if one comes next: the place where its line ends. -/
def skipComment (c : Cursor) : Cursor := if c.peek = '#' then c.skip (!isBreakOrEnd ·) else c

/-- What is left of a line must be blank, or a comment. -/
def blankLine (c : Cursor) : Except Fault Cursor :=
  let c := (c.skip (· == ' ')).skipComment
  if isBreakOrEnd c.peek then .ok c.lineBreak.2 else c.refuse

end Cursor
end TestBench.Yaml
