import TestBench.Yaml.Cursor

/-! Block scalars: the lines below a bar or an angle bracket that stand at one indentation. Those
behind an angle bracket are folded. What becomes of the line breaks at the end is told in the
header. -/
namespace TestBench.Yaml.BlockScalar

/-- What becomes of the line breaks at the end. -/
inductive Chomping
  | clip
  | strip
  | keep
  deriving DecidableEq, Repr

/-- The header: what becomes of the end, and an indentation if one is given. -/
structure Header where
  chomping : Chomping
  increment : Option Nat

def chomping? (c : Char) : Option Chomping :=
  if c == '+' then some .keep else if c == '-' then some .strip else none

/-- An indentation from one to nine, if a digit comes next. -/
def increment? (c : Cursor) : Except Fault (Option Nat × Cursor) :=
  if c.peek.isDigit then
    let n := c.peek.toNat - '0'.toNat
    if n = 0 then c.refuse else .ok (some n, c.step)
  else .ok (none, c)

/-- Read a header. Its two parts may come in either order. -/
def header (c : Cursor) : Except Fault (Header × Cursor) := do
  let (h, c) ← match chomping? c.peek with
    | some chomping => do
      let (increment, c) ← increment? c.step
      pure (⟨chomping, increment⟩, c)
    | none => do
      let (increment, c) ← increment? c
      match increment, chomping? c.peek with
      | some n, some chomping => pure ((⟨chomping, some n⟩ : Header), c.step)
      | _, _ => pure (⟨.clip, increment⟩, c)
  if isSpaceOrEnd c.peek then return (h, c) else c.refuse

/-- The line breaks before the first line that is not empty, and the greatest column reached. -/
def leading : Nat → Nat → Cursor → List Char × Nat × Cursor
  | 0, deepest, c => ([], deepest, c)
  | n + 1, deepest, c =>
    if c.peek = ' ' then leading n (max deepest c.step.column) c.step
    else if isBreak c.peek then
      let (b, c) := c.lineBreak
      let (bs, deepest, c) := leading n deepest c
      (b ++ bs, deepest, c)
    else ([], deepest, c)

/-- The place behind the indentation of a line. -/
def indented (indent : Nat) (c : Cursor) : Cursor :=
  c.moved (min (c.rest.takeWhile (· == ' ')).length (indent - c.column))

def breaks (indent : Nat) : Nat → Cursor → List Char × Cursor
  | 0, c => ([], c)
  | n + 1, c =>
    let c := indented indent c
    if isBreak c.peek then
      let (b, c) := c.lineBreak
      let (bs, c) := breaks indent n c
      (b ++ bs, c)
    else ([], c)

/-- The text of a scalar, its last line break, and the breaks of the empty lines behind it. -/
structure Body where
  text : List Char
  lineBreak : List Char
  breaks : List Char

/-- What stands for the end of a line within the text. -/
def joint (isFolded startsWord nextIsWord : Bool) (lineBreak breaks : List Char) : List Char :=
  if isFolded && lineBreak == ['\n'] && startsWord && nextIsWord then
    if breaks = [] then [' '] else []
  else lineBreak

def isWordStart (c : Char) : Bool := !(c == ' ' || c == '\t')

/-- Does a line at this indentation come next? -/
def isLine (indent : Nat) (c : Cursor) : Bool := c.column == indent && c.peek != '\x00'

def lines (isFolded : Bool) (indent : Nat) : Nat → List Char → Cursor → Body × Cursor
  | 0, before, c => (⟨[], [], before⟩, c)
  | n + 1, before, c =>
    let startsWord := isWordStart c.peek
    let (line, c) := c.span (!isBreakOrEnd ·)
    let (b, c) := c.lineBreak
    let (bs, c) := breaks indent (c.rest.length + 1) c
    if isLine indent c then
      let between := joint isFolded startsWord (isWordStart c.peek) b bs
      let (more, c) := lines isFolded indent n bs c
      (⟨before ++ line ++ between ++ more.text, more.lineBreak, more.breaks⟩, c)
    else (⟨before ++ line, b, bs⟩, c)

/-- The text with what is kept of its end. -/
def Body.chomped (b : Body) : Chomping → List Char
  | .clip => b.text ++ b.lineBreak
  | .strip => b.text
  | .keep => b.text ++ b.lineBreak ++ b.breaks

/-- Read a block scalar from its first character on; `least` is the least indentation that it may
have. -/
def read (isFolded : Bool) (least : Nat) (c : Cursor) : Except Fault (List Char × Cursor) := do
  let (h, c) ← header c.step
  let c ← c.blankLine
  let (before, indent, c) := match h.increment with
    | none =>
      let (bs, deepest, c) := leading (c.rest.length + 1) 0 c
      (bs, max least deepest, c)
    | some n =>
      let indent := least + n - 1
      let (bs, c) := breaks indent (c.rest.length + 1) c
      (bs, indent, c)
  if isLine indent c then
    let (body, c) := lines isFolded indent (c.rest.length + 1) before c
    return (body.chomped h.chomping, c)
  else return ((⟨[], [], before⟩ : Body).chomped h.chomping, c)

end TestBench.Yaml.BlockScalar
