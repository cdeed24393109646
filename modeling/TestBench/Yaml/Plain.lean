import TestBench.Yaml.Cursor

/-! Plain scalars: text without quotes. It goes over line breaks, which are folded, and ends where
a comment, a marker of the structure or a lesser indentation comes. -/
namespace TestBench.Yaml.Plain

/-- A character that has a meaning of its own between brackets and ends a plain scalar there. -/
def isFlowMark (c : Char) : Bool := ",?[]\x7b\x7d".toList.contains c

/-- A character that may follow a colon which ends a plain scalar between brackets. -/
def isFlowEnd (c : Char) : Bool := ",[]\x7b\x7d".toList.contains c

/-- Does a plain scalar end at this colon, by the character behind it? -/
def endsAtColon (flow : Bool) (next : Char) : Bool := isBlankOrEnd next || (flow && isFlowEnd next)

/-- The number of characters of the word that comes next. -/
def wordLength (flow : Bool) : List Char → Nat
  | [] => 0
  | c :: cs =>
    if isBlankOrEnd c || (c == ':' && endsAtColon flow (cs.headD '\x00')) || (flow && isFlowMark c)
    then 0
    else wordLength flow cs + 1

/-- The line breaks among spaces and line breaks, unless a separator of documents stops them. -/
def breaks : Nat → Cursor → Option (List Char) × Cursor
  | 0, c => (some [], c)
  | n + 1, c =>
    if c.peek = ' ' then breaks n c.step
    else if isBreak c.peek then
      let (b, c) := c.lineBreak
      let c := c.askingSeparator
      if c.isSeparator then (none, c)
      else
        let (bs, c) := breaks n c
        (bs.map (b ++ ·), c)
    else (some [], c)

/-- A line break and those behind it, folded: a single line feed is a space. -/
def folded (b bs : List Char) : List Char :=
  if b ≠ ['\n'] then b ++ bs else if bs = [] then [' '] else bs

def space (c : Cursor) : List Char × Cursor × Bool :=
  let (spaces, c) := c.span (· == ' ')
  if isBreak c.peek then
    let (b, c) := c.lineBreak
    let c := c.askingSeparator
    if c.isSeparator then ([], c, true)
    else
      match breaks c.rest.length c with
      | (none, c) => ([], c, true)
      | (some bs, c) => (folded b bs, c, true)
  else (spaces, c, false)

/-- Note what is asked for at the end of a word: a colon ends it by what stands behind. -/
def askingColon (c : Cursor) : Cursor := if c.peek = ':' then c.asking 2 else c

/-- Read words and the spaces between them. The answer is the text, the place behind it, and
whether the last thing read was the end of a line. -/
def words (flow : Bool) (indent : Int) : Nat → List Char → Bool → Cursor → List Char × Cursor × Bool
  | 0, _, ended, c => ([], c, ended)
  | n + 1, before, ended, c =>
    let length := wordLength flow c.rest
    if c.peek = '#' then ([], c, ended)
    else if length = 0 then ([], askingColon c, ended)
    else
      let word := before ++ c.rest.take length
      let (after, c, ended) := space (askingColon (c.moved length))
      if after = [] ∨ c.peek = '#' ∨ (!flow && decide ((c.column : Int) < indent)) = true then
        (word, c, ended)
      else
        let (more, c, ended) := words flow indent n after ended c
        (word ++ more, c, ended)

def read (flow : Bool) (indent : Int) (c : Cursor) : List Char × Cursor × Bool :=
  words flow indent (c.rest.length + 1) [] false c

end TestBench.Yaml.Plain
