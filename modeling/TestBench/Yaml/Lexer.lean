import TestBench.Yaml.Token

/-! Cutting a YAML text into tokens. Indentation opens and closes blocks; a scalar, a tag, an anchor
or a bracket may turn out to be a key when a colon follows it on its line, and its tokens wait until
that is known. A token that has been released is never changed. -/
namespace TestBench.Yaml

/-- Something that may turn out to be a key: the number of its first token, whether it has to be
one, and where it stands. -/
structure Candidate where
  token : Nat
  isRequired : Bool
  index : Nat
  line : Nat
  column : Nat

/-- The state of cutting a text: the place reached, the tokens that wait and the number of those
released, the depth of brackets, the indentations of the open blocks, the innermost first, and the
candidates by their depth of brackets. -/
structure Lexer where
  cursor : Cursor
  waiting : List Token
  released : Nat
  depth : Int
  indent : Int
  outer : List Int
  allowsKey : Bool
  candidates : List (Int × Candidate)
  isDone : Bool

namespace Lexer

def start (s : Source) : Lexer := ⟨.start s, [.streamStart], 0, 0, -1, [], true, [], false⟩

def inFlow (l : Lexer) : Bool := l.depth != 0

def push (l : Lexer) (t : Token) : Lexer := { l with waiting := l.waiting ++ [t] }

/-- A token put in front of the one with the number given. -/
def insertAt (l : Lexer) (number : Nat) (t : Token) : Lexer :=
  let n := number - l.released
  { l with waiting := l.waiting.take n ++ t :: l.waiting.drop n }

def moved (l : Lexer) (n : Nat) : Lexer := { l with cursor := l.cursor.moved n }

def candidate? (l : Lexer) : Option Candidate := l.candidates.lookup l.depth

/-- The state without the candidate at the present depth. -/
def withoutCandidate (l : Lexer) : Lexer :=
  { l with candidates := l.candidates.filter fun e => e.1 != l.depth }

/-- Give up the candidate at the present depth. It must not be required. -/
def dropCandidate (l : Lexer) : Except Fault Lexer :=
  match l.candidate? with
  | none => .ok l
  | some k => if k.isRequired then l.cursor.refuse else .ok l.withoutCandidate

/-- Is a candidate out of reach? A key stands on one line and is not too long. -/
def isStale (c : Cursor) (k : Candidate) : Bool := k.line != c.line || 1024 < c.index - k.index

/-- Give up the candidates that are out of reach. None of them may be required. -/
def dropStale (l : Lexer) : Except Fault Lexer :=
  if l.candidates.any fun e => isStale l.cursor e.2 && e.2.isRequired then l.cursor.refuse
  else .ok { l with candidates := l.candidates.filter fun e => !isStale l.cursor e.2 }

/-- Note a candidate at the present place, if a key may stand there. -/
def saveCandidate (l : Lexer) : Except Fault Lexer :=
  if l.allowsKey then do
    let required := !l.inFlow && l.indent == l.cursor.column
    let number := l.released + l.waiting.length
    let k : Candidate := ⟨number, required, l.cursor.index, l.cursor.line, l.cursor.column⟩
    let l ← l.dropCandidate
    return { l with candidates := l.candidates ++ [(l.depth, k)] }
  else .ok l

/-- The blocks that end at an indentation, and the state without them. -/
def closed (column : Int) : List Int → Int → List Token → Int × List Int × List Token
  | [], indent, ends => (indent, [], ends)
  | o :: outer, indent, ends =>
    if column < indent then closed column outer o (ends ++ [.blockEnd])
    else (indent, o :: outer, ends)

/-- End the blocks that are indented further than a column. Between brackets there are none. -/
def unwind (l : Lexer) (column : Int) : Lexer :=
  if l.inFlow then l
  else
    let (indent, outer, ends) := closed column l.outer l.indent []
    { l with indent, outer, waiting := l.waiting ++ ends }

/-- Begin a block at a column, if it is further in than the present one. -/
def opens (l : Lexer) (column : Nat) : Bool := l.indent < column

/-- The state with a block begun at a column. -/
def opened (l : Lexer) (column : Nat) : Lexer :=
  { l with outer := l.indent :: l.outer, indent := column }

/-- Go to the next token: over spaces, comments and line breaks. Outside brackets a key may stand
on a new line. -/
def toNext : Nat → Lexer → Lexer
  | 0, l => l
  | n + 1, l =>
    let c := (l.cursor.skip (· == ' ')).skipComment
    if isBreak c.peek then
      toNext n { l with cursor := c.lineBreak.2, allowsKey := l.allowsKey || !l.inFlow }
    else { l with cursor := c }

/-- Go over a byte order mark at the beginning of the text. -/
def overMark (l : Lexer) : Lexer :=
  if l.cursor.index = 0 ∧ l.cursor.peek = '\uFEFF' then l.moved 1 else l

def atEnd (l : Lexer) : Except Fault Lexer := do
  let l ← (l.unwind (-1)).dropCandidate
  return { l.push .streamEnd with allowsKey := false, candidates := [], isDone := true }

def atDirective (l : Lexer) : Except Fault Lexer := do
  let l ← (l.unwind (-1)).dropCandidate
  let (t, c) ← Token.readDirective l.cursor
  return { l.push t with cursor := c, allowsKey := false }

def atMarker (t : Token) (l : Lexer) : Except Fault Lexer := do
  let l ← (l.unwind (-1)).dropCandidate
  return { (l.push t).moved 3 with allowsKey := false }

def atOpening (t : Token) (l : Lexer) : Except Fault Lexer := do
  let l ← l.saveCandidate
  return { (l.push t).moved 1 with depth := l.depth + 1, allowsKey := true }

def atClosing (t : Token) (l : Lexer) : Except Fault Lexer := do
  let l ← l.dropCandidate
  return { (l.push t).moved 1 with depth := l.depth - 1, allowsKey := false }

def atComma (l : Lexer) : Except Fault Lexer := do
  let l ← l.dropCandidate
  return { (l.push .flowEntry).moved 1 with allowsKey := true }

/-- Outside brackets, begin a block where one may begin. -/
def begin (t : Token) (l : Lexer) : Except Fault Lexer :=
  if l.inFlow then .ok l
  else if !l.allowsKey then l.cursor.refuse
  else if l.opens l.cursor.column then .ok ((l.opened l.cursor.column).push t)
  else .ok l

def atEntry (l : Lexer) : Except Fault Lexer := do
  let l ← (← l.begin .blockSequenceStart).dropCandidate
  return { (l.push .blockEntry).moved 1 with allowsKey := true }

def atKey (l : Lexer) : Except Fault Lexer := do
  let l ← (← l.begin .blockMappingStart).dropCandidate
  return { (l.push .key).moved 1 with allowsKey := !l.inFlow }

/-- A candidate turns out to be a key. -/
def confirm (l : Lexer) (k : Candidate) : Lexer :=
  let l := l.withoutCandidate.insertAt k.token .key
  let l := if !l.inFlow && l.opens k.column then
      (l.opened k.column).insertAt k.token .blockMappingStart
    else l
  { l with allowsKey := false }

def atColon (l : Lexer) : Except Fault Lexer := do
  let l ← match l.candidate? with
    | some k => pure (l.confirm k)
    | none => do
      let l ← (← l.begin .blockMappingStart).dropCandidate
      pure { l with allowsKey := !l.inFlow }
  return (l.push .value).moved 1

/-- A token that may be a key, or the beginning of one. -/
def atCandidate (read : Cursor → Except Fault (Token × Cursor)) (l : Lexer) :
    Except Fault Lexer := do
  let l ← l.saveCandidate
  let (t, c) ← read l.cursor
  return { l.push t with cursor := c, allowsKey := false }

def atQuote (double : Bool) : Lexer → Except Fault Lexer :=
  atCandidate fun c => (QuotedScalar.read double c).map fun r => (.scalar r.1 false, r.2)

def atBlock (isFolded : Bool) (l : Lexer) : Except Fault Lexer := do
  let l ← l.dropCandidate
  let (text, c) ← BlockScalar.read isFolded (max 1 (l.indent + 1)).toNat l.cursor
  return { l.push (.scalar text false) with cursor := c, allowsKey := true }

def atPlain (l : Lexer) : Except Fault Lexer := do
  let l ← l.saveCandidate
  let (text, c, ended) := Plain.read l.inFlow (l.indent + 1) l.cursor
  return { l.push (.scalar text true) with cursor := c, allowsKey := ended }

/-- A character that begins no plain scalar by itself. -/
def isIndicator (c : Char) : Bool := "-?:,[]\x7b\x7d#&*!|>'\"%@\x60".toList.contains c

/-- Does a plain scalar begin here? -/
def beginsPlain (l : Lexer) : Bool :=
  let ch := l.cursor.peek
  !(isBlankOrEnd ch || isIndicator ch) ||
    (!isBlankOrEnd (l.cursor.peekAt 1) && (ch == '-' || (!l.inFlow && (ch == '?' || ch == ':'))))

/-- Does a character begin a token by what stands behind it? -/
def asksBehind (inFlow : Bool) (ch : Char) : Bool :=
  "-%@\x60\t".toList.contains ch || (if inFlow then "|>" else "?:").toList.contains ch

/-- Note what is asked for to tell which token begins here. -/
def asking (l : Lexer) : Lexer :=
  let c := l.cursor
  let c := if c.column = 0 ∧ (c.peek = '-' ∨ c.peek = '.') then c.askingTriple [c.peek] else c
  { l with cursor := if asksBehind l.inFlow c.peek then c.asking 2 else c }

/-- Read the token at the place reached, told by its first character. -/
def dispatch (l : Lexer) : Except Fault Lexer :=
  let l := l.asking
  let c := l.cursor
  let ch := c.peek
  let stands := isBlankOrEnd (c.peekAt 1)
  let marks := l.inFlow || stands
  if ch = '\x00' then l.atEnd
  else if ch = '%' ∧ c.column = 0 then l.atDirective
  else if ch = '-' ∧ c.column = 0 ∧ c.isMarker '-' = true then l.atMarker .documentStart
  else if ch = '.' ∧ c.column = 0 ∧ c.isMarker '.' = true then l.atMarker .documentEnd
  else if ch = '[' then l.atOpening .flowSequenceStart
  else if ch = '{' then l.atOpening .flowMappingStart
  else if ch = ']' then l.atClosing .flowSequenceEnd
  else if ch = '}' then l.atClosing .flowMappingEnd
  else if ch = ',' then l.atComma
  else if ch = '-' ∧ stands = true then l.atEntry
  else if ch = '?' ∧ marks = true then l.atKey
  else if ch = ':' ∧ marks = true then l.atColon
  else if ch = '*' then
    l.atCandidate fun c => (Token.anchorName c).map fun r => (.alias r.1, r.2)
  else if ch = '&' then
    l.atCandidate fun c => (Token.anchorName c).map fun r => (.anchor r.1, r.2)
  else if ch = '!' then l.atCandidate Token.readTag
  else if ch = '|' ∧ l.inFlow = false then l.atBlock false
  else if ch = '>' ∧ l.inFlow = false then l.atBlock true
  else if ch = '\'' then l.atQuote false
  else if ch = '"' then l.atQuote true
  else if l.beginsPlain then l.atPlain
  else c.refuse

/-- Read one token more. To open a step of cutting is not to open the reading of a token. -/
@[irreducible] def fetch (l : Lexer) : Except Fault Lexer := do
  let l := toNext (l.cursor.rest.length + 1) l.overMark
  let l ← l.dropStale
  (l.unwind l.cursor.column).dispatch

/-- Does the first token that waits belong to a candidate? -/
def isPending (l : Lexer) : Bool := l.candidates.any fun e => e.2.token ≤ l.released

/-- Release the first tokens, at most as many as the number given, that belong to no candidate. -/
def release : Nat → Lexer → List Token × Lexer
  | 0, l => ([], l)
  | n + 1, l =>
    if l.isDone || !l.isPending then
      match l.waiting with
      | [] => ([], l)
      | t :: waiting =>
        let (ts, l) := release n { l with waiting, released := l.released + 1 }
        (t :: ts, l)
    else ([], l)

/-- Tokens, and the fault behind the last of them if there is one. -/
structure Stream where
  tokens : List Token
  fault : Option Fault

/-- Cut a text by at most as many steps as the number given. -/
def run : Nat → Lexer → Stream
  | 0, _ => ⟨[], none⟩
  | n + 1, l =>
    let l := if l.isDone || l.waiting.isEmpty then .ok l else l.dropStale
    match l with
    | .error f => ⟨[], some f⟩
    | .ok l =>
      let (ts, l) := l.release l.waiting.length
      if l.isDone then ⟨ts, none⟩
      else
        match l.fetch with
        | .error f => ⟨ts, some f⟩
        | .ok l =>
          match l.cursor.overrun? with
          | some f => ⟨ts, some f⟩
          | none =>
            let rest := run n l
            ⟨ts ++ rest.tokens, rest.fault⟩

/-- The tokens of a text. Every step but the last reads a character. -/
def tokens (s : Source) : Stream := run (s.text.length + 2) (start s)

end Lexer
end TestBench.Yaml
