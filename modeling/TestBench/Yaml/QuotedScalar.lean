import TestBench.Yaml.Plain

/-! Quoted scalars. Between single quotes a doubled quote stands for one, and between double
quotes a backslash begins an escape. Line breaks are folded. -/
namespace TestBench.Yaml.QuotedScalar

/-- The line breaks among spaces, tabs and line breaks. A separator of documents may not come. -/
def breaks : Nat → Cursor → Except Fault (List Char × Cursor)
  | 0, c => .ok ([], c)
  | n + 1, c =>
    let c := c.askingSeparator
    if c.isSeparator then c.refuse
    else
      let c := c.skip fun ch => ch == ' ' || ch == '\t'
      if isBreak c.peek then do
        let (b, c) := c.lineBreak
        let (bs, c) ← breaks n c
        return (b ++ bs, c)
      else .ok ([], c)

/-- What the space between words stands for. The text may not end there. -/
def space (c : Cursor) : Except Fault (List Char × Cursor) :=
  let (spaces, c) := c.span fun ch => ch == ' ' || ch == '\t'
  if c.peek = '\x00' then c.refuse
  else if isBreak c.peek then do
    let (b, c) := c.lineBreak
    let (bs, c) ← breaks (c.rest.length + 1) c
    return (Plain.folded b bs, c)
  else .ok (spaces, c)

def escapes : List (Char × Char) := [
  ('0', '\x00'), ('a', '\x07'), ('b', '\x08'), ('t', '\t'), ('\t', '\t'), ('n', '\n'),
  ('v', '\x0b'), ('f', '\x0c'), ('r', '\r'), ('e', '\x1b'), (' ', ' '), ('"', '"'),
  ('\\', '\\'), ('/', '/'), ('N', '\x85'), ('_', '\xa0'), ('L', '\u2028'), ('P', '\u2029')]

/-- The number of digits behind a letter that begins the code of a character. -/
def codeLength? (c : Char) : Option Nat :=
  if c == 'x' then some 2 else if c == 'u' then some 4 else if c == 'U' then some 8 else none

def hexValue? (c : Char) : Option Nat :=
  if '0' ≤ c ∧ c ≤ '9' then some (c.toNat - '0'.toNat)
  else if 'a' ≤ c ∧ c ≤ 'f' then some (c.toNat - 'a'.toNat + 10)
  else if 'A' ≤ c ∧ c ≤ 'F' then some (c.toNat - 'A'.toNat + 10)
  else none

/-- The number that so many digits to base sixteen stand for. -/
def hex? (cs : List Char) (length : Nat) : Option Nat :=
  let ds := (cs.take length).filterMap hexValue?
  if ds.length = length then some (ds.foldl (fun n d => n * 16 + d) 0) else none

/-- Note what is asked for to read so many digits to base sixteen, up to the first that is none. -/
def askingHex (length : Nat) (c : Cursor) : Cursor :=
  let digits := (c.rest.take length).takeWhile fun ch => (hexValue? ch).isSome
  c.asking (min length (digits.length + 1))

def charOfCode (n : Nat) : Except Fault Char :=
  if n < 0x110000 then .ok (Char.ofNat n)
  else if n < Nat.pow 2 31 then .error (.value (.say "ValueError" "chr() arg not in range(0x110000)"))
  else .error (.value (.say "OverflowError" "Python int too large to convert to C int"))

/-- What an escape stands for, read behind its backslash. -/
def escape (c : Cursor) : Except Fault (List Char × Cursor) :=
  match escapes.lookup c.peek with
  | some ch => .ok ([ch], c.step)
  | none =>
    match codeLength? c.peek with
    | some length =>
      let c := askingHex length c.step
      match hex? c.rest length with
      | some n =>
        match charOfCode n with
        | .ok ch => .ok ([ch], c.moved length)
        | .error f => .error (c.fault f)
      | none => c.refuse
    | none =>
      if isBreak c.peek then
        let (_, c) := c.lineBreak
        breaks (c.rest.length + 1) c
      else c.refuse

/-- A character that stands for itself in every quoted scalar. -/
def isOrdinary (c : Char) : Bool := !(isBlankOrEnd c || c == '\'' || c == '"' || c == '\\')

def word (double : Bool) : Nat → Cursor → Except Fault (List Char × Cursor)
  | 0, c => .ok ([], c)
  | n + 1, c => do
    let (run, c) := c.span isOrdinary
    let ch := c.peek
    if !double && ch == '\'' && c.peekAt 1 == '\'' then
      let (more, c) ← word double n (c.moved 2)
      return (run ++ '\'' :: more, c)
    else if (double && ch == '\'') || (!double && (ch == '"' || ch == '\\')) then
      let (more, c) ← word double n c.step
      return (run ++ ch :: more, c)
    else if double && ch == '\\' then
      let (one, c) ← escape c.step
      let (more, c) ← word double n c
      return (run ++ one ++ more, c)
    else return (run, c)

/-- Read words and the spaces between them up to the closing quote. -/
def words (double : Bool) (quote : Char) : Nat → Cursor → Except Fault (List Char × Cursor)
  | 0, c => c.refuse
  | n + 1, c => do
    let (text, c) ← word double (c.rest.length + 1) c
    if c.peek = quote then return (text, c.step)
    else
      let (between, c) ← space c
      let (more, c) ← words double quote n c
      return (text ++ between ++ more, c)

def read (double : Bool) (c : Cursor) : Except Fault (List Char × Cursor) :=
  words double (if double then '"' else '\'') (c.rest.length + 1) c.step

end TestBench.Yaml.QuotedScalar
