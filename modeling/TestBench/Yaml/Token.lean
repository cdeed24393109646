import TestBench.Text.Integer
import TestBench.Text.Utf8
import TestBench.Yaml.QuotedScalar
import TestBench.Yaml.BlockScalar

/-! Tokens of a YAML text, and reading those that begin with a character of their own: anchors,
aliases, tags and directives. -/
namespace TestBench.Yaml

/-- What a line that begins with a percent sign says. -/
inductive Directive
  | version (major minor : Nat)
  | handle (name replacement : String)
  | reserved

/-- A token. A tag may have a handle, which a directive replaces by a longer text. -/
inductive Token
  | streamStart
  | streamEnd
  | directive (d : Directive)
  | documentStart
  | documentEnd
  | blockSequenceStart
  | blockMappingStart
  | blockEnd
  | flowSequenceStart
  | flowSequenceEnd
  | flowMappingStart
  | flowMappingEnd
  | blockEntry
  | flowEntry
  | key
  | value
  | anchor (name : String)
  | alias (name : String)
  | tag (handle : Option String) (suffix : String)
  | scalar (text : List Char) (isPlain : Bool)

namespace Token

def name (c : Cursor) : Except Fault (String × Cursor) :=
  let (cs, c) := c.span isNameChar
  if cs = [] then c.refuse else .ok (String.ofList cs, c)

/-- A character that may follow the name of an anchor. -/
def mayFollowAnchor (c : Char) : Bool := isBlankOrEnd c || "?:,]\x7d%@\x60".toList.contains c

/-- The name of an anchor or of an alias, read from the character before it on. -/
def anchorName (c : Cursor) : Except Fault (String × Cursor) := do
  let (text, c) ← name c.step
  if mayFollowAnchor c.peek then return (text, c) else c.refuse

def isTagChar (c : Char) : Bool :=
  c.isAlphanum || "-;/?:@&=+$,_.!~*'()[]".toList.contains c

/-- The bytes that escapes stand for, each a percent sign and two digits. -/
def escapedBytes : Nat → Cursor → Except Fault (List UInt8 × Cursor)
  | 0, c => .ok ([], c)
  | n + 1, c =>
    if c.peek = '%' then
      let c := QuotedScalar.askingHex 2 c.step
      match QuotedScalar.hex? c.rest 2 with
      | none => c.refuse
      | some b => do
        let (bs, c) ← escapedBytes n (c.moved 2)
        return (UInt8.ofNat b :: bs, c)
    else .ok ([], c)

/-- The text of a tag, in which escapes stand for the bytes of characters. -/
def tagText : Nat → Cursor → Except Fault (List Char × Cursor)
  | 0, c => .ok ([], c)
  | n + 1, c => do
    let (run, c) := c.span isTagChar
    if c.peek = '%' then
      let (bs, c) ← escapedBytes (c.rest.length + 1) c
      match Text.Utf8.decode bs with
      | .error _ => c.refuse
      | .ok cs =>
        let (more, c) ← tagText n c
        return (run ++ cs ++ more, c)
    else return (run, c)

def tagSuffix (c : Cursor) : Except Fault (String × Cursor) := do
  let (cs, after) ← tagText (c.rest.length + 1) c
  if after.index = c.index then after.refuse else return (String.ofList cs, after)

/-- A handle: an exclamation mark, or a name between two of them. -/
def tagHandle (c : Cursor) : Except Fault (String × Cursor) :=
  if c.peek ≠ '!' then c.refuse
  else if c.peekAt 1 = ' ' then .ok ("!", c.step)
  else
    let (cs, c) := c.step.span isNameChar
    if c.peek = '!' then .ok ("!" ++ String.ofList cs ++ "!", c.step) else c.refuse

/-- The number of characters behind the first one of a tag that stand before a space, before the end
of the line, or before another exclamation mark. -/
def headLength (c : Cursor) : Nat :=
  ((c.rest.drop 1).takeWhile fun ch => !(isSpaceOrEnd ch || ch == '!')).length

/-- Does a handle come before the rest of a tag? -/
def hasHandle (c : Cursor) : Bool := c.peekAt (headLength c + 1) == '!'

/-- Read a tag: one between angle brackets, a lone exclamation mark, or a text behind a handle. -/
def readTag (c : Cursor) : Except Fault (Token × Cursor) := do
  let c := c.asking 2
  let (t, c) ←
    if c.peekAt 1 = '<' then do
      let (suffix, c) ← tagSuffix (c.moved 2)
      if c.peek = '>' then pure (Token.tag none suffix, c.step) else c.refuse
    else if isBlankOrEnd (c.peekAt 1) then pure (Token.tag none "!", c.step)
    else do
      let c := c.asking (headLength c + 2)
      let (handle, c) ← if hasHandle c then tagHandle c else pure ("!", c.step)
      let (suffix, c) ← tagSuffix c
      pure (Token.tag (some handle) suffix, c)
  if isSpaceOrEnd c.peek then return (t, c) else c.refuse

def versionNumber (c : Cursor) : Except Fault (Nat × Cursor) :=
  let (ds, c) := c.span Char.isDigit
  if ds = [] then c.refuse
  else
    match Text.Integer.readMagnitude 10 ds ds with
    | .ok n => .ok (n, c)
    | .error f => .error (c.fault (.value (.say "ValueError" f.message)))

def version (c : Cursor) : Except Fault (Directive × Cursor) := do
  let (major, c) ← versionNumber (c.skip (· == ' '))
  if c.peek ≠ '.' then c.refuse
  let (minor, c) ← versionNumber c.step
  if isSpaceOrEnd c.peek then return (.version major minor, c) else c.refuse

def handle (c : Cursor) : Except Fault (Directive × Cursor) := do
  let (name, c) ← tagHandle (c.skip (· == ' '))
  if c.peek ≠ ' ' then c.refuse
  let (replacement, c) ← tagSuffix (c.skip (· == ' '))
  if isSpaceOrEnd c.peek then return (.handle name replacement, c) else c.refuse

/-- Read a directive from its percent sign on. -/
def readDirective (c : Cursor) : Except Fault (Token × Cursor) := do
  let (text, c) ← name c.step
  if !isSpaceOrEnd c.peek then c.refuse
  let (d, c) ← if text = "YAML" then version c
    else if text = "TAG" then handle c
    else pure (Directive.reserved, c.skip (!isBreakOrEnd ·))
  return (.directive d, ← c.blankLine)

end Token
end TestBench.Yaml
