import TestBench.Yaml.Lexer

/-! Events of a YAML text: documents, scalars, sequences and mappings as they begin and end. They
come from the tokens by a grammar, of which a stack tells what is still to come. Events depend on no
token behind those that have been looked at. -/
namespace TestBench.Yaml

/-- An event. A scalar without a tag may be `isOpen`: then its text decides what it is. -/
inductive Event
  | documentStart
  | documentEnd
  | streamEnd
  | alias (name : String)
  | scalar (anchor tag : Option String) (text : List Char) (isOpen : Bool)
  | sequenceStart (anchor tag : Option String)
  | sequenceEnd
  | mappingStart (anchor tag : Option String)
  | mappingEnd

inductive Expectation
  | firstDocument
  | document
  | documentEnd
  | content
  | blockNode
  | blockEntry
  | looseEntry
  | blockKey
  | blockValue
  | flowFirst
  | flowEntry
  | pairKey
  | pairValue
  | pairEnd
  | flowFirstKey
  | flowKey
  | flowValue
  | flowNoValue
  | nothing
  deriving DecidableEq, Repr

/-- How a node may be written: as a block, and perhaps as a sequence that is not indented. -/
inductive Style
  | flow
  | block
  | blockOrLoose
  deriving DecidableEq, Repr

/-- The state of reading events: what comes next and what later, the handles of tags, and the
tokens that are left. -/
structure Grammar where
  next : Expectation
  later : List Expectation
  handles : List (String × String)
  tokens : List Token

namespace Grammar

/-- What comes of a step: an event with the state behind it, or a fault. Nothing comes of one that
needs a token where there are none left. -/
abbrev Stepped := Except (Option Fault) (Event × Grammar)

/-- A text that follows no rule. -/
def ungrammatical {α : Type} : Except (Option Fault) α := .error (some .grammar)

def look (g : Grammar) : Except (Option Fault) (Token × List Token) :=
  match g.tokens with
  | [] => .error none
  | t :: ts => .ok (t, ts)

def emptyScalar : Event := .scalar none none [] true

def pop (g : Grammar) : Grammar :=
  match g.later with
  | [] => { g with next := .nothing }
  | e :: later => { g with next := e, later }

/-- Put off what comes after the next thing. -/
def defer (g : Grammar) (e : Expectation) : Grammar := { g with later := e :: g.later }

def ahead (g : Grammar) (tokens : List Token) : Grammar := { g with tokens }

def expect (g : Grammar) (e : Expectation) : Grammar := { g with next := e }

def commonHandles : List (String × String) := [("!", "!"), ("!!", "tag:yaml.org,2002:")]

/-- What directives have set: whether a version was asked for, and handles. -/
structure Directives where
  hasVersion : Bool
  handles : List (String × String)

/-- Read directives, of which none may be given twice. -/
def directives : List Token → Directives → Except (Option Fault) (Directives × List Token)
  | [], _ => .error none
  | .directive (.version major _) :: ts, d =>
    if d.hasVersion || major != 1 then ungrammatical
    else directives ts { d with hasVersion := true }
  | .directive (.handle name replacement) :: ts, d =>
    if (d.handles.lookup name).isSome then ungrammatical
    else directives ts { d with handles := d.handles ++ [(name, replacement)] }
  | .directive .reserved :: ts, d => directives ts d
  | ts, d => .ok (d, ts)

/-- Tokens behind the ends of documents. -/
def afterEnds : List Token → Except (Option Fault) (List Token)
  | [] => .error none
  | .documentEnd :: ts => afterEnds ts
  | ts => .ok ts

/-- A document that begins with a marker, or the end of the text. -/
def document (g : Grammar) : Stepped := do
  match ← afterEnds g.tokens with
  | .streamEnd :: ts => return (.streamEnd, (g.ahead ts).expect .nothing)
  | ts =>
    let (d, ts) ← directives ts ⟨false, []⟩
    match ts with
    | .documentStart :: ts =>
      let handles := d.handles ++ commonHandles
      return (.documentStart, ⟨.content, .documentEnd :: g.later, handles, ts⟩)
    | _ => ungrammatical

/-- The first document, which may begin without a marker. -/
def firstDocument (g : Grammar) : Stepped := do
  match ← g.look with
  | (.directive _, _) => g.document
  | (.documentStart, _) => g.document
  | (.streamEnd, _) => g.document
  | _ => return (.documentStart,
      ⟨.blockNode, .documentEnd :: g.later, commonHandles, g.tokens⟩)

def documentEnd (g : Grammar) : Stepped := do
  match ← g.look with
  | (.documentEnd, ts) => return (.documentEnd, (g.ahead ts).expect .document)
  | _ => return (.documentEnd, g.expect .document)

/-- What may stand before a node: an anchor and a tag, in either order. -/
def properties (ts : List Token) :
    Option String × Option (Option String × String) × List Token :=
  match ts with
  | .anchor a :: .tag h s :: ts => (some a, some (h, s), ts)
  | .anchor a :: ts => (some a, none, ts)
  | .tag h s :: .anchor a :: ts => (some a, some (h, s), ts)
  | .tag h s :: ts => (none, some (h, s), ts)
  | ts => (none, none, ts)

/-- A tag with its handle replaced. -/
def wholeTag (g : Grammar) : Option (Option String × String) → Except (Option Fault) (Option String)
  | none => .ok none
  | some (none, suffix) => .ok (some suffix)
  | some (some handle, suffix) =>
    match g.handles.lookup handle with
    | some text => .ok (some (text ++ suffix))
    | none => ungrammatical

/-- A tag that says something: a lone exclamation mark does not. -/
def meant (tag : Option String) : Option String := if tag = some "!" then none else tag

/-- A node. Only its first tokens are read; what is inside it comes next. -/
def node (style : Style) (g : Grammar) : Stepped := do
  match ← g.look with
  | (.alias name, ts) => return (.alias name, (g.ahead ts).pop)
  | _ =>
    let (anchor, written, rest) := properties g.tokens
    if rest.isEmpty && (g.tokens.drop 1).isEmpty then throw none
    let tag ← g.wholeTag written
    let g := g.ahead rest
    let (t, ts) ← g.look
    match t, style with
    | .blockEntry, .blockOrLoose =>
      return (.sequenceStart anchor (meant tag), g.expect .looseEntry)
    | .scalar text isPlain, _ =>
      let isOpen := (isPlain && tag.isNone) || tag == some "!"
      return (.scalar anchor (meant tag) text isOpen, (g.ahead ts).pop)
    | .flowSequenceStart, _ =>
      return (.sequenceStart anchor (meant tag), (g.ahead ts).expect .flowFirst)
    | .flowMappingStart, _ =>
      return (.mappingStart anchor (meant tag), (g.ahead ts).expect .flowFirstKey)
    | .blockSequenceStart, _ =>
      if style ≠ .flow then
        return (.sequenceStart anchor (meant tag), (g.ahead ts).expect .blockEntry)
      else if anchor.isSome || tag.isSome then
        return (.scalar anchor (meant tag) [] (meant tag).isNone, g.pop)
      else ungrammatical
    | .blockMappingStart, _ =>
      if style ≠ .flow then
        return (.mappingStart anchor (meant tag), (g.ahead ts).expect .blockKey)
      else if anchor.isSome || tag.isSome then
        return (.scalar anchor (meant tag) [] (meant tag).isNone, g.pop)
      else ungrammatical
    | _, _ =>
      if anchor.isSome || tag.isSome then
        return (.scalar anchor (meant tag) [] (meant tag).isNone, g.pop)
      else ungrammatical

/-- A node of a style, or an empty scalar if one of these tokens comes. The first expectation
comes after the one or the other. -/
def nodeUnless (style : Style) (stops : Token → Bool) (after : Expectation) (g : Grammar) :
    Stepped := do
  let (t, _) ← g.look
  if stops t then return (emptyScalar, g.expect after) else (g.defer after).node style

/-- A token that begins an entry or ends a block. -/
def endsEntry : Token → Bool
  | .blockEntry => true
  | .blockEnd => true
  | _ => false

/-- A token that begins an entry, a key or a value, or ends a block. -/
def endsLooseEntry : Token → Bool
  | .blockEntry => true
  | .key => true
  | .value => true
  | .blockEnd => true
  | _ => false

/-- A token that begins a key or a value, or ends a block. -/
def endsPart : Token → Bool
  | .key => true
  | .value => true
  | .blockEnd => true
  | _ => false

/-- A token that ends the key of a pair in a flow sequence. -/
def endsPairKey : Token → Bool
  | .value => true
  | .flowEntry => true
  | .flowSequenceEnd => true
  | _ => false

/-- A token that ends the value of a pair in a flow sequence. -/
def endsPairValue : Token → Bool
  | .flowEntry => true
  | .flowSequenceEnd => true
  | _ => false

/-- A token that ends a key of a flow mapping. -/
def endsFlowKey : Token → Bool
  | .value => true
  | .flowEntry => true
  | .flowMappingEnd => true
  | _ => false

/-- A token that ends a value of a flow mapping. -/
def endsFlowValue : Token → Bool
  | .flowEntry => true
  | .flowMappingEnd => true
  | _ => false

/-- The content of a document, which may be missing. -/
def content (g : Grammar) : Stepped := do
  match ← g.look with
  | (.directive _, _) => return (emptyScalar, g.pop)
  | (.documentStart, _) => return (emptyScalar, g.pop)
  | (.documentEnd, _) => return (emptyScalar, g.pop)
  | (.streamEnd, _) => return (emptyScalar, g.pop)
  | _ => g.node .block

def blockEntry (g : Grammar) : Stepped := do
  match ← g.look with
  | (.blockEntry, ts) => (g.ahead ts).nodeUnless .block endsEntry .blockEntry
  | (.blockEnd, ts) => return (.sequenceEnd, (g.ahead ts).pop)
  | _ => ungrammatical

/-- An entry of a sequence that is not indented, or its end. -/
def looseEntry (g : Grammar) : Stepped := do
  match ← g.look with
  | (.blockEntry, ts) => (g.ahead ts).nodeUnless .block endsLooseEntry .looseEntry
  | _ => return (.sequenceEnd, g.pop)

def blockKey (g : Grammar) : Stepped := do
  match ← g.look with
  | (.key, ts) => (g.ahead ts).nodeUnless .blockOrLoose endsPart .blockValue
  | (.blockEnd, ts) => return (.mappingEnd, (g.ahead ts).pop)
  | _ => ungrammatical

/-- A value of a block mapping, which may be missing. -/
def blockValue (g : Grammar) : Stepped := do
  match ← g.look with
  | (.value, ts) => (g.ahead ts).nodeUnless .blockOrLoose endsPart .blockKey
  | _ => return (emptyScalar, g.expect .blockKey)

/-- The state behind the comma before an entry, if one is needed. -/
def afterComma (isFirst : Bool) (g : Grammar) : Except (Option Fault) Grammar :=
  if isFirst then .ok g
  else
    match g.tokens with
    | .flowEntry :: ts => .ok (g.ahead ts)
    | _ => ungrammatical

def flowEntry (isFirst : Bool) (g : Grammar) : Stepped := do
  match ← g.look with
  | (.flowSequenceEnd, ts) => return (.sequenceEnd, (g.ahead ts).pop)
  | _ =>
    let g ← g.afterComma isFirst
    match ← g.look with
    | (.key, _) => return (.mappingStart none none, g.expect .pairKey)
    | (.flowSequenceEnd, ts) => return (.sequenceEnd, (g.ahead ts).pop)
    | _ => (g.defer .flowEntry).node .flow

def pairKey (g : Grammar) : Stepped := do
  let (_, ts) ← g.look
  (g.ahead ts).nodeUnless .flow endsPairKey .pairValue

/-- The value of a pair in a flow sequence, which may be missing. -/
def pairValue (g : Grammar) : Stepped := do
  match ← g.look with
  | (.value, ts) => (g.ahead ts).nodeUnless .flow endsPairValue .pairEnd
  | _ => return (emptyScalar, g.expect .pairEnd)

def pairEnd (g : Grammar) : Stepped := do
  let _ ← g.look
  return (.mappingEnd, g.expect .flowEntry)

def flowKey (isFirst : Bool) (g : Grammar) : Stepped := do
  match ← g.look with
  | (.flowMappingEnd, ts) => return (.mappingEnd, (g.ahead ts).pop)
  | _ =>
    let g ← g.afterComma isFirst
    match ← g.look with
    | (.key, ts) => (g.ahead ts).nodeUnless .flow endsFlowKey .flowValue
    | (.flowMappingEnd, ts) => return (.mappingEnd, (g.ahead ts).pop)
    | _ => (g.defer .flowNoValue).node .flow

/-- A value of a flow mapping, which may be missing. -/
def flowValue (g : Grammar) : Stepped := do
  match ← g.look with
  | (.value, ts) => (g.ahead ts).nodeUnless .flow endsFlowValue .flowKey
  | _ => return (emptyScalar, g.expect .flowKey)

/-- The missing value of a key that stands alone. -/
def flowNoValue (g : Grammar) : Stepped := do
  let _ ← g.look
  return (emptyScalar, g.expect .flowKey)

def step (g : Grammar) : Stepped :=
  match g.next with
  | .firstDocument => g.firstDocument
  | .document => g.document
  | .documentEnd => g.documentEnd
  | .content => g.content
  | .blockNode => g.node .block
  | .blockEntry => g.blockEntry
  | .looseEntry => g.looseEntry
  | .blockKey => g.blockKey
  | .blockValue => g.blockValue
  | .flowFirst => g.flowEntry true
  | .flowEntry => g.flowEntry false
  | .pairKey => g.pairKey
  | .pairValue => g.pairValue
  | .pairEnd => g.pairEnd
  | .flowFirstKey => g.flowKey true
  | .flowKey => g.flowKey false
  | .flowValue => g.flowValue
  | .flowNoValue => g.flowNoValue
  | .nothing => .error none

end Grammar

namespace Event

/-- Events, and the fault behind the last of them if there is one. -/
structure Stream where
  events : List Event
  fault : Option Fault

/-- Read at most as many events as the number given. Where the tokens are at an end, the fault
behind them counts. -/
def run (behind : Option Fault) : Nat → Grammar → Stream
  | 0, _ => ⟨[], none⟩
  | n + 1, g =>
    match g.step with
    | .error (some f) => ⟨[], some f⟩
    | .error none => ⟨[], behind⟩
    | .ok (e, g) =>
      let rest := run behind n g
      ⟨e :: rest.events, rest.fault⟩

/-- The events of a stream of tokens. No token gives more than four. -/
def ofTokens (s : Lexer.Stream) : Stream :=
  run s.fault (4 * s.tokens.length + 8) ⟨.firstDocument, [], [], s.tokens.drop 1⟩

end Event
end TestBench.Yaml
