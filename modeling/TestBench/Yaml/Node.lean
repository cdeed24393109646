import TestBench.Yaml.Event
import TestBench.Yaml.Tag

/-! Nodes of a YAML document. They are told by numbers, because an alias stands for a node that
has been met before, perhaps for one that is not complete yet. -/
namespace TestBench.Yaml

/-- What a node holds: a text, or the numbers of other nodes. -/
inductive Content
  | scalar (text : List Char)
  | sequence (items : List Nat)
  | mapping (entries : List (Nat × Nat))

structure Node where
  tag : Tag
  content : Content

/-- The nodes of a document, by their numbers. -/
structure Graph where
  nodes : Array Node

namespace Graph

/-- A node that stands where there is none. -/
def absent : Node := ⟨.unknown, .scalar []⟩

def get (g : Graph) (n : Nat) : Node := g.nodes.getD n absent

/-- The graph with a new node, whose number is the count of those before. -/
def push (g : Graph) (node : Node) : Graph := ⟨g.nodes.push node⟩

def setContent (g : Graph) (n : Nat) (content : Content) : Graph :=
  ⟨g.nodes.modify n fun node => { node with content }⟩

def setTag (g : Graph) (n : Nat) (tag : Tag) : Graph :=
  ⟨g.nodes.modify n fun node => { node with tag }⟩

end Graph

/-- The state of putting nodes together: the events that are left, the nodes so far, and those
that bear an anchor. -/
structure Assembly where
  events : List Event
  graph : Graph
  anchors : List (String × Nat)

namespace Assembly

/-- What comes of a step. Without a fault of its own it needs an event where there are none left. -/
abbrev Assembling := Except (Option Fault)

def take (a : Assembly) : Assembling (Event × Assembly) :=
  match a.events with
  | [] => .error none
  | e :: events => .ok (e, { a with events })

def look (a : Assembly) : Assembling Event :=
  match a.events with
  | [] => .error none
  | e :: _ => .ok e

/-- An anchor may be set once only. -/
def checkAnchor (a : Assembly) : Option String → Assembling Unit
  | none => .ok ()
  | some name => if (a.anchors.lookup name).isSome then .error (some .reference) else .ok ()

/-- Add a node, under its anchor if it has one. -/
def add (a : Assembly) (anchor : Option String) (node : Node) : Nat × Assembly :=
  let n := a.graph.nodes.size
  let anchors := match anchor with
    | none => a.anchors
    | some name => (name, n) :: a.anchors
  (n, { a with graph := a.graph.push node, anchors })

def fill (a : Assembly) (n : Nat) (content : Content) : Assembly :=
  { a with graph := a.graph.setContent n content }

/-- The greatest number of sequences and mappings that may lie inside each other. -/
def deepestNesting : Nat := 489

/-- The fault of a node that lies too deep inside others. -/
def tooDeep : Fault := .value (.say "RecursionError" "maximum recursion depth exceeded")

mutual

/-- Put a node together that lies inside `level` others, with no more steps inside each other than
the number given. -/
def node (level : Nat) : Nat → Assembly → Assembling (Nat × Assembly)
  | 0, _ => .error none
  | depth + 1, a => do
    if deepestNesting < level then throw (some tooDeep)
    let (e, a) ← a.take
    match e with
    | .alias name =>
      match a.anchors.lookup name with
      | some n => return (n, a)
      | none => throw (some .reference)
    | .scalar anchor tag text isOpen =>
      a.checkAnchor anchor
      return a.add anchor ⟨.ofScalar tag isOpen text, .scalar text⟩
    | .sequenceStart anchor tag =>
      a.checkAnchor anchor
      let (n, a) := a.add anchor ⟨.ofParts tag .sequence, .sequence []⟩
      let (ns, a) ← items (level + 1) depth a
      return (n, a.fill n (.sequence ns))
    | .mappingStart anchor tag =>
      a.checkAnchor anchor
      let (n, a) := a.add anchor ⟨.ofParts tag .mapping, .mapping []⟩
      let (es, a) ← entries (level + 1) depth a
      return (n, a.fill n (.mapping es))
    | _ => throw none

def items (level : Nat) : Nat → Assembly → Assembling (List Nat × Assembly)
  | 0, _ => .error none
  | depth + 1, a => do
    match ← a.look with
    | .sequenceEnd =>
      let (_, a) ← a.take
      return ([], a)
    | _ =>
      let (n, a) ← node level depth a
      let (ns, a) ← items level depth a
      return (n :: ns, a)

def entries (level : Nat) : Nat → Assembly → Assembling (List (Nat × Nat) × Assembly)
  | 0, _ => .error none
  | depth + 1, a => do
    match ← a.look with
    | .mappingEnd =>
      let (_, a) ← a.take
      return ([], a)
    | _ =>
      let (k, a) ← node level depth a
      let (v, a) ← node level depth a
      let (es, a) ← entries level depth a
      return ((k, v) :: es, a)

end

/-- Put the only document of a text together, if there is one. -/
def document (a : Assembly) : Assembling (Option (Nat × Graph)) := do
  match ← a.look with
  | .streamEnd => return none
  | _ =>
    let (_, a) ← a.take
    let (n, a) ← node 0 (2 * a.events.length + 2) a
    let (_, a) ← a.take
    match ← a.look with
    | .streamEnd => return some (n, a.graph)
    | _ => throw (some .reference)

end Assembly

namespace Graph

/-- The nodes of a text with a single document, and the number of the outermost one. -/
def ofSource (source : Source) : Except Fault (Option (Nat × Graph)) :=
  let s := Event.ofTokens (Lexer.tokens source)
  match Assembly.document ⟨s.events, ⟨#[]⟩, []⟩ with
  | .ok result => .ok result
  | .error (some f) => .error f
  | .error none => .error (s.fault.getD .grammar)

end Graph
end TestBench.Yaml
