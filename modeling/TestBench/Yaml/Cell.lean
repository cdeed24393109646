import TestBench.Text.Base64
import TestBench.Text.Lowercase
import TestBench.Value.Equality
import TestBench.Value.Given
import TestBench.Yaml.Merge

/-! Cells: what the nodes of a document are made into, one by one. A scalar becomes a value at once.
A container is filled later, after those that were met before it, so that it may lie inside itself.
Every node gets one cell. -/
namespace TestBench.Yaml

/-- What a node is made into. Containers hold the numbers of nodes; keys are values. -/
inductive Cell
  | plain (v : Value)
  | list (items : List Nat)
  | pairs (entries : List (Nat × Nat))
  | dict (entries : List (Value × Nat))
  | set (keys : List Value)

/-- The text of a scalar, or of the one that a mapping has under a lone equals sign. -/
def Graph.textOf (g : Graph) : Nat → Nat → Except Fault (List Char)
  | 0, _ => .error (.value (.say "RecursionError" "maximum recursion depth exceeded"))
  | depth + 1, n =>
    match (g.get n).content with
    | .scalar text => .ok text
    | .sequence _ => .error .content
    | .mapping es =>
      match es.find? fun e => (g.get e.1).tag == .value with
      | some e => g.textOf depth e.2
      | none => .error .content

namespace Cell

def truthOf (cs : List Char) : Except Fault Value :=
  let word := String.ofList (Text.lower cs)
  if ["yes", "true", "on"].contains word then .ok (.bool true)
  else if ["no", "false", "off"].contains word then .ok (.bool false)
  else .error (.value (.say "KeyError" word))

def bytesOf (cs : List Char) : Except Fault Value :=
  if cs.all fun c => c.toNat < 128 then
    match Text.Base64.decode cs with
    | some bs => .ok (.bytes bs)
    | none => .error .content
  else .error .content

/-- The day or the moment of a node. Only a text of its own can be one. -/
def stampOf (content : Content) : Except Fault Value :=
  match content with
  | .scalar text =>
    match Stamp.read? (Tag.body text) with
    | some s => s.value
    | none => .error (.value
        (.say "AttributeError" "'NoneType' object has no attribute 'groupdict'"))
  | _ => .error (.value (.say "TypeError" "expected string or bytes-like object, got 'list'"))

/-- The cell that a node gets at once. -/
def first (g : Graph) (n : Nat) : Except Fault Cell :=
  let node := g.get n
  let text := g.textOf (g.nodes.size + 1) n
  match node.tag with
  | .null => do
    let _ ← text
    return .plain .none
  | .bool => do return .plain (← truthOf (← text))
  | .int => do return .plain (.int (← Number.toInt (← text)))
  | .float => do return .plain (.double (← Number.toDouble (← text)))
  | .binary => do return .plain (← bytesOf (← text))
  | .timestamp => do
    let _ ← text
    return .plain (← stampOf node.content)
  | .text => do return .plain (.text (String.ofList (← text)))
  | .sequence => .ok (.list [])
  | .orderedMap => .ok (.pairs [])
  | .pairs => .ok (.pairs [])
  | .mapping => .ok (.dict [])
  | .set => .ok (.set [])
  | .merge => .error .content
  | .value => .error .content
  | .unknown => .error .content

/-- Is this cell complete when it is made? -/
def isPlain : Cell → Bool
  | .plain _ => true
  | _ => false

end Cell

/-- The state of making cells: the nodes, the cells so far, and the containers that wait. -/
structure Cells where
  graph : Graph
  cells : Array (Option Cell)
  waiting : List Nat

namespace Cells

def get? (s : Cells) (n : Nat) : Option Cell := (s.cells[n]?).join

def set (s : Cells) (n : Nat) (c : Cell) : Cells :=
  { s with cells := s.cells.setIfInBounds n (some c) }

/-- The state in which a node has a cell. -/
def make (s : Cells) (n : Nat) : Except Fault Cells :=
  match s.get? n with
  | some _ => .ok s
  | none => do
    let c ← Cell.first s.graph n
    let s := s.set n c
    return if c.isPlain then s else { s with waiting := s.waiting ++ [n] }

def makeAll (s : Cells) : List Nat → Except Fault Cells
  | [] => .ok s
  | n :: ns => do (← s.make n).makeAll ns

/-- A key, with the node that it comes from. What is no number comes from nowhere if it is the one
that all documents share. -/
structure Key where
  value : Value
  origin : Option Nat

/-- The key that a node has been made into. -/
def keyOf (s : Cells) (n : Nat) (v : Value) : Key :=
  match v, s.graph.textOf (s.graph.nodes.size + 1) n with
  | .double .nan, .ok text => ⟨v, if Number.isSharedWord text then none else some n⟩
  | _, _ => ⟨v, some n⟩

/-- Are two keys one? A key that is no number is one with itself only. -/
def Key.same (k l : Key) : Bool :=
  match k.value, l.value with
  | .double .nan, .double .nan => k.origin == l.origin
  | a, b => a.alike b

/-- Entries with one more: a key that is there keeps its place and takes the new value. -/
def put (k : Key) (v : Nat) : List (Key × Nat) → List (Key × Nat)
  | [] => [(k, v)]
  | (k', v') :: es => if k.same k' then (k', v) :: es else (k', v') :: put k v es

def makeEntries (s : Cells) : List (Nat × Nat) → List (Key × Nat) →
    Except Fault (List (Key × Nat) × Cells)
  | [], done => .ok (done, s)
  | (k, v) :: es, done => do
    let s ← s.make k
    match s.get? k with
    | some (.plain key) =>
      let key := s.keyOf k key
      let s ← s.make v
      s.makeEntries es (put key v done)
    | _ => throw .content

/-- The entries of a mapping after its merges. -/
def mappingOf (s : Cells) (n : Nat) : Except Fault (List (Value × Nat) × Cells) :=
  if s.graph.isMapping n then do
    let graph ← s.graph.flatten n
    let (es, s) ← { s with graph }.makeEntries (graph.entriesOf n) []
    return (es.map fun e => (e.1.value, e.2), s)
  else .error .content

/-- The only entry of a mapping. -/
def singleOf (g : Graph) (n : Nat) : Except Fault (Nat × Nat) :=
  match (g.get n).content with
  | .mapping [e] => .ok e
  | _ => .error .content

/-- Cells for the pairs that a sequence of mappings with one entry each stands for. -/
def makeSingles (s : Cells) : List Nat → Except Fault (List (Nat × Nat) × Cells)
  | [] => .ok ([], s)
  | n :: ns => do
    let (k, v) ← singleOf s.graph n
    let s ← (← s.make k).make v
    let (es, s) ← s.makeSingles ns
    return ((k, v) :: es, s)

def fill (s : Cells) (n : Nat) : Except Fault Cells := do
  match s.get? n, (s.graph.get n).content with
  | some (.list _), .sequence ns => return (← s.makeAll ns).set n (.list ns)
  | some (.pairs _), .sequence ns =>
    let (es, s) ← s.makeSingles ns
    return s.set n (.pairs es)
  | some (.dict _), _ =>
    let (es, s) ← s.mappingOf n
    return s.set n (.dict es)
  | some (.set _), _ =>
    let (es, s) ← s.mappingOf n
    return s.set n (.set (es.map Prod.fst))
  | _, _ => throw .content

/-- Fill the containers that wait, at most as many as the number given. -/
def fillAll : Nat → Cells → Except Fault Cells
  | 0, s => .ok s
  | more + 1, s =>
    match s.waiting with
    | [] => .ok s
    | n :: waiting => do fillAll more (← { s with waiting }.fill n)

/-- The cells of a document with this outermost node. Each node waits once at most. -/
def ofGraph (g : Graph) (n : Nat) : Except Fault Cells := do
  let s ← (⟨g, Array.replicate g.nodes.size none, []⟩ : Cells).make n
  fillAll (g.nodes.size + 1) s

end Cells

abbrev Place := Nat × Option Nat

/-- The values of nodes that lie on no circle, as far as they are known. -/
abbrev Known := Array (Option Value)

namespace Cells

def shapeOf (s : Cells) : Place → Shape
  | (_, some _) => .tuple
  | (n, none) =>
    match s.get? n with
    | some (.dict _) => .dict
    | some (.set _) => .set
    | _ => .list

/-- How many containers are around the one at a place, if it is among those on a path. -/
def heightIn (path : List Place) (p : Place) : Option Nat :=
  if path.contains p then some (path.length - 1 - path.idxOf p) else none

/-- The outermost of two containers on a path, by their heights. -/
def outer : Option Nat → Option Nat → Option Nat
  | some a, some b => some (min a b)
  | some a, none => some a
  | none, b => b

/-- What comes of unfolding: a value, and the outermost container around it that it holds again. -/
abbrev Unfolded := Value × Option Nat

/-- Several things unfolded. -/
def together (make : List Value → Value) (parts : List Unfolded) : Unfolded :=
  (make (parts.map Prod.fst), (parts.map Prod.snd).foldl outer none)

/-- Unfold what lies at a place within a container: `inside` does so for the rest of the path. A
container that is on the path stands for itself. What lies on no circle is the same everywhere, so
it is unfolded once. -/
def enter (s : Cells) (path : List Place) (p : Place)
    (inside : List Place → StateM Known Unfolded) : StateM Known Unfolded := do
  match heightIn path p, p with
  | some height, _ => return (.cycle (s.shapeOf p), some height)
  | none, (_, some _) => inside (p :: path)
  | none, (n, none) =>
    match ((← get)[n]?).join with
    | some v => return (v, none)
    | none =>
      let (v, held) ← inside (p :: path)
      match held with
      | some height => return (v, if height < path.length then some height else none)
      | none =>
        modify fun known => known.setIfInBounds n (some v)
        return (v, none)

/-- Unfold a node. The path holds the containers around it, the innermost first; the number bounds
how many there are. -/
def unfold (s : Cells) : Nat → List Place → Nat → StateM Known Unfolded
  | 0, _, _ => return (.none, none)
  | depth + 1, path, n =>
    match s.get? n with
    | none => return (.none, none)
    | some (.plain v) => return (v, none)
    | some (.set ks) => return (.set ks, none)
    | some (.list ns) => s.enter path (n, none) fun path => do
      return together .list (← ns.mapM (unfold s depth path))
    | some (.dict es) => s.enter path (n, none) fun path => do
      let vs ← (es.map Prod.snd).mapM (unfold s depth path)
      return together (fun vs => .dict ((es.map Prod.fst).zip vs)) vs
    | some (.pairs es) => s.enter path (n, none) fun path => do
      let ps ← es.zipIdx.mapM fun e => s.enter path (n, some e.2) fun path => do
        return together .tuple [← unfold s depth path e.1.1, ← unfold s depth path e.1.2]
      return together .list ps

/-- No path is longer: it holds a container of every node at most, and two pairs of each. -/
def depth (s : Cells) : Nat := 3 * s.graph.nodes.size + 3

def alone (s : Cells) (unfolding : StateM Known Unfolded) : Value :=
  (unfolding.run (Array.replicate s.graph.nodes.size none)).1.1

def value (s : Cells) (n : Nat) : Value := s.alone (s.unfold s.depth [] n)

/-- The pairs of a node, each by itself. -/
def pairsOf (s : Cells) (n : Nat) (es : List (Nat × Nat)) : List Value :=
  es.zipIdx.map fun e => s.alone <| s.enter [] (n, some e.2) fun path => do
    return together .tuple [← s.unfold s.depth path e.1.1, ← s.unfold s.depth path e.1.2]

/-- The value of a node, with its items seen by themselves. -/
def given (s : Cells) (n : Nat) : Given :=
  match s.get? n with
  | some (.list ns) => ⟨s.value n, some (ns.map s.value)⟩
  | some (.pairs es) => ⟨s.value n, some (s.pairsOf n es)⟩
  | _ => .ofValue (s.value n)

end Cells

/-- A document that has been read: its cells, and the outermost node. -/
structure Document where
  cells : Cells
  root : Nat

namespace Document

def value (d : Document) : Value := d.cells.value d.root

/-- The keys of a document that is a mapping, with what is given for them. -/
def entries? (d : Document) : Option (List (Value × Given)) :=
  match d.cells.get? d.root with
  | some (.dict es) => some (es.map fun e => (e.1, d.cells.given e.2))
  | _ => none

end Document

/-- The only document of a text, if there is one. -/
def load (s : Source) : Except Fault (Option Document) := do
  match ← Graph.ofSource s with
  | none => return none
  | some (n, g) => return some ⟨← Cells.ofGraph g n, n⟩

end TestBench.Yaml
