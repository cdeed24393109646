import TestBench.Yaml.Node

/-! Merge keys: the entries of the mappings that they name come before those of their own mapping,
so that a key of its own counts. A mapping that has been merged has no merge key any more. -/
namespace TestBench.Yaml.Graph

/-- The entries of a mapping; anything else has none. -/
def entriesOf (g : Graph) (n : Nat) : List (Nat × Nat) :=
  match (g.get n).content with
  | .mapping es => es
  | _ => []

def isMapping (g : Graph) (n : Nat) : Bool :=
  match (g.get n).content with
  | .mapping _ => true
  | _ => false

def mergeCount (g : Graph) : Nat :=
  ((List.range g.nodes.size).flatMap g.entriesOf).countP fun e => (g.get e.1).tag == .merge

/-- Merge several mappings. The entries of an earlier one come later. -/
def mergeAll (flatten : Nat → Graph → Except Fault Graph) :
    List Nat → Graph → Except Fault (List (Nat × Nat) × Graph)
  | [], g => .ok ([], g)
  | n :: ns, g =>
    if g.isMapping n then do
      let g ← flatten n g
      let es := g.entriesOf n
      let (rest, g) ← mergeAll flatten ns g
      return (rest ++ es, g)
    else .error .content

/-- The entries that a merge key stands for. -/
def mergedOf (flatten : Nat → Graph → Except Fault Graph) (value : Nat) (g : Graph) :
    Except Fault (List (Nat × Nat) × Graph) :=
  match (g.get value).content with
  | .mapping _ => do
    let g ← flatten value g
    return (g.entriesOf value, g)
  | .sequence ns => mergeAll flatten ns g
  | .scalar _ => .error .content

/-- Go over the entries of a mapping from an index on, at most as many as the first number tells,
and put what is merged before them. A key that is a lone equals sign is a text. -/
def flattenFrom (flatten : Nat → Graph → Except Fault Graph) (n : Nat) :
    Nat → Nat → List (Nat × Nat) → Graph → Except Fault Graph
  | 0, _, merged, g =>
    .ok (if merged = [] then g else g.setContent n (.mapping (merged ++ g.entriesOf n)))
  | more + 1, index, merged, g =>
    match (g.entriesOf n)[index]? with
    | none => flattenFrom flatten n more index merged g
    | some (k, v) =>
      if (g.get k).tag = .merge then do
        let (es, g) ←
          mergedOf flatten v (g.setContent n (.mapping ((g.entriesOf n).eraseIdx index)))
        flattenFrom flatten n more index (merged ++ es) g
      else if (g.get k).tag = .value then
        flattenFrom flatten n more (index + 1) merged (g.setTag k .text)
      else flattenFrom flatten n more (index + 1) merged g

/-- Merge a mapping, with no more merges inside each other than the number given. -/
def flattenUpTo : Nat → Nat → Graph → Except Fault Graph
  | 0, _, g => .ok g
  | depth + 1, n, g =>
    flattenFrom (flattenUpTo depth) n (g.entriesOf n).length 0 [] g

/-- Merge a mapping. Every merge inside another one takes a merge key away. -/
def flatten (n : Nat) (g : Graph) : Except Fault Graph := flattenUpTo (g.mergeCount + 1) n g

end TestBench.Yaml.Graph
