import TestBench.Value.Basic

/-! Equality of values. `alike` is equality of plain data: numbers are compared exactly whatever
their type, a list and a tuple are never equal, sets and dictionaries have no order. `equal` also
asks objects, the left one first, and fails where they do. Without objects the two agree. -/
namespace TestBench

/-- A number that equality can compare: all but the one that is no number. -/
inductive Number
  | exact (x : Double.Exact)
  | infinite (negative : Bool)

def Number.same : Number → Number → Bool
  | .exact x, .exact y => x.same y
  | .infinite s, .infinite t => s == t
  | _, _ => false

namespace Value

/-- The number that a value is, if it is one. The truth values count as one and zero. -/
def number? : Value → Option Number
  | .bool b => some (.exact (.ofInt (if b then 1 else 0)))
  | .int n => some (.exact (.ofInt n))
  | .double (.finite s m e) => some (.exact (Double.exact s m e))
  | .double (.infinite s) => some (.infinite s)
  | _ => Option.none

def sameNumber (a b : Value) : Bool :=
  match a.number?, b.number? with
  | some x, some y => x.same y
  | _, _ => false

mutual

/-- Equality of plain data. An object is like nothing, and neither is what is no number. -/
def alike : Value → Value → Bool
  | .none, .none => true
  | .text s, .text t => s == t
  | .bytes s, .bytes t => s == t
  | .list xs, .list ys => allAlike xs ys
  | .tuple xs, .tuple ys => allAlike xs ys
  | .set xs, .set ys => xs.length == ys.length && within xs ys
  | .set xs, .frozenSet ys => xs.length == ys.length && within xs ys
  | .frozenSet xs, .set ys => xs.length == ys.length && within xs ys
  | .frozenSet xs, .frozenSet ys => xs.length == ys.length && within xs ys
  | .dict es, .dict fs => es.length == fs.length && entriesWithin es fs
  | .date s, .date t => s == t
  | .moment s, .moment t => s.same t
  | a, b => sameNumber a b
termination_by structural a => a

/-- Equality of two rows of values, one by one. -/
def allAlike : List Value → List Value → Bool
  | [], [] => true
  | x :: xs, y :: ys => alike x y && allAlike xs ys
  | _, _ => false
termination_by structural xs => xs

/-- Is every one of these values like one of those? -/
def within : List Value → List Value → Bool
  | [], _ => true
  | x :: xs, ys => ys.any (alike x) && within xs ys
termination_by structural xs => xs

/-- Has every one of these keys a like key among those, with a like value? -/
def entriesWithin : List (Value × Value) → List (Value × Value) → Bool
  | [], _ => true
  | (k, v) :: es, fs =>
    (match fs.find? fun f => alike k f.1 with
      | some f => alike v f.2
      | Option.none => false) && entriesWithin es fs
termination_by structural es => es

end

mutual

/-- Equality of two values that are not the same object. An object that has an equality of its own
is asked, the left one first, and the truth of its answer counts. -/
def equal : Value → Value → Except Fault Bool
  | .object _ (some answer) _, _ => answer.toExcept >>= truth
  | _, .object _ (some answer) _ => answer.toExcept >>= truth
  | .list xs, .list ys => if xs.length = ys.length then allEqual xs ys else .ok false
  | .tuple xs, .tuple ys => allEqual xs ys
  | .dict es, .dict fs => if es.length = fs.length then entriesEqual es fs else .ok false
  | a, b => .ok (alike a b)
termination_by structural a => a

/-- Equality of two rows of values, one by one up to the first difference. -/
def allEqual : List Value → List Value → Except Fault Bool
  | [], [] => .ok true
  | x :: xs, y :: ys =>
    match equal x y with
    | .ok true => allEqual xs ys
    | other => other
  | _, _ => .ok false
termination_by structural xs => xs

/-- Have these entries like keys among those, with equal values? -/
def entriesEqual : List (Value × Value) → List (Value × Value) → Except Fault Bool
  | [], _ => .ok true
  | (k, v) :: es, fs =>
    match fs.find? fun f => alike k f.1 with
    | Option.none => .ok false
    | some f =>
      match equal v f.2 with
      | .ok true => entriesEqual es fs
      | other => other
termination_by structural es => es

end

/-- Equality of a value with itself, as one object. What a container holds is the same object on
both sides and not asked. -/
def equalSelf : Value → Except Fault Bool
  | .double .nan => .ok false
  | .object _ (some answer) _ => answer.toExcept >>= truth
  | _ => .ok true

/-- Members of a set in the order in which they first came. -/
def members (xs : List Value) : List Value :=
  xs.foldl (fun seen x => if seen.any (alike x) then seen else seen ++ [x]) []

/-- Entries with one more: a like key stays in its place and takes the new value. -/
def insertEntry (k v : Value) : List (Value × Value) → List (Value × Value)
  | [] => [(k, v)]
  | (k', v') :: es => if alike k k' then (k', v) :: es else (k', v') :: insertEntry k v es

/-- A dictionary of entries, of which a later one replaces the value of an earlier one. -/
def dictOf (es : List (Value × Value)) : Value :=
  .dict (es.foldl (fun d e => insertEntry e.1 e.2 d) [])

end Value
end TestBench
