import TestBench.Environment
import TestBench.Expansion.Slice
import TestBench.Expansion.Template

/-! Expanding templates. Each variable takes its text from the environment, which a reference may
change for what follows it, even if something fails later on. Expansion goes from left to right
through one environment, and a template without references leaves it alone. -/
namespace TestBench

/-- What comes of expanding: a text, unless something failed, and the environment afterwards. -/
structure Expanded where
  text : Option (List Char)
  environment : Environment

namespace Expanded

/-- The text that variables without one take, if there is one. -/
def fallback? (env : Environment) : Option (List Char) :=
  (env.get? "EXPANDVARS_RECOVER_NULL").map String.toList

/-- The text of a variable, or of the variable that its text names. The outer answer fails when
there is no such text to name one. -/
def lookUp (env : Environment) (name : List Char) (indirect : Bool) : Option (Option (List Char)) :=
  let own := env.get? (String.ofList name)
  if indirect then own.map fun text => (env.get? text).map String.toList
  else some (own.map String.toList)

def isStorable (cs : List Char) : Bool := !cs.contains '\x00'

/-- A text, or another one where it is missing or empty. -/
def orElse (value : Option (List Char)) (other : List Char) : List Char :=
  match value with
  | none => other
  | some [] => other
  | some cs => cs

def isAny (value : Option (List Char)) : Bool := (value.getD []) != []

/-- What a reference with an expanded modifier stands for. When `strict` holds, a variable must
have a text to be used by itself. A length has no modifier that comes to anything. -/
def apply (strict : Bool) (env : Environment) (name : List Char) (use : Use)
    (value : Option (List Char)) (modifier : List Char) : Expanded :=
  match use with
  | .value =>
    match value with
    | some cs => ⟨some cs, env⟩
    | none => ⟨if strict then fallback? env else some [], env⟩
  | .length =>
    ⟨if modifier.isEmpty then some (toString (value.getD []).length).toList else none, env⟩
  | .orElse => ⟨some (orElse value modifier), env⟩
  | .orAssign =>
    if isAny value then ⟨value, env⟩
    else if isStorable modifier then
      ⟨some modifier, env.set (String.ofList name) (String.ofList modifier)⟩
    else ⟨none, env⟩
  | .ifAny => ⟨some (if isAny value then modifier else []), env⟩
  | .required => ⟨if isAny value then value else fallback? env, env⟩
  | .slice => ⟨Slice.of? (value.getD []) modifier, env⟩

end Expanded

mutual

/-- Expand a piece. A modifier is expanded whether it is needed or not; in it, variables need not
have a text. -/
def Piece.expand (strict : Bool) : Piece → Environment → Expanded
  | .char c, env => ⟨some [c], env⟩
  | .broken, env => ⟨none, env⟩
  | .reference name indirect use modifier, env =>
    match Expanded.lookUp env name indirect with
    | none => ⟨none, env⟩
    | some value =>
      let inner := Piece.expandAll false modifier env
      match inner.text with
      | none => ⟨none, inner.environment⟩
      | some text => Expanded.apply strict inner.environment name use value text

/-- Expand pieces from left to right, up to the first that fails. -/
def Piece.expandAll (strict : Bool) : List Piece → Environment → Expanded
  | [], env => ⟨some [], env⟩
  | piece :: pieces, env =>
    let first := piece.expand strict env
    match first.text with
    | none => ⟨none, first.environment⟩
    | some text =>
      let rest := Piece.expandAll strict pieces first.environment
      ⟨rest.text.map (text ++ ·), rest.environment⟩

end

/-- Expand a text in which every variable that is used by itself must have a text. -/
def expand (s : String) (env : Environment) : Expanded :=
  Piece.expandAll true (Piece.readAll s.toList) env

end TestBench
