import TestBench.Step

/-! Scripts: the files that modules are made from. A script may be malformed; otherwise it imports
other modules, defines attributes, and may fail at the end. -/
namespace TestBench

/-- What a name of a module stands for. A `submodule` is told by its full name, last part first.
What a module has `inherited` from its type can be called; called with a context, it may refuse. A
`thing` is what a class has made. An `origin` tells where a module comes from and whether its script
is still under way, and `portions` are the directories of a namespace. -/
inductive Attribute
  | function (steps : List Step) (tag : String)
  | class (steps : List Step) (tag : String)
  | withoutParameters
  | value (v : Value)
  | submodule (name : List String)
  | inherited (isType : Bool) (refusal : Option String)
  | thing (type : String)
  | origin (underWay : Bool)
  | portions

/-- Why a file cannot be read as a script at all: a bracket in its second line is never closed, or
a number in the line given begins with a zero. -/
inductive Malformation
  | openBracket
  | leadingZero (line : Nat)
  deriving DecidableEq, Repr

structure Script where
  malformation : Option Malformation
  /-- The first directory is taken off the search path. -/
  popsPath : Bool
  imports : List String
  attributes : List (String × Attribute)
  fault : Option Fault

/-- Does a script take a directory off the search path when it is run? -/
def Script.pops (script : Script) : Bool := script.malformation.isNone && script.popsPath

def Script.empty : Script := ⟨none, false, [], [], none⟩

/-- Has a number that begins with a zero been met in the script? -/
def Script.hasLeadingZero (script : Script) : Bool :=
  match script.malformation with
  | some (.leadingZero _) => true
  | _ => false

/-- Something that can be called with a context: a test of some steps, or something else, which
does nothing with a context or refuses it in these words. -/
inductive Callable
  | test (steps : List Step)
  | other (refusal : Option String)

/-- What calling an attribute of the name given does, if it can be called. -/
def Attribute.callable? (name : String) : Attribute → Option Callable
  | .function steps _ => some (.test steps)
  | .class steps _ => some (.test steps)
  | .withoutParameters =>
    some (.other (some (name ++ "() takes 0 positional arguments but 1 was given")))
  | .inherited _ refusal => some (.other refusal)
  | .value _ => none
  | .submodule _ => none
  | .thing _ => none
  | .origin _ => none
  | .portions => none

def Attribute.typeName : Attribute → String
  | .function _ _ => "function"
  | .class _ _ => "type"
  | .withoutParameters => "function"
  | .value v => v.fullTypeName
  | .submodule _ => "module"
  | .inherited isType _ => if isType then "type" else "builtin_function_or_method"
  | .thing type => type
  | .origin _ => "ModuleSpec"
  | .portions => "_NamespacePath"

/-- Is this attribute there but nothing? -/
def Attribute.isNone : Attribute → Bool
  | .value .none => true
  | _ => false

def Attribute.tag? : Attribute → Option String
  | .function _ tag => some tag
  | .class _ tag => some tag
  | _ => none

def Attribute.isClass : Attribute → Bool
  | .class _ _ => true
  | .inherited isType _ => isType
  | _ => false

end TestBench
