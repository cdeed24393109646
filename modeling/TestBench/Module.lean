import TestBench.Fault.Basic
import TestBench.Script

/-! Modules, and what a process knows of them. A module has what its script defines, what its type
gives it, its submodules, and what tells where it comes from. -/
namespace TestBench

/-- The parts of a module's dotted name, the last one first. -/
abbrev ModuleName := List String

namespace ModuleName

def ofText (s : String) : ModuleName := ((s.toList.splitOn '.').map String.ofList).reverse

def text (name : ModuleName) : String := ".".intercalate name.reverse

end ModuleName

/-- A module. A namespace, which has no script, knows its directories as they were last looked up.
-/
structure Module where
  portions : Option (List String)
  attributes : List (String × Attribute)

/-- What importing works on: the search path and the modules that are known. -/
structure Imports where
  searchPath : List String
  modules : List (ModuleName × Module)

/-- A script that was begun, and the module that it was to make. -/
structure Begun where
  name : ModuleName
  script : Script

/-- What comes of importing: how it ended, the state it left, and the scripts that were begun, in
order. -/
structure Loading where
  result : Except Fault Unit
  imports : Imports
  begun : List Begun

namespace Imports

def module? (m : Imports) (name : ModuleName) : Option Module :=
  (m.modules.find? fun e => e.1 == name).map Prod.snd

def isKnown (m : Imports) (name : ModuleName) : Bool := (m.module? name).isSome

/-- The state with a module put under its name. -/
def learn (m : Imports) (name : ModuleName) (module : Module) : Imports :=
  { m with modules := (m.modules.filter fun e => e.1 != name) ++ [(name, module)] }

def forget (m : Imports) (name : ModuleName) : Imports :=
  { m with modules := m.modules.filter fun e => e.1 != name }

/-- Attributes with one set. -/
def setAttribute (attributes : List (String × Attribute)) (name : String) (a : Attribute) :
    List (String × Attribute) :=
  (attributes.filter fun e => e.1 != name) ++ [(name, a)]

/-- A known module with attributes set one after the other. -/
def define (m : Imports) (name : ModuleName) (attributes : List (String × Attribute)) : Imports :=
  match m.module? name with
  | none => m
  | some module => m.learn name { module with
      attributes := attributes.foldl (fun as a => setAttribute as a.1 a.2) module.attributes }

/-- A known namespace with its directories looked up anew. -/
def renew (m : Imports) (name : ModuleName) (directories : List String) : Imports :=
  match m.module? name with
  | none => m
  | some module => m.learn name { module with portions := some directories }

def popPath (m : Imports) : Imports := { m with searchPath := m.searchPath.drop 1 }

/-- The name by which a module has a hook, which is asked for what the module does not have. -/
def hookName : String := "__getattr__"

/-- The name by which a package has the directories of its submodules. -/
def pathName : String := "__path__"

/-- The name by which a module tells where it comes from. -/
def originName : String := "__spec__"

/-- More names by which every module tells that. What stands there is no test. -/
def plainNames : List String := ["__package__", "__loader__", "__annotations__"]

/-- The names by which a module with a script tells still more. -/
def scriptNames : List String := ["__file__", "__cached__", "__builtins__"]

/-- What a module has before its script begins. A package has a path. -/
def birthmarks (name : ModuleName) (hasScript : Bool) (path : Option Attribute) :
    List (String × Attribute) :=
  [("__name__", .value (.text name.text)), ("__doc__", .value .none),
      (originName, .origin hasScript)]
    ++ path.toList.map (fun a => (pathName, a))
    ++ (plainNames ++ if hasScript then scriptNames else []).map fun n => (n, .value (.text ""))

/-- What every module has from its type and can be called, with the words in which a context is
refused, if it is. -/
def inherited : List (String × Option String) := [
  ("__delattr__", some "attribute name must be string, not 'AssertionContext'"),
  ("__dir__", some "__dir__() takes no arguments (1 given)"),
  ("__eq__", none),
  ("__format__", some "__format__() argument must be str, not AssertionContext"),
  ("__ge__", none),
  ("__getattribute__", some "attribute name must be string, not 'AssertionContext'"),
  ("__getstate__", some "__getstate__() takes no arguments (1 given)"),
  ("__gt__", none),
  ("__hash__", some "expected 0 arguments, got 1"),
  ("__init__", some "module() argument 'name' must be str, not AssertionContext"),
  ("__init_subclass__", some "module.__init_subclass__() takes no arguments (1 given)"),
  ("__le__", none),
  ("__lt__", none),
  ("__ne__", none),
  ("__new__", some "module.__new__(X): X is not a type object (AssertionContext)"),
  ("__reduce__", some "__reduce__() takes no arguments (1 given)"),
  ("__reduce_ex__", some "'AssertionContext' object cannot be interpreted as an integer"),
  ("__repr__", some "expected 0 arguments, got 1"),
  ("__setattr__", some " expected 2 arguments, got 1"),
  ("__sizeof__", some "__sizeof__() takes no arguments (1 given)"),
  ("__str__", some "expected 0 arguments, got 1"),
  ("__subclasshook__", none)]

def inherited? (name : String) : Option Attribute :=
  (inherited.find? fun e => e.1 == name).map fun e => .inherited false e.2

/-- What a module has from its type whatever its script says: the type itself, and the table of its
attributes, which is no test. -/
def reserved? (name : String) : Option Attribute :=
  if name = "__class__" then
    some (.inherited true (some "module() argument 'name' must be str, not AssertionContext"))
  else if name = "__dict__" then some (.value (.text ""))
  else none

end Imports

namespace Module

/-- What a module has by a name of its own: of its script's, or as a submodule. -/
def own? (module : Module) (name : String) : Option Attribute :=
  (module.attributes.find? fun e => e.1 == name).map Prod.snd

/-- What a module has by a name. What its type keeps for itself comes first, and what it has only
from its type comes last. -/
def attribute? (module : Module) (name : String) : Option Attribute :=
  (Imports.reserved? name).or ((module.own? name).or (Imports.inherited? name))

/-- Is the module's script still under way, as far as the module tells? -/
def isUnderWay (module : Module) : Bool :=
  match module.own? Imports.originName with
  | some (.origin underWay) => underWay
  | _ => false

/-- The fault of a module that has nothing by a name, which the module's own name is told in. -/
def lacks (module : Module) (name : String) : Fault :=
  .say "AttributeError" (match module.own? "__name__" with
    | some (.value (.text own)) =>
      if module.isUnderWay then "partially initialized module '" ++ own ++ "' has no attribute '"
        ++ name ++ "' (most likely due to a circular import)"
      else "module '" ++ own ++ "' has no attribute '" ++ name ++ "'"
    | _ => "module has no attribute '" ++ name ++ "'")

end Module

namespace Imports

/-- What a known module has by a name, without asking its hook. -/
def attribute? (m : Imports) (module : ModuleName) (name : String) : Option Attribute := do
  (← m.module? module).attribute? name

/-- The state with a module whose script is no longer under way. -/
def settle (m : Imports) (name : ModuleName) : Imports :=
  match m.module? name with
  | none => m
  | some module =>
    if module.isUnderWay then m.define name [(originName, .origin false)] else m

end Imports
end TestBench
