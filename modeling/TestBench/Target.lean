import TestBench.Text.Alphanumeric
import TestBench.Import

/-! Targets: tests named by a module and a function, with a colon between them. A text is a target
exactly when it follows the grammar, its two names are then unique, and a target resolves exactly
when its module imports and has something by that name that can be called. -/
namespace TestBench

/-- A letter of the Latin alphabet or an underscore: what a name begins with. -/
def isNameStart (c : Char) : Bool := c.isAlpha || c == '_'

def isDottedWord (c : Char) : Bool := Text.isWord c || c == '.'

/-- What is left of a text behind a name: its first character, and then those of a class. -/
def afterName (p : Char → Bool) : List Char → Option (List Char)
  | [] => none
  | c :: cs => if isNameStart c then some (cs.dropWhile p) else none

/-- Does a text name a target? One line feed may end it. -/
def isTarget (s : String) : Bool :=
  match afterName isDottedWord s.toList with
  | some (':' :: cs) =>
    match afterName Text.isWord cs with
    | some rest => rest == [] || rest == ['\n']
    | none => false
  | _ => false

/-- A test that can be run: its name and what it calls. -/
structure Target where
  name : String
  callable : Callable

/-- Why a target is not resolved. The last cause is a fault that goes through as it is. -/
inductive ResolveFault
  | malformed (spec : String)
  | unimportable (module spec line : String)
  | noAttribute (module name : String)
  | notCallable (spec : String)
  | raised (f : Fault)

def ResolveFault.message : ResolveFault → String
  | .malformed spec => "Invalid test target '" ++ spec ++ "': expected 'module:function'"
  | .unimportable module spec line =>
    "Cannot import '" ++ module ++ "' for target '" ++ spec ++ "': " ++ line
  | .noAttribute module name =>
    "Module '" ++ module ++ "' has no attribute '" ++ name ++ "'"
  | .notCallable spec => "Target '" ++ spec ++ "' is not callable"
  | .raised f => (f.text.map String.ofList).toOption.getD ""

def splitTarget (s : String) : String × String :=
  (String.ofList (s.toList.takeWhile (· != ':')),
    String.ofList ((s.toList.dropWhile (· != ':')).drop 1))

/-- The directories that are not on a search path yet, in their order. -/
def newDirectories (directories searchPath : List String) : List String :=
  directories.filter fun d => !searchPath.contains d

/-- The search path without the first occurrence of each directory. -/
def withoutDirectories (directories searchPath : List String) : List String :=
  directories.foldl List.erase searchPath

/-- What comes of resolving a target: the attribute that it names, the state of the imports, and
the scripts that were begun. What a hook does beyond its answer is not told. -/
structure Resolved where
  result : Except ResolveFault (Target × Attribute)
  imports : Imports
  begun : List Begun

/-- What a target's function is, in a module that is known. A hook that says it has nothing by the
name is believed; any other fault of it goes through. -/
def pick (tree : FileTree) (spec module function : String) (m : Imports) :
    Except ResolveFault (Target × Attribute) :=
  match m.ask tree (.ofText module) function with
  | .error f => .error (if f.isLack then .noAttribute module function else .raised f)
  | .ok a =>
    if a.isNone then .error (.noAttribute module function)
    else
      match a.callable? function with
      | some callable => .ok (⟨spec, callable⟩, a)
      | none => .error (.notCallable spec)

def importFault (spec module : String) (f : Fault) : ResolveFault :=
  if f.ordinary then
    match f.line with
    | .ok line => .unimportable module spec line
    | .error g => .raised g
  else .raised f

/-- Resolve a target with some directories put before the search path while its module is
imported. -/
def resolve (tree : FileTree) (directories : List String) (spec : String) (m : Imports) :
    Resolved :=
  if !isTarget spec then ⟨.error (.malformed spec), m, []⟩
  else
    let (module, function) := splitTarget spec
    let added := newDirectories directories m.searchPath
    let loading := { m with searchPath := added ++ m.searchPath }.importModule tree module
    let after := { loading.imports with
      searchPath := withoutDirectories added loading.imports.searchPath }
    match loading.result with
    | .error f => ⟨.error (importFault spec module f), after, loading.begun⟩
    | .ok () => ⟨pick tree spec module function after, after, loading.begun⟩

/-- What comes of resolving targets: all of them, or why the first bad one is not resolved. -/
structure Resolution where
  result : Except ResolveFault (List Target)
  imports : Imports
  attempts : List Resolved

/-- Resolve targets in turn, up to one that is not resolved. -/
def resolveAll (tree : FileTree) (directories : List String) : List String → Imports → Resolution
  | [], m => ⟨.ok [], m, []⟩
  | spec :: specs, m =>
    let one := resolve tree directories spec m
    match one.result with
    | .error f => ⟨.error f, one.imports, [one]⟩
    | .ok (target, _) =>
      let rest := resolveAll tree directories specs one.imports
      ⟨rest.result.map (target :: ·), rest.imports, one :: rest.attempts⟩

end TestBench
