import TestBench.FileTree
import TestBench.Hook

/-! Importing modules. A module is made from a script found in a directory of the search path, or of
its package, and is known by its full name from then on, also while it is still being made; one
whose script fails is forgotten again. No script is begun while its module is known, so importing
ends.

Left out are the modules that come with the language, among them those that a process knows when it
starts, files other than scripts that can be imported as well, and names and paths that are no text.
The origin of a package is looked at when something is found in it, but one that is a module with a
hook of its own is not asked by it. A relative directory is seen from the root. -/
namespace TestBench

/-- What a name is found to be in some directories. -/
inductive Found
  | script (directories : Option (List String)) (file : String) (script : Script)
  | portions (directories : List String)
  | fault (f : Fault)
  | nothing

namespace Imports

/-- A place in a directory. -/
def inside (directory name : String) : String :=
  String.ofList (directory.toList.reverse.dropWhile (· == '/')).reverse ++ "/" ++ name

/-- The way that a path of the search path stands for. -/
def wayOf (t : FileTree) (directory : String) : Option (List String) :=
  match t.locate [] (Path.ofText directory) with
  | .ok way => if t.isDirectory [] (Path.ofText directory) then some way else none
  | .error _ => none

/-- Find a name in one directory: a package comes before a plain module, and that before a
directory without a script. -/
def findIn (t : FileTree) (directory name : String) : Found :=
  if directory.toList.contains '\x00' then .fault (.say "ValueError" "embedded null byte")
  else
    match wayOf t directory with
    | none => .nothing
    | some way =>
      let place := inside directory name
      match t.script? (way ++ [name, "__init__.py"]) with
      | some script => .script (some [place]) "__init__.py" script
      | none =>
        match t.script? (way ++ [name ++ ".py"]) with
        | some script => .script none (name ++ ".py") script
        | none =>
          match t.get? (way ++ [name]) with
          | some .directory => .portions [place]
          | _ => .nothing

/-- Find a name in several directories: the first script wins, and without one all the
directories of that name count together. -/
def find (t : FileTree) (name : String) : List String → Found
  | [] => .nothing
  | directory :: more =>
    match findIn t directory name with
    | .script ds file script => .script ds file script
    | .fault f => .fault f
    | .portions ds =>
      match find t name more with
      | .portions es => .portions (ds ++ es)
      | .nothing => .portions ds
      | found => found
    | .nothing => find t name more

/-- Is this the name of something outside every package? -/
def isTop (parent : ModuleName) : Bool := parent.text == ""

/-- The fault of a name that no module can be imported by: an empty one, or a relative one. -/
def nameFault? (name : String) : Option Fault :=
  if name = "" then some (.say "ValueError" "Empty module name")
  else if name.startsWith "." then
    some (.say "TypeError" ("the 'package' argument is required to perform a relative import for "
      ++ Text.quote name))
  else none

/-- Importing a module by its dotted name. -/
def loadNamed (load : ModuleName → Imports → Loading) (name : String) (m : Imports) : Loading :=
  match nameFault? name with
  | some f => ⟨.error f, m, []⟩
  | none => load (.ofText name) m

/-- The directories of a known namespace, after it has been looked up anew. They stay what they were
if nothing of its kind is found. -/
def lookUp (name : ModuleName) (known : Module) (found : Found) (m : Imports) :
    Except Fault (List String × Imports) :=
  match found with
  | .fault f => .error f
  | .portions ds => .ok (ds, m.renew name ds)
  | _ => .ok (known.portions.getD [], m)

/-- The directories in which the modules of a package are looked up, and the state after looking
up those of a namespace anew. The search path takes the place of a package outside all of them. -/
def directories (t : FileTree) (load : ModuleName → Imports → Loading) :
    ModuleName → Imports → Except Fault (List String × Imports)
  | [], m => .ok (m.searchPath, m)
  | child :: parent, m =>
    match m.module? (child :: parent) with
    | none => .error (.say "KeyError" (ModuleName.text (child :: parent)))
    | some module => do
      match ← module.ask (loadNamed load) m pathName with
      | .portions =>
        let (above, m) ← if isTop parent then .ok (m.searchPath, m) else directories t load parent m
        lookUp (child :: parent) module (find t child above) m
      | path => return (← path.listed, m)

def missing (name : ModuleName) : Fault :=
  .say "ModuleNotFoundError" ("No module named " ++ Text.quote name.text)

/-- There is no module of this name because what it should lie in is a plain module. -/
def notPackage (name parent : ModuleName) : Fault :=
  .say "ModuleNotFoundError" ("No module named " ++ Text.quote name.text ++ "; "
    ++ Text.quote parent.text ++ " is not a package")

def malformedScript (file : String) (m : Malformation) : Fault :=
  match m with
  | .openBracket => .say "SyntaxError" ("'(' was never closed (" ++ file ++ ", line 2)")
  | .leadingZero line => .say "SyntaxError"
      ("leading zeros in decimal integer literals are not permitted; "
        ++ "use an 0o prefix for octal integers (" ++ file ++ ", line " ++ toString line ++ ")")

def loadAll (load : ModuleName → Imports → Loading) : List String → Imports → Loading
  | [], m => ⟨.ok (), m, []⟩
  | name :: names, m =>
    let one := loadNamed load name m
    match one.result with
    | .error f => ⟨.error f, one.imports, one.begun⟩
    | .ok () =>
      let rest := loadAll load names one.imports
      ⟨rest.result, rest.imports, one.begun ++ rest.begun⟩

/-- Do what a script says for a module that is known already. -/
def runScript (load : ModuleName → Imports → Loading) (name : ModuleName) (file : String)
    (script : Script) (m : Imports) : Loading :=
  match script.malformation with
  | some malformation => ⟨.error (malformedScript file malformation), m, []⟩
  | none =>
    let m := if script.popsPath then m.popPath else m
    let loading := loadAll load script.imports m
    match loading.result with
    | .error f => ⟨.error f, loading.imports, loading.begun⟩
    | .ok () =>
      let m := loading.imports.define name script.attributes
      match script.fault with
      | some f => ⟨.error f, m, loading.begun⟩
      | none => ⟨.ok (), m, loading.begun⟩

/-- Make a new submodule an attribute of its package. It cannot be the package's type. -/
def attach (child : String) (parent : ModuleName) (l : Loading) : Loading :=
  if isTop parent then l
  else if child = "__class__" then
    ⟨.error (.say "TypeError" "__class__ must be set to a class, not 'module' object"),
      l.imports, l.begun⟩
  else ⟨l.result, l.imports.define parent [(child, .submodule (child :: parent))], l.begun⟩

/-- A module before its script begins: a package has a path of its own. -/
def newModule (name : ModuleName) (directories : Option (List String)) : Module :=
  ⟨none, birthmarks name true (directories.map fun ds => .value (.list (ds.map .text)))⟩

/-- Make a module from what was found under its name. -/
def make (load : ModuleName → Imports → Loading) (child : String) (parent : ModuleName)
    (found : Found) (m : Imports) : Loading :=
  let name := child :: parent
  match found with
  | .nothing => ⟨.error (missing name), m, []⟩
  | .fault f => ⟨.error f, m, []⟩
  | .portions ds =>
    attach child parent ⟨.ok (), m.learn name ⟨some ds, birthmarks name false (some .portions)⟩, []⟩
  | .script ds file script =>
    let loading := runScript load name file script (m.learn name (newModule name ds))
    match loading.result with
    | .error f => ⟨.error f, loading.imports.forget name, ⟨name, script⟩ :: loading.begun⟩
    | .ok () =>
      attach child parent ⟨.ok (), loading.imports.settle name, ⟨name, script⟩ :: loading.begun⟩

/-- What a package takes of what is found in it. Its origin notes what is to be made, and a
namespace has its directories from those of the package, which nothing has none of. -/
def kept (path origin : Attribute) : Found → Except Fault Found
  | .nothing => .ok .nothing
  | .fault f => .error f
  | .portions ds =>
    if path.isNone then .error (.notIterable path.typeName)
    else origin.note.map fun _ => .portions ds
  | .script ds file script => origin.note.map fun _ => .script ds file script

/-- Find a name in a package, which is none if it has no path. A path that is nothing stands for the
search path. -/
def findWithin (t : FileTree) (load : ModuleName → Imports → Loading) (child : String)
    (parent : ModuleName) (package : Module) (m : Imports) : Except Fault (Found × Imports) :=
  match package.ask (loadNamed load) m pathName with
  | .error f => .error (if f.isLack then notPackage (child :: parent) parent else f)
  | .ok path => do
    let origin ← package.ask (loadNamed load) m originName
    let (ds, m) ← if path.isNone then .ok (m.searchPath, m) else directories t load parent m
    return (← kept path origin (find t child ds), m)

def makeIn (t : FileTree) (load : ModuleName → Imports → Loading) (child : String)
    (parent : ModuleName) (m : Imports) : Loading :=
  match m.module? parent with
  | none => ⟨.error (.say "KeyError" parent.text), m, []⟩
  | some package =>
    match findWithin t load child parent package m with
    | .error f => ⟨.error f, m, []⟩
    | .ok (found, m) => make load child parent found m

/-- Import a module by its full name, and first the packages that it lies in. The imports of a
script are left to `load`. -/
def loadWith (t : FileTree) (load : ModuleName → Imports → Loading) :
    ModuleName → Imports → Loading
  | [], m => ⟨.ok (), m, []⟩
  | child :: parent, m =>
    if m.isKnown (child :: parent) then ⟨.ok (), m, []⟩
    else if isTop parent then make load child parent (find t child m.searchPath) m
    else
      let above := loadWith t load parent m
      match above.result with
      | .error f => ⟨.error f, above.imports, above.begun⟩
      | .ok () =>
        if above.imports.isKnown (child :: parent) then ⟨.ok (), above.imports, above.begun⟩
        else
          let own := makeIn t load child parent above.imports
          ⟨own.result, own.imports, above.begun ++ own.begun⟩

/-- Import a module while at most `depth` scripts are under way inside each other. -/
def load (t : FileTree) : Nat → ModuleName → Imports → Loading
  | 0, _, m => ⟨.error (.say "RecursionError"
      "maximum recursion depth exceeded while calling a Python object"), m, []⟩
  | depth + 1, name, m => loadWith t (load t depth) name m

/-- The greatest number of scripts that may be under way inside each other. -/
def deepestImport : Nat := 98

/-- Import a module by its dotted name. A name may be neither empty nor relative. -/
def importModule (t : FileTree) (name : String) (m : Imports) : Loading :=
  loadNamed (load t deepestImport) name m

/-- What a known module has by a name, or else what its hook gives. -/
def ask (t : FileTree) (m : Imports) (module : ModuleName) (name : String) :
    Except Fault Attribute :=
  match m.module? module with
  | none => .error (.say "KeyError" module.text)
  | some known => known.ask (loadNamed (load t deepestImport)) m name

end Imports
end TestBench
