import TestBench.Config.Basic
import TestBench.Config.Report
import TestBench.Yaml.Cell

/-! Reading a configuration from the bytes of a YAML file. Its search paths are taken from the
directory of the file. Every search path of a configuration that is read is absolute, and reading it
again gives the same path. -/
namespace TestBench

inductive LoadFault
  | file (f : FileFault)
  | document (f : Yaml.Fault)
  | notMapping (name : String)
  | keyNotText
  | invalid (mistakes : List Mistake)
  | embeddedNul

namespace LoadFault

def kind : LoadFault → String
  | .file f => f.kind
  | .document f => f.kind
  | .notMapping _ => "ValueError"
  | .keyNotText => "TypeError"
  | .invalid _ => "ValidationError"
  | .embeddedNul => "ValueError"

/-- What is wrong, in words, where there are words for it. -/
def message? : LoadFault → Option String
  | .file f => f.message?
  | .document (.undecodable m) => some m.message
  | .document (.value f) => (f.text.map String.ofList).toOption
  | .document _ => none
  | .notMapping name => some (name ++ ": expected a mapping at the top level")
  | .keyNotText => some "keywords must be strings"
  | .invalid ms => some (Mistake.reportAll ms)
  | .embeddedNul => FileFault.embeddedNul.message?

/-- Is it the content of the file that is wrong, in a way that is reported? Any other fault is let
through. -/
def isReported (f : LoadFault) : Bool :=
  ["ValueError", "UnicodeDecodeError", "ValidationError"].contains f.kind

end LoadFault

namespace Config

/-- The entries of a mapping whose keys are all texts. -/
def textEntries : List (Value × Given) → Option (List (String × Given))
  | [] => some []
  | (.text k, v) :: es => (textEntries es).map ((k, v) :: ·)
  | _ => none

/-- A search path seen from a directory. An absolute one is only cleaned. -/
def resolvePath (dir : Path) (entry : String) : Except LoadFault String :=
  let path := Path.ofText entry
  if path.isAbsolute then .ok path.text
  else if path.hasNul then .error .embeddedNul
  else .ok (Path.resolve dir path).text

/-- The entries of a configuration, from the bytes of a file of the name given. -/
def entriesOfBytes (name : String) (bytes : List UInt8) :
    Except LoadFault (List (String × Given)) :=
  match Yaml.load (.ofBytes bytes) with
  | .error f => .error (.document f)
  | .ok document =>
    match document.bind Yaml.Document.entries? with
    | none => .error (.notMapping name)
    | some es =>
      match textEntries es with
      | some es => .ok es
      | none => .error .keyNotText

/-- The configuration with its search paths seen from a directory. -/
def resolved (dir : Path) (c : Config) : Except LoadFault Config := do
  let searchPaths ← c.searchPaths.mapM (resolvePath dir)
  return { c with searchPaths }

def ofBytes (name : String) (dir : Path) (bytes : List UInt8) (env : Environment) :
    Except LoadFault Config × Environment :=
  match entriesOfBytes name bytes with
  | .error f => (.error f, env)
  | .ok entries =>
    match judge entries env with
    | (.error ms, env) => (.error (.invalid ms), env)
    | (.ok c, env) => (c.resolved dir, env)

def load (tree : FileTree) (dir : List String) (path : Path) (env : Environment) :
    Except LoadFault Config × Environment :=
  match tree.read dir path with
  | .error f => (.error (.file f), env)
  | .ok bytes => ofBytes path.text (Path.resolve (Path.ofWay dir) path.parent) bytes env

end Config
end TestBench
