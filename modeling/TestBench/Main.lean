import TestBench.CommandLine.Program

/-! The program itself. It takes in the files that its arguments lead to, carries out its command
on them, and puts back what the command has changed. -/
namespace TestBench

/-- The content of a file. Its bytes tell whether it is a script that is known. -/
def contentOf (bytes : List UInt8) : Content :=
  ⟨bytes, if bytes = CommandLine.Project.bytesOf CommandLine.Project.scriptText then
    some CommandLine.Project.script else none⟩

/-- The places that a command leads to before anything is known of its configuration. -/
def placesOf : CommandLine.Command → List Path
  | .run r => (r.config.toList ++ r.searchPaths ++ [r.logFile]).map .ofText
  | .begin directory =>
    let project := Path.ofText directory
    let scripts := CommandLine.Project.scriptsPath project
    [CommandLine.Project.configPath project, scripts,
      scripts.within (.ofText CommandLine.Project.scriptName)]
  | .help => []

/-- The files that the modules of a plan may be made from. -/
def modulePlaces (plan : CommandLine.Plan) : List Path :=
  plan.directories.flatMap fun directory => plan.specs.map fun spec =>
    let name := (ModuleName.ofText (splitTarget spec).1).reverse
    (Path.ofText directory).within (.ofText ("/".intercalate name ++ ".py"))

/-- The tree with what stands at the end of a way, if its directory is there. -/
def takeOne (tree : FileTree) (way : List String) : IO FileTree := do
  match tree.get? way.dropLast with
  | some .directory =>
    match ← (IO.FS.readBinFile (Path.ofWay way).text).toBaseIO with
    | .ok bytes => return tree.put way (.file (contentOf bytes.toList))
    | .error (.inappropriateType _ _ _) => return tree.put way .directory
    | .error _ => return tree
  | _ => return tree

/-- The tree with all that stands on the ways of some paths. -/
def takeIn (directory : Path) (tree : FileTree) (paths : List Path) : IO FileTree := do
  let ways := paths.flatMap fun path =>
    let way := (Path.resolve directory path).parts
    FileTree.ancestors way ++ [way]
  ways.foldlM takeOne tree

def putBack (before : FileTree) (entry : List String × Node) : IO Unit := do
  let place := (Path.ofWay entry.1).text
  match entry.2, before.get? entry.1 with
  | .directory, none => IO.FS.createDirAll place
  | .file content, some (.file old) =>
    if content.bytes ≠ old.bytes then IO.FS.writeBinFile place ⟨content.bytes.toArray⟩
  | .file content, none => IO.FS.writeBinFile place ⟨content.bytes.toArray⟩
  | _, _ => return

def environment : IO Environment := do
  match ← (IO.FS.readBinFile "/proc/self/environ").toBaseIO with
  | .error _ => return ⟨[]⟩
  | .ok bytes =>
    let text := (String.fromUTF8? bytes).getD ""
    return ⟨((text.toList.splitOn '\x00').filter (· ≠ [])).map fun entry =>
      (String.ofList (entry.takeWhile (· ≠ '=')),
        String.ofList ((entry.dropWhile (· ≠ '=')).drop 1))⟩

def parting : CommandLine.Ending → String
  | .usage => "Usage: hostcheck run|init [OPTIONS]\n"
  | .exit _ => ""
  | .escaped ⟨kind, some text⟩ => kind ++ ": " ++ text ++ "\n"
  | .escaped ⟨kind, none⟩ => kind ++ "\n"

/-- Carry out what the arguments ask for, and answer the exit status. -/
def execute (arguments : List String) : IO UInt32 := do
  let working := Path.ofText (toString (← IO.currentDir))
  let command := CommandLine.Command.ofArguments arguments
  let tree ← takeIn working .empty ([working] ++ (command.map placesOf).getD [])
  let seconds := Double.ofInt ((← IO.monoMsNow) / 1000)
  let setting : CommandLine.Setting := ⟨tree, working.parts, ← environment, ⟨[seconds]⟩⟩
  let tree ← match command with
    | some (.run request) =>
      match CommandLine.Plan.of setting request with
      | .ok plan => takeIn working tree (plan.directories.map .ofText ++ modulePlaces plan)
      | .error _ => pure tree
    | _ => pure tree
  let performed := CommandLine.perform { setting with tree } arguments
  performed.tree.entries.forM (putBack tree)
  IO.print performed.output
  IO.eprint performed.errors
  IO.eprint (parting performed.ending)
  return (CommandLine.Ending.byteOf performed.ending.status).toUInt32

end TestBench

def main (arguments : List String) : IO UInt32 := TestBench.execute arguments
