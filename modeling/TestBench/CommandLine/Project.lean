import TestBench.CommandLine.Running

/-! The command that begins a project: an example of a configuration, and of a script with tests.
A directory that has a configuration already is left as it is. -/
namespace TestBench.CommandLine.Project

def configName : String := "hostcheck.yaml"

def scriptsName : String := "scripts"

def scriptName : String := "smoke_tests.py"

def configText : String :=
  "search_paths:\n" ++
  "  - ./scripts\n" ++
  "print_error_messages: true\n" ++
  "tests:\n" ++
  "  - smoke_tests:test_arithmetic\n" ++
  "  - smoke_tests:test_host_error_is_silenced\n"

def scriptText : String :=
  "\"\"\"Example tests. Each function receives an AssertionContext.\"\"\"\n" ++
  "\n" ++
  "\n" ++
  "def test_arithmetic(ctx):\n" ++
  "    ctx.assert_true(1 + 1 == 2)\n" ++
  "    ctx.assert_equal(2 * 3, 6, \"multiplication\")\n" ++
  "\n" ++
  "\n" ++
  "def test_host_error_is_silenced(ctx):\n" ++
  "    ctx.disable_diagnostics()\n" ++
  "    ctx.diagnostics.push_error(\"expected failure inside the host\")\n" ++
  "    ctx.enable_diagnostics()\n" ++
  "    ctx.assert_true(ctx.diagnostics.print_error_messages)\n"

/-- The first example: two assertions that hold. -/
def arithmeticSteps : List Step := [
  .act (.assertTrue (.bool true) "") false,
  .act (.assertEqual (.int 6) (some (.int 6)) "multiplication") false]

/-- The second example: an error that the host keeps to itself. -/
def silenceSteps : List Step := [
  .act .silence false, .act (.pushError "expected failure inside the host") false,
  .act .unsilence false, .act (.assertReports "") false]

/-- The example script, as it is run. -/
def script : Script :=
  { Script.empty with attributes := [
      ("test_arithmetic", .function arithmeticSteps ""),
      ("test_host_error_is_silenced", .function silenceSteps "")] }

def bytesOf (text : String) : List UInt8 := text.toUTF8.toList

def configPath (directory : Path) : Path := directory.within (.ofText configName)

def scriptsPath (directory : Path) : Path := directory.within (.ofText scriptsName)

def skipped (directory : String) : String :=
  lineOf (configName ++ " already exists in " ++ directory ++ ", skipping.")

def announcement (directory : String) : String :=
  lineOf ("Initialized test project in " ++ directory ++ ":")
    ++ lineOf "  hostcheck.yaml          - example run config"
    ++ lineOf "  scripts/smoke_tests.py  - example tests"

/-- Make a change after another one, if that went well. -/
def andThen (c : FileTree.Changed) (next : FileTree → FileTree.Changed) : FileTree.Changed :=
  match c with
  | (.ok (), tree) => next tree
  | failed => failed

def write (s : Setting) (directory : Path) (tree : FileTree) : FileTree.Changed :=
  andThen (andThen
    (tree.write s.directory (configPath directory) ⟨bytesOf configText, none⟩)
    fun tree => tree.ensure s.directory (scriptsPath directory))
    fun tree => tree.write s.directory ((scriptsPath directory).within (.ofText scriptName))
      ⟨bytesOf scriptText, some script⟩

/-- A command that ends by a fault of the file tree. -/
def failed (s : Setting) (f : FileFault) (tree : FileTree) : Performed :=
  ⟨.escaped (.ofFile f), tree, s.clock, "", ""⟩

def begin (s : Setting) (directory : String) : Performed :=
  let path := Path.ofText directory
  match s.tree.ensure s.directory path with
  | (.error f, tree) => failed s f tree
  | (.ok (), tree) =>
    match tree.exists? s.directory (configPath path) with
    | .error f => failed s f tree
    | .ok true => ⟨.exit 0, tree, s.clock, skipped directory, ""⟩
    | .ok false =>
      match write s path tree with
      | (.error f, tree) => failed s f tree
      | (.ok (), tree) => ⟨.exit 0, tree, s.clock, announcement directory, ""⟩

end TestBench.CommandLine.Project
