import TestBench.CommandLine.Options

/-! The commands that the program knows, and how arguments ask for them. Of an option that takes
one value the last one counts. -/
namespace TestBench.CommandLine

/-- What is asked of a run. -/
structure RunRequest where
  targets : List String
  config : Option String
  searchPaths : List String
  logFile : String
  verbose : Bool
  silent : Bool
  deriving DecidableEq, Repr

/-- A command: run tests, begin a project in a directory, or show help. -/
inductive Command
  | run (request : RunRequest)
  | begin (directory : String)
  | help
  deriving DecidableEq, Repr

def helpForm : OptionForm := ⟨"help", none, false⟩

def runForms : List OptionForm := [
  ⟨"config", some 'c', true⟩, ⟨"search-path", some 's', true⟩, ⟨"log-file", none, true⟩,
  ⟨"verbose", some 'v', false⟩, ⟨"no-host-errors", none, false⟩, helpForm]

def beginForms : List OptionForm := [⟨"dir", none, true⟩, helpForm]

def standardLogFile : String := "hostcheck-debug.log"

def standardDirectory : String := "hostcheck"

def RunRequest.ofWords (ws : List Word) : RunRequest :=
  ⟨Word.operands ws, (Word.values "config" ws).getLast?, Word.values "search-path" ws,
    ((Word.values "log-file" ws).getLast?).getD standardLogFile, Word.hasFlag "verbose" ws,
    Word.hasFlag "no-host-errors" ws⟩

namespace Command

def runOf (ws : List Word) : Option Command :=
  if Word.hasFlag helpForm.name ws then some .help else some (.run (.ofWords ws))

/-- The project that words ask for. It takes no operands. -/
def beginOf (ws : List Word) : Option Command :=
  if Word.hasFlag helpForm.name ws then some .help
  else if (Word.operands ws).isEmpty then
    some (.begin (((Word.values "dir" ws).getLast?).getD standardDirectory))
  else none

def ofName (name : String) (arguments : List String) : Option Command :=
  if name = "run" then readWords runForms none arguments >>= runOf
  else if name = "init" then readWords beginForms none arguments >>= beginOf
  else none

/-- Do the options in front of a command's name, if there are any, only ask for help? -/
def asksForHelp : List String → Bool
  | [] => true
  | "--" :: _ => true
  | "--help" :: arguments => asksForHelp arguments
  | argument :: _ => !isOptions argument

/-- The command that arguments ask for, if they are well formed. -/
def ofArguments : List String → Option Command
  | [] => none
  | "--" :: name :: arguments => ofName name arguments
  | "--help" :: arguments => if asksForHelp arguments then some .help else none
  | name :: arguments => ofName name arguments

end Command

example : Command.ofArguments ["run", "-vs", "d", "m:f", "--log-file=l", "--", "-x"] =
    some (.run ⟨["m:f", "-x"], none, ["d"], "l", true, false⟩) := by decide +kernel

example : Command.ofArguments ["init", "--dir"] = none := by decide +kernel

end TestBench.CommandLine
