import TestBench.CommandLine.Project

/-! The program: arguments ask for a command, and the command is carried out. Arguments that are not
well formed change nothing. -/
namespace TestBench.CommandLine

def Command.perform (s : Setting) : Command → Performed
  | .run request => (Running.of s request).performed
  | .begin directory => Project.begin s directory
  | .help => ⟨.exit 0, s.tree, s.clock, "", ""⟩

def perform (s : Setting) (arguments : List String) : Performed :=
  match Command.ofArguments arguments with
  | none => ⟨.usage, s.tree, s.clock, "", ""⟩
  | some command => command.perform s

end TestBench.CommandLine
