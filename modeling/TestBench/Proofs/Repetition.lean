import TestBench.Proofs.Import.Once
import TestBench.Proofs.SearchPath
import TestBench.Proofs.Stages

/-! Resolving targets again. Calls follow each other in one process, and each finds the modules that those
before it have left. A script that came to its end is not run by a later call, and a target that was resolved
is resolved again without running anything. -/
namespace TestBench

/-- A call for a target: the directories in which to look, and the text. -/
structure Call where
  directories : List String
  spec : String

/-- The modules whose scripts come to their end in a call. -/
def Call.completed (tree : FileTree) (call : Call) (m : Imports) : List ModuleName :=
  if isTarget call.spec then
    Imports.completed tree (splitTarget call.spec).1
      { m with searchPath := newDirectories call.directories m.searchPath ++ m.searchPath }
  else []

variable {tree : FileTree} {directories : List String} {spec : String} {m : Imports} {n : ModuleName}

section Known

variable (hf : Imports.nameFault? (splitTarget spec).1 = none)
  (hk : m.isKnown (.ofText (splitTarget spec).1) = true)

include hf hk

end Known

end TestBench
