import TestBench.Proofs.Import.Loading
import TestBench.Proofs.Resolution

/-! The stages of resolving a target: its text, the import of its module, the attribute that it names and
whether that can be called. The first stage that fails is the one that is told. A fault goes through only if
the import ends with one that is not ordinary, or if the module is asked by its hook and the hook fails. -/
namespace TestBench

/-- Resolving ends with a fault of its own, and with this message. -/
def Resolved.Reports (r : Resolved) (message : String) : Prop :=
  ∃ e, r.result = .error e ∧ (∀ f, e ≠ .raised f) ∧ e.message = message

section Ask

variable {tree : FileTree} {m : Imports} {module : ModuleName} {name : String}

end Ask

section Pick

variable {tree : FileTree} {spec module function : String} {m : Imports} {a : Attribute}

end Pick

variable {tree : FileTree} {directories : List String} {spec : String} {m : Imports}

end TestBench
