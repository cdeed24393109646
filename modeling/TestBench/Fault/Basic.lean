import TestBench.Fault.Text

/-! Making faults. The name of a kind and some arguments give a fault of that kind, or of a nearer
one; if they do not fit together, what arises is a fault that says so. -/
namespace TestBench
namespace Fault

/-- The kind that a name stands for: two names are other words for the same kind. -/
def kindOfName (name : String) : String :=
  if name == "IOError" || name == "EnvironmentError" then "OSError" else name

def kindOf (name : String) (arguments : List Value) : String :=
  let kind := kindOfName name
  if kind == "OSError" && isNumbered arguments then numberedKind (arguments.headD .none) else kind

def make (name : String) (arguments : List Value) : Fault :=
  let kind := kindOf name arguments
  (misfit? kind arguments).getD ⟨kind, arguments⟩

end Fault
end TestBench
