/-! Environments: texts by name. Setting a name gives it the new text and leaves every other name
alone. -/
namespace TestBench

/-- Texts by name; of two entries for a name the first one counts. -/
structure Environment where
  entries : List (String × String)

namespace Environment

def get? (env : Environment) (name : String) : Option String :=
  (env.entries.find? fun e => e.1 == name).map Prod.snd

/-- The environment with a text set. A name that is there keeps its place. -/
def set (env : Environment) (name text : String) : Environment :=
  if (env.get? name).isSome then
    ⟨env.entries.map fun e => if e.1 == name then (name, text) else e⟩
  else ⟨env.entries ++ [(name, text)]⟩

/-- The entries that another environment does not have. -/
def changes (old new : Environment) : List (String × String) :=
  new.entries.filter fun e => old.get? e.1 != some e.2

end Environment
end TestBench
