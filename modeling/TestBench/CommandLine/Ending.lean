import TestBench.Config.Load
import TestBench.Logger.SetUp

/-! How a command ends: refused for its arguments, with an exit status, or by a fault that is let
through. A request to end the program is obeyed whoever makes it. -/
namespace TestBench.CommandLine

/-- A fault that is let through: its kind, and its text where there is one to tell. -/
structure Escaped where
  kind : String
  text : Option String
  deriving DecidableEq, Repr

inductive Ending
  | usage
  | exit (status : Int)
  | escaped (e : Escaped)
  deriving DecidableEq, Repr

namespace Escaped

/-- A fault that is let through. What the operating system says of it is not told. -/
def ofFault (f : Fault) : Escaped :=
  ⟨f.kind, if f.isSystem then none else f.text.toOption.map String.ofList⟩

def ofFile (f : FileFault) : Escaped := ⟨f.kind, f.message?⟩

def ofLoad (f : LoadFault) : Escaped := ⟨f.kind, f.message?⟩

def ofSetUp (f : SetUpFault) : Escaped := ⟨f.kind, f.message?⟩

end Escaped

/-- The end of a command together with what is said of it on standard output and on standard
error. -/
structure Farewell where
  ending : Ending
  output : String
  errors : String
  deriving DecidableEq, Repr

namespace Ending

def status : Ending → Int
  | .usage => 2
  | .exit n => n
  | .escaped _ => 1

/-- What a process passes on of a status: its lowest eight bits, if it fits in a machine word. -/
def byteOf (status : Int) : Nat :=
  if -(Int.pow 2 63) ≤ status ∧ status < Int.pow 2 63 then (status % 256).toNat else 255

/-- The end that a request asks for. A value that is no number is shown on the output, as it is
where a command is carried out inside another program; a process of its own shows it with its
errors. -/
def ofRequest : List Value → Farewell
  | [] => ⟨.exit 0, "", ""⟩
  | [.none] => ⟨.exit 0, "", ""⟩
  | [.int n] => ⟨.exit n, "", ""⟩
  | [.bool b] => ⟨.exit b.toNat, "", ""⟩
  | vs => ⟨.exit 1, String.ofList ((Fault.plainText vs).toOption.getD []) ++ "\n", ""⟩

/-- Is the reader of the program's output gone? -/
def isBrokenPipe (f : Fault) : Bool :=
  f.isSystem && Fault.isNumbered f.arguments && (f.arguments.headD .none).alike (.int 32)

/-- The end that a fault leads to. -/
def ofFault (f : Fault) : Farewell :=
  if f.isExit then ofRequest f.arguments
  else if f.isInterrupt then ⟨.exit 130, "", ""⟩
  else if f.kind = "EOFError" then ⟨.exit 1, "", "\nAborted.\n"⟩
  else if isBrokenPipe f then ⟨.exit 1, "", ""⟩
  else ⟨.escaped (.ofFault f), "", ""⟩

end Ending
end TestBench.CommandLine
