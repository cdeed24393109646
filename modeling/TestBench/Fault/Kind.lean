import TestBench.Value.Equality
import TestBench.Value.Rendering

/-! The kinds of faults. An ordinary fault ends a test and counts against it; the others end
whatever is going on. A fault of the operating system with a number has the kind of that number. -/
namespace TestBench
namespace Fault

/-- The kinds that are not ordinary: they end a whole run, not only a test. -/
def passingKinds : List String :=
  ["KeyboardInterrupt", "SystemExit", "GeneratorExit", "BaseException", "BaseExceptionGroup"]

/-- A fault that a test may raise and its surroundings catch. -/
def ordinary (f : Fault) : Bool := !passingKinds.contains f.kind

def isInterrupt (f : Fault) : Bool := f.kind == "KeyboardInterrupt"

def isExit (f : Fault) : Bool := f.kind == "SystemExit"

def systemKinds : List String := [
  "OSError", "BlockingIOError", "BrokenPipeError", "ChildProcessError", "ConnectionAbortedError",
  "ConnectionError", "ConnectionRefusedError", "ConnectionResetError", "FileExistsError",
  "FileNotFoundError", "InterruptedError", "IsADirectoryError", "NotADirectoryError",
  "PermissionError", "ProcessLookupError", "TimeoutError"]

def isSystem (f : Fault) : Bool := systemKinds.contains f.kind

def valueKinds : List String := [
  "ValueError", "UnicodeError", "UnicodeDecodeError", "UnicodeEncodeError",
  "UnicodeTranslateError"]

def isValueFault (f : Fault) : Bool := valueKinds.contains f.kind

/-- The numbers of the operating system that have a kind of their own. -/
def kindOfNumber : List (Int × String) := [
  (1, "PermissionError"), (2, "FileNotFoundError"), (3, "ProcessLookupError"),
  (4, "InterruptedError"), (10, "ChildProcessError"), (11, "BlockingIOError"),
  (13, "PermissionError"), (17, "FileExistsError"), (20, "NotADirectoryError"),
  (21, "IsADirectoryError"), (32, "BrokenPipeError"), (103, "ConnectionAbortedError"),
  (104, "ConnectionResetError"), (108, "BrokenPipeError"), (110, "TimeoutError"),
  (111, "ConnectionRefusedError"), (114, "BlockingIOError"), (115, "BlockingIOError")]

/-- Does a fault of the operating system carry a number and a text? -/
def isNumbered (arguments : List Value) : Bool := 2 ≤ arguments.length && arguments.length ≤ 5

def integerOf? : Value → Option Int
  | .int n => some n
  | .bool b => some b.toInt
  | _ => none

/-- The kind that a number gives to a fault of the operating system. -/
def numberedKind (number : Value) : String :=
  match kindOfNumber.find? fun entry => integerOf? number = some entry.1 with
  | some entry => entry.2
  | none => "OSError"

def say (kind message : String) : Fault := ⟨kind, [.text message]⟩

/-- The text of most faults: nothing, one value by itself, or all in brackets. -/
def plainText : List Value → Except Fault (List Char)
  | [] => .ok []
  | [v] => v.plainText
  | vs => (Value.tuple vs).rendered

end Fault
end TestBench
