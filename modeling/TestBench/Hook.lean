import TestBench.Fault.Text
import TestBench.Module

/-! Hooks. A module that defines one is asked by it for what it does not have, and so is a package
for the directories of its submodules. A hook is called with a name; one that is a test takes the
name for a context, and has no use of it.

A hook is asked for its answer only: what it prints, and what it leaves imported, is not kept. Hooks
that ask for each other without end come to a fault of recursion, in words that a process may choose
otherwise. -/
namespace TestBench

/-- Does a fault say that something has no attribute of a name? -/
def Fault.isLack (f : Fault) : Bool := f.kind == "AttributeError"

def Fault.lacking (type name : String) : Fault :=
  .say "AttributeError" ("'" ++ type ++ "' object has no attribute '" ++ name ++ "'")

def Fault.notCallable (type : String) : Fault :=
  .say "TypeError" ("'" ++ type ++ "' object is not callable")

def Fault.notIterable (type : String) : Fault :=
  .say "TypeError" ("'" ++ type ++ "' object is not iterable")

/-- What an action asks its context for first, if it asks it for anything. -/
def Action.member? : Action → Option String
  | .assertTrue _ _ => some "assert_true"
  | .assertEqual _ _ _ => some "assert_equal"
  | .assertFail _ => some "assert_fail"
  | .assertReports _ => some "assert_true"
  | .silence => some "disable_diagnostics"
  | .unsilence => some "enable_diagnostics"
  | .setReports _ => some "diagnostics"
  | .setFailed => some "failed"
  | .blank => some "print_blank_line"
  | .printError _ => some "print_error"
  | .pushError _ => some "diagnostics"
  | .channelBlank => some "channel"
  | .channelWrite _ => some "channel"
  | .channelError _ => some "channel"
  | .print _ => none
  | .load _ => none
  | .raise _ => none

section Hooks

variable (bring : String → Imports → Loading)

/-- An action of a hook. Instead of a context there is a text, which has nothing that a context has.
-/
def Action.runOnText (m : Imports) (action : Action) : Except Fault Unit × Imports :=
  match action.member? with
  | some member => (.error (.lacking "str" member), m)
  | none =>
    match action with
    | .load name => ((bring name m).result, (bring name m).imports)
    | .raise f => (.error f, m)
    | _ => (.ok (), m)

/-- The end of steps inside a step that survives an ordinary fault. -/
def survivedOnText (f : Fault) : Except Fault Unit :=
  if f.ordinary then f.line.map fun _ => () else .error f

mutual

def Step.runOnText : Step → Imports → Except Fault Unit × Imports
  | .act action _, m => action.runOnText bring m
  | .preserved _ _, m => (.error (.lacking "str" "diagnostics"), m)
  | .attempt steps _, m =>
    match runAllOnText steps m with
    | (.ok (), m) => (.ok (), m)
    | (.error f, m) => (survivedOnText f, m)
termination_by structural step => step

/-- Carry out the steps of a hook, up to a fault. No step of a hook answers no. -/
def runAllOnText : List Step → Imports → Except Fault Unit × Imports
  | [], m => (.ok (), m)
  | step :: steps, m =>
    match Step.runOnText step m with
    | (.error f, m) => (.error f, m)
    | (.ok (), m) => runAllOnText steps m
termination_by structural steps => steps

end

/-- What a hook gives when it is called. A test gives nothing, and a class something that it makes.
-/
def Attribute.answer (m : Imports) (hook : Attribute) : Except Fault Attribute :=
  match hook.callable? Imports.hookName with
  | none => .error (.notCallable hook.typeName)
  | some (.test steps) => (runAllOnText bring steps m).1.map fun _ =>
      if hook.isClass then .thing Imports.hookName else .value .none
  | some (.other (some refusal)) => .error (.say "TypeError" refusal)
  | some (.other none) => .ok (.thing "NotImplementedType")

/-- What a module has by a name, or else what its hook gives. -/
def Module.ask (m : Imports) (module : Module) (name : String) : Except Fault Attribute :=
  match module.attribute? name with
  | some a => .ok a
  | none =>
    match module.own? Imports.hookName with
    | some hook => hook.answer bring m
    | none => .error (module.lacks name)

end Hooks

/-- The directories that there are in the path of a package: texts count, and other things in it are
passed over. -/
def Attribute.listed (a : Attribute) : Except Fault (List String) :=
  match a with
  | .value v =>
    match Fault.items? v with
    | some items => .ok (items.filterMap fun
        | .text s => some s
        | _ => none)
    | none => .error (.notIterable a.typeName)
  | a => .error (.notIterable a.typeName)

/-- What a package's origin keeps of the submodules that are being made in it. -/
def Attribute.keptName : String := "_uninitialized_submodules"

/-- Note in the origin of a package that a submodule is being made. What a script has put in its
place takes no note, and may stand there only if it is untrue. -/
def Attribute.note : Attribute → Except Fault Unit
  | .origin _ => .ok ()
  | .value v => do if ← v.truth then throw (.lacking v.fullTypeName keptName)
  | .class _ _ => .error (.say "AttributeError"
      ("type object '" ++ Imports.originName ++ "' has no attribute '" ++ keptName ++ "'"))
  | .submodule name => .error (.say "AttributeError"
      ("module '" ++ ModuleName.text name ++ "' has no attribute '" ++ keptName ++ "'"))
  | a => .error (.lacking a.typeName keptName)

end TestBench
