import TestBench.Fault.Basic

/-! The language of tests. A test is a list of steps; a step is an action, or a list of steps that
keeps the host's toggle or that survives an ordinary fault. -/
namespace TestBench

/-- One thing that a test does with its context, with the host, or with neither. -/
inductive Action
  | assertTrue (condition : Value) (message : String)
  | assertEqual (left : Value) (right : Option Value) (message : String)
  | assertFail (message : String)
  | assertReports (message : String)
  | silence
  | unsilence
  | setReports (value : Value)
  | setFailed
  | blank
  | printError (message : String)
  | pushError (message : String)
  | channelBlank
  | channelWrite (message : String)
  | channelError (message : String)
  | print (message : String)
  | load (module : String)
  | raise (fault : Fault)

/-- A step of a test. After a step that bails and answers no, the rest of its list is left out. -/
inductive Step
  | act (action : Action) (bails : Bool)
  | preserved (steps : List Step) (bails : Bool)
  | attempt (steps : List Step) (bails : Bool)

/-- Does a step that answers no end its list? -/
def Step.bails : Step → Bool
  | .act _ b => b
  | .preserved _ b => b
  | .attempt _ b => b

inductive Reply
  | nothing
  | verdict (b : Bool)
  | text (s : String)
  deriving DecidableEq, Repr

end TestBench
