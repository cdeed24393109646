import TestBench.Config.Complaint
import TestBench.Expansion.Basic
import TestBench.Target
import TestBench.Text.Utf8
import TestBench.Value.Given

/-! Configurations: the tests of a run, the directories to find them in, and whether the host
reports its errors. Every field is judged by itself, and all complaints come together, in the order
of the fields and then of the unknown keys. A configuration is accepted exactly when no field and no
key gives a complaint. -/
namespace TestBench

/-- A configuration that has been accepted. -/
structure Config where
  tests : List String
  searchPaths : List String
  reports : Bool
  deriving DecidableEq, Repr

/-- What a field's value is taken for, or the complaints about it. -/
abbrev Verdict := Except (List Mistake)

namespace Config

def complain {α : Type} (field : String) (complaint : Complaint) (input : Value) : Verdict α :=
  .error [⟨field, none, complaint, input⟩]

/-- A value as a text. Bytes count as the text that they stand for. -/
def textOf : Value → Except Complaint String
  | .text s => .ok s
  | .bytes bs =>
    match Text.Utf8.decode bs with
    | .ok cs => .ok (String.ofList cs)
    | .error _ => .error .notUnicode
  | _ => .error .notText

/-- The complaints about items that are no texts, the first of which has the index given. -/
def itemMistakes (field : String) : Nat → List Value → List Mistake
  | _, [] => []
  | i, v :: vs =>
    match textOf v with
    | .ok _ => itemMistakes field (i + 1) vs
    | .error c => ⟨field, some i, c, v⟩ :: itemMistakes field (i + 1) vs

/-- What is given as a list of texts. -/
def textsOf (field : String) (g : Given) : Verdict (List String) :=
  match g.items? with
  | none => complain field .notList g.value
  | some vs =>
    match itemMistakes field 0 vs with
    | [] => .ok (vs.filterMap fun v => (textOf v).toOption)
    | mistakes => .error mistakes

def truthWords : List (String × Bool) := [
  ("0", false), ("off", false), ("f", false), ("false", false), ("n", false), ("no", false),
  ("1", true), ("on", true), ("t", true), ("true", true), ("y", true), ("yes", true)]

/-- A word as a truth value; the case of its letters does not matter. -/
def truthOfWord (cs : List Char) : Except Complaint Bool :=
  let word := String.ofList (cs.map Char.toLower)
  match truthWords.find? fun e => e.1 == word with
  | some e => .ok e.2
  | none => .error .unclearTruth

def truthOfInt (n : Int) : Except Complaint Bool :=
  if n = 0 then .ok false
  else if n = 1 then .ok true
  else if -(Int.pow 2 63) ≤ n ∧ n < Int.pow 2 63 then .error .unclearTruth
  else .error .notTruth

/-- A number as a truth value, if it is whole. The least machine integer does not count as one
here. -/
def truthOfDouble (x : Double) : Except Complaint Bool :=
  match x.toInt? with
  | some n => if n = -(Int.pow 2 63) then .error .notTruth else truthOfInt n
  | none => .error .notTruth

/-- A value as a truth value: one itself, a number that is nought or one, or a word. -/
def truthOf : Value → Except Complaint Bool
  | .bool b => .ok b
  | .int n => truthOfInt n
  | .double x => truthOfDouble x
  | .text s => truthOfWord s.toList
  | .bytes bs => truthOfWord (bs.map fun b => Char.ofNat b.toNat)
  | _ => .error .notTruth

/-- What is said of targets, if anything is wrong with them. -/
def targetsFault? (tests : List String) : Option String :=
  if tests.isEmpty then some "tests must not be empty"
  else
    match tests.filter fun t => !isTarget t with
    | [] => none
    | bad => some ("tests must be given as 'module:function', got: " ++ ", ".intercalate bad)

def judgeTests (g : Given) : Verdict (List String) := do
  let tests ← textsOf "tests" g
  match targetsFault? tests with
  | none => return tests
  | some text => complain "tests" (.rejected text) g.value

/-- What comes of expanding search paths: those that could be expanded, those that could not, and
the environment afterwards. -/
structure Paths where
  expanded : List String
  unexpanded : List String
  environment : Environment

/-- Expand search paths one after the other, each in the environment that the ones before left. -/
def expandPaths : List String → Environment → Paths
  | [], env => ⟨[], [], env⟩
  | entry :: entries, env =>
    let one := expand entry env
    let rest := expandPaths entries one.environment
    match one.text with
    | some cs => ⟨String.ofList cs :: rest.expanded, rest.unexpanded, rest.environment⟩
    | none => ⟨rest.expanded, entry :: rest.unexpanded, rest.environment⟩

def unexpandedText (entries : List String) : String :=
  "search_paths reference unset environment variables:\n"
    ++ "\n".intercalate (entries.map ("  " ++ ·))

/-- The verdict on the search paths, and the environment after expanding them. -/
def judgePaths (g : Given) (env : Environment) : Verdict (List String) × Environment :=
  match textsOf "search_paths" g with
  | .error mistakes => (.error mistakes, env)
  | .ok entries =>
    let paths := expandPaths entries env
    if paths.unexpanded.isEmpty then (.ok paths.expanded, paths.environment)
    else (complain "search_paths" (.rejected (unexpandedText paths.unexpanded)) g.value,
      paths.environment)

def judgeReports (g : Given) : Verdict Bool :=
  match truthOf g.value with
  | .ok b => .ok b
  | .error c => complain "print_error_messages" c g.value

def fields : List String := ["tests", "search_paths", "print_error_messages"]

/-- The complaints about keys that name no field. -/
def unknownMistakes (entries : List (String × Given)) : List Mistake :=
  entries.filterMap fun e =>
    if fields.contains e.1 then none else some ⟨e.1, none, .unknown, e.2.value⟩

def givenOf? (entries : List (String × Given)) (key : String) : Option Given :=
  (entries.find? fun e => e.1 == key).map Prod.snd

def asDict (entries : List (String × Given)) : Value :=
  .dict (entries.map fun e => (.text e.1, e.2.value))

def mistakesOf {α : Type} : Verdict α → List Mistake
  | .ok _ => []
  | .error mistakes => mistakes

/-- Judge the entries of a configuration in an environment, which expanding may change. -/
def judge (entries : List (String × Given)) (env : Environment) : Verdict Config × Environment :=
  let tests := match givenOf? entries "tests" with
    | some g => judgeTests g
    | none => complain "tests" .missing (asDict entries)
  let (paths, env) := match givenOf? entries "search_paths" with
    | some g => judgePaths g env
    | none => (.ok [], env)
  let reports := match givenOf? entries "print_error_messages" with
    | some g => judgeReports g
    | none => .ok true
  let unknown := unknownMistakes entries
  (match tests, paths, reports, unknown with
    | .ok tests, .ok searchPaths, .ok reports, [] => .ok ⟨tests, searchPaths, reports⟩
    | _, _, _, _ => .error (mistakesOf tests ++ mistakesOf paths ++ mistakesOf reports ++ unknown),
   env)

end Config
end TestBench
