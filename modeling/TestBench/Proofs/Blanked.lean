import Mathlib.Tactic.Common
import TestBench.Logger.SetUp
import TestBench.Target

/-! Files without their bytes. Importing reads scripts and setting up a log reads none of what is there,
so both go the same way in trees that differ only in the bytes of files. -/
namespace TestBench

/-- A file whose bytes are forgotten; what it says as a script is kept. -/
def Content.blanked (c : Content) : Content := ⟨[],c.script⟩

def Node.blanked : Node → Node
  | .directory => .directory
  | .file c => .file c.blanked

namespace FileTree

def blanked (t : FileTree) : FileTree := ⟨t.entries.map fun e => (e.1,e.2.blanked)⟩

variable (t : FileTree)

lemma find?_blanked (way : List String) :
    (t.blanked.entries.find? fun e => e.1 == way) =
      (t.entries.find? fun e => e.1 == way).map fun e => (e.1,e.2.blanked) := by
  rw [blanked,List.find?_map]
  rfl

@[simp] lemma get?_blanked (way : List String) :
    t.blanked.get? way = (t.get? way).map Node.blanked := by
  by_cases hroot : way = []
  · rw [get?,get?,if_pos hroot,if_pos hroot]
    rfl
  · rw [get?,get?,if_neg hroot,if_neg hroot,find?_blanked,Option.map_map,Option.map_map]
    rfl

@[simp] lemma put_blanked (way : List String) (node : Node) :
    (t.put way node).blanked = t.blanked.put way node.blanked := by
  rw [put,put,find?_blanked,Option.isSome_map]
  split
  · simp only [blanked,List.map_map]
    congr 2
    funext e
    by_cases he : e.1 = way <;> simp [he,Node.blanked]
  · simp [blanked]

@[simp] lemma follow_blanked (way parts : List String) :
    t.blanked.follow way parts = t.follow way parts := by
  induction parts generalizing way with
  | nil => rfl
  | cons part parts ih =>
    rw [follow,follow,get?_blanked]
    cases t.get? way with
    | none => rfl
    | some node =>
      cases node with
      | directory => simp only [Option.map_some,Node.blanked,ih]
      | file c => rfl

@[simp] lemma locate_blanked (dir : List String) (p : Path) :
    t.blanked.locate dir p = t.locate dir p := by
  rw [locate,locate]
  split
  · rfl
  · exact follow_blanked t _ _

@[simp] lemma look_blanked (dir : List String) (p : Path) :
    t.blanked.look dir p = (t.look dir p).map Node.blanked := by
  rw [look,look,locate_blanked]
  cases t.locate dir p with
  | error f => rfl
  | ok way =>
    simp only [bind,Except.bind,get?_blanked]
    cases t.get? way <;> rfl

@[simp] lemma isDirectory_blanked (dir : List String) (p : Path) :
    t.blanked.isDirectory dir p = t.isDirectory dir p := by
  rw [isDirectory,isDirectory,look_blanked]
  cases t.look dir p with
  | error f => rfl
  | ok node => cases node <;> rfl

@[simp] lemma script?_blanked (way : List String) : t.blanked.script? way = t.script? way := by
  rw [script?,script?,get?_blanked]
  cases t.get? way with
  | none => rfl
  | some node => cases node <;> rfl

lemma missing_blanked (way parts : List String) :
    t.blanked.missing way parts = t.missing way parts := by
  induction parts generalizing way with
  | nil => rfl
  | cons part parts ih =>
    simp only [missing,get?_blanked,ih]
    cases t.get? (way ++ [part]) with
    | none => rfl
    | some node => cases node <;> rfl

lemma lay_blanked (made : Bool) (way parts : List String) :
    t.blanked.lay made way parts = ((t.lay made way parts).1,(t.lay made way parts).2.blanked) := by
  induction parts generalizing t made way with
  | nil => rfl
  | cons part parts ih =>
    simp only [lay,get?_blanked]
    by_cases hlong : longestName < part.utf8ByteSize
    · rw [if_pos hlong,if_pos hlong]
    · rw [if_neg hlong,if_neg hlong]
      by_cases hup : part = ".."
      · rw [if_pos hup,if_pos hup,ih]
      · rw [if_neg hup,if_neg hup]
        cases t.get? (way ++ [part]) with
        | none =>
          -- The directory made is the same in both trees, so the rest is laid in trees that still match.
          have hput := put_blanked t (way ++ [part]) .directory
          simp only [Option.map_none,← ih,hput,Node.blanked]
        | some node =>
          cases node with
          | directory => exact ih _ _ _
          | file c => rfl

lemma ensure_blanked (dir : List String) (p : Path) :
    t.blanked.ensure dir p = ((t.ensure dir p).1,(t.ensure dir p).2.blanked) := by
  rw [ensure,ensure,missing_blanked,lay_blanked]
  split
  · rfl
  · split <;> rfl

lemma openAt_blanked (dir : List String) (p : Path) : t.blanked.openAt dir p =
    (t.openAt dir p).map fun e => (e.1,e.2.map Content.blanked) := by
  rw [openAt,openAt,locate_blanked]
  cases t.locate dir p with
  | error f => rfl
  | ok way =>
    simp only [bind,Except.bind,get?_blanked]
    cases t.get? way with
    | none => rfl
    | some node => cases node <;> rfl

end FileTree

namespace SetUp

lemma openLog_blanked (t : FileTree) (dir : List String) (file : String) :
    (openLog t.blanked dir file).1 = (openLog t dir file).1 := by
  simp only [openLog,FileTree.ensure_blanked]
  rcases t.ensure dir (Path.ofText file).parent with ⟨result,tree⟩
  cases result with
  | error f => rfl
  | ok _ =>
    simp only [FileTree.openAt_blanked]
    cases tree.openAt dir (Path.resolve (Path.ofWay dir) (Path.ofText file)) with
    | error f => rfl
    | ok opened =>
      obtain ⟨way,content⟩ := opened
      cases content <;> rfl

/-- Setting up a logger goes the same way whatever the bytes of the files are. -/
lemma run_blanked (ls : Loggers) (t : FileTree) (dir : List String) (file : String) (verbose : Bool)
    (name : String) :
    (run ls t.blanked dir file verbose name).result = (run ls t dir file verbose name).result ∧
    (run ls t.blanked dir file verbose name).loggers = (run ls t dir file verbose name).loggers := by
  have hopen := openLog_blanked t dir file
  simp only [run]
  split
  · exact ⟨rfl,rfl⟩
  · rcases hl : openLog t dir file with ⟨result,tree⟩
    rcases hb : openLog t.blanked dir file with ⟨result',tree'⟩
    obtain rfl : result' = result := by
      rw [hl,hb] at hopen
      exact hopen
    cases result' <;> exact ⟨rfl,rfl⟩

end SetUp

namespace Imports

lemma wayOf_blanked (t : FileTree) (directory : String) :
    wayOf t.blanked directory = wayOf t directory := by
  rw [wayOf,wayOf,FileTree.locate_blanked,FileTree.isDirectory_blanked]

lemma findIn_blanked (t : FileTree) (directory name : String) :
    findIn t.blanked directory name = findIn t directory name := by
  simp only [findIn,wayOf_blanked,FileTree.script?_blanked,FileTree.get?_blanked]
  cases wayOf t directory with
  | none => rfl
  | some way =>
    dsimp only
    cases t.get? (way ++ [name]) with
    | none => rfl
    | some node => cases node <;> rfl

lemma find_blanked (t : FileTree) (name : String) (ds : List String) :
    find t.blanked name ds = find t name ds := by
  induction ds with
  | nil => rfl
  | cons directory more ih => simp only [find,findIn_blanked,ih]

lemma directories_blanked (t : FileTree) (load : ModuleName → Imports → Loading) (name : ModuleName)
    (m : Imports) : directories t.blanked load name m = directories t load name m := by
  induction name generalizing m with
  | nil => rfl
  | cons child parent ih => simp only [directories,find_blanked,ih]

lemma findWithin_blanked (t : FileTree) (load : ModuleName → Imports → Loading) (child : String)
    (parent : ModuleName) (package : Module) (m : Imports) :
    findWithin t.blanked load child parent package m = findWithin t load child parent package m := by
  simp only [findWithin,directories_blanked,find_blanked]

lemma makeIn_blanked (t : FileTree) (load : ModuleName → Imports → Loading) (child : String)
    (parent : ModuleName) (m : Imports) :
    makeIn t.blanked load child parent m = makeIn t load child parent m := by
  simp only [makeIn,findWithin_blanked]

lemma loadWith_blanked (t : FileTree) (load : ModuleName → Imports → Loading) (name : ModuleName)
    (m : Imports) : loadWith t.blanked load name m = loadWith t load name m := by
  induction name generalizing m with
  | nil => rfl
  | cons child parent ih => simp only [loadWith,find_blanked,makeIn_blanked,ih]

lemma load_blanked (t : FileTree) (depth : ℕ) : load t.blanked depth = load t depth := by
  induction depth with
  | zero => rfl
  | succ depth ih =>
    funext name m
    rw [load,load,ih,loadWith_blanked]

@[simp] lemma importModule_blanked (t : FileTree) (name : String) (m : Imports) :
    m.importModule t.blanked name = m.importModule t name := by
  rw [importModule,importModule,load_blanked]

@[simp] lemma ask_blanked (t : FileTree) (m : Imports) (module : ModuleName) (name : String) :
    m.ask t.blanked module name = m.ask t module name := by
  rw [ask,ask,load_blanked]

end Imports

lemma pick_blanked (t : FileTree) (spec module function : String) (m : Imports) :
    pick t.blanked spec module function m = pick t spec module function m := by
  rw [pick,pick,Imports.ask_blanked]

lemma resolve_blanked (t : FileTree) (directories : List String) (spec : String) (m : Imports) :
    resolve t.blanked directories spec m = resolve t directories spec m := by
  simp only [resolve,Imports.importModule_blanked,pick_blanked]

/-- Targets resolve the same way whatever the bytes of the files are. -/
theorem resolveAll_blanked (t : FileTree) (directories specs : List String) (m : Imports) :
    resolveAll t.blanked directories specs m = resolveAll t directories specs m := by
  induction specs generalizing m with
  | nil => rfl
  | cons spec specs ih => simp only [resolveAll,resolve_blanked,ih]

end TestBench
