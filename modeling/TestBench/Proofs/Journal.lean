import Mathlib.Data.List.Basic
import TestBench.Proofs.Logger

/-! Histories of loggers. Setting up and telling come in any order; some calls are refused and some fail
on their files. Whatever has gone before, every logger that writes somewhere writes to a file of its own
and keeps its records from all others, and no file loses what it held. -/
namespace TestBench

/-- Something asked of loggers: to set one up, or to tell it a record. -/
inductive Order
  | setUp (name file : String) (verbose : Bool)
  | tell (name : String) (record : LogRecord)

namespace Order

/-- What an order appends to a file when loggers have their places. -/
def bytesFor (ls : Loggers) (way : List String) : Order → List UInt8
  | .setUp _ _ _ => []
  | .tell name r => if .file way ∈ ls.placesOf name then r.line.toUTF8.toList else []

/-- What an order shows on standard error when loggers have their places. -/
def shown (ls : Loggers) : Order → String
  | .setUp _ _ _ => ""
  | .tell name r => if .errors ∈ ls.placesOf name then r.line else ""

/-- Is an order about setting up the logger of a name? -/
def SetsUp (name : String) : Order → Prop
  | .setUp other _ _ => Loggers.key other = Loggers.key name
  | .tell _ _ => False

end Order

/-- The loggers of a program, with the files and what standard error has got. -/
structure Desk where
  loggers : Loggers
  written : Written

namespace Desk

def begin (tree : FileTree) : Desk := ⟨.initial,⟨tree,""⟩⟩

/-- A logger is set up, with paths seen from a directory. -/
def setUp (dir : List String) (d : Desk) (name file : String) (verbose : Bool) : SetUp :=
  SetUp.run d.loggers d.written.tree dir file verbose name

def take (dir : List String) (d : Desk) : Order → Desk
  | .setUp name file verbose =>
    let s := d.setUp dir name file verbose
    ⟨s.loggers,⟨s.tree,d.written.errors⟩⟩
  | .tell name r =>
    let ls := d.loggers.obtain name
    ⟨ls,d.written.log ls name r⟩

def after (dir : List String) (d : Desk) (orders : List Order) : Desk := orders.foldl (take dir) d

/-- Is every record told to a logger that writes somewhere by then? -/
def Admits (dir : List String) : Desk → List Order → Prop
  | _, [] => True
  | d, .setUp name file verbose :: orders => Admits dir (d.take dir (.setUp name file verbose)) orders
  | d, .tell name r :: orders =>
    d.loggers.placesOf name ≠ [] ∧ Admits dir (d.take dir (.tell name r)) orders

instance decidableAdmits (dir : List String) :
    (d : Desk) → (orders : List Order) → Decidable (d.Admits dir orders)
  | _, [] => isTrue trivial
  | d, .setUp name file verbose :: orders =>
    decidableAdmits dir (d.take dir (.setUp name file verbose)) orders
  | d, .tell name r :: orders =>
    letI := decidableAdmits dir (d.take dir (.tell name r)) orders
    inferInstanceAs (Decidable (_ ∧ _))

/-- The loggers of a desk are settled. -/
def Settled (d : Desk) : Prop := d.loggers.Settled d.written.tree

/-- What orders make of a desk: loggers keep the places that they have, files keep their bytes, and every
record is behind those before it in the file of its logger and in no other, and on standard error if its
logger is verbose. -/
structure Leads (d d' : Desk) (orders : List Order) : Prop where
  settled : d'.Settled
  kept : ∀ {name}, d.loggers.placesOf name ≠ [] → d'.loggers.placesOf name = d.loggers.placesOf name
  free : ∀ {name}, d.loggers.placesOf name = [] → (∀ o ∈ orders, ¬o.SetsUp name) →
    d'.loggers.placesOf name = []
  told : ∀ {name r}, Order.tell name r ∈ orders → d'.loggers.placesOf name ≠ []
  grows : d.written.tree.Grows d'.written.tree
  files : ∀ way, d'.written.tree.bytesAt way =
    d.written.tree.bytesAt way ++ orders.flatMap (Order.bytesFor d'.loggers way)
  errors : d'.written.errors =
    d.written.errors ++ String.join (orders.map (Order.shown d'.loggers))

variable {d d' d'' : Desk} {dir : List String} {name file : String} {verbose : Bool}
  {orders orders' : List Order}

namespace Leads

lemma refl (h : d.Settled) : d.Leads d [] where
  settled := h
  kept _ := rfl
  free h _ := h
  told h := absurd h (List.not_mem_nil)
  grows := .refl _
  files _ := (List.append_nil _).symm
  errors := String.append_empty.symm

/-- Loggers that records were told to have their places still when more has been asked for, so the
records told before go on counting for the same files. -/
lemma trans (h : d.Leads d' orders) (h' : d'.Leads d'' orders') : d.Leads d'' (orders ++ orders') := by
  have hbytes : ∀ way, ∀ o ∈ orders, o.bytesFor d''.loggers way = o.bytesFor d'.loggers way := by
    intro way o ho
    cases o with
    | setUp name file verbose => rfl
    | tell name r => rw [Order.bytesFor,Order.bytesFor,h'.kept (h.told ho)]
  have hshown : ∀ o ∈ orders, o.shown d''.loggers = o.shown d'.loggers := by
    intro o ho
    cases o with
    | setUp name file verbose => rfl
    | tell name r => rw [Order.shown,Order.shown,h'.kept (h.told ho)]
  refine ⟨h'.settled,fun hname => ?_,fun hfree hnot => ?_,fun {name r} ho => ?_,h.grows.trans h'.grows,
    fun way => ?_,?_⟩
  · have hkept := h.kept hname
    rw [h'.kept (by rwa [hkept]),hkept]
  · obtain ⟨hnot,hnot'⟩ := List.forall_mem_append.mp hnot
    exact h'.free (h.free hfree hnot) hnot'
  · rcases List.mem_append.mp ho with ho | ho
    · rw [h'.kept (h.told ho)]
      exact h.told ho
    · exact h'.told ho
  · rw [h'.files,h.files,List.flatMap_append,List.flatMap_congr (hbytes way),List.append_assoc]
  · rw [h'.errors,h.errors,List.map_append,String.join_append,List.map_congr_left hshown,
      String.append_assoc]

/-- Setting up a logger can change the places of that logger alone, and only if it has none. -/
lemma setUp_places (h : d.Settled) (dir : List String) (name file : String) (verbose : Bool)
    (other : String) :
    (d.setUp dir name file verbose).loggers.placesOf other = d.loggers.placesOf other ∨
      Loggers.key name = Loggers.key other ∧ d.loggers.placesOf other = [] := by
  rcases SetUp.run_cases h.root d.written.tree dir file verbose name with
    ⟨-,hrun⟩ | ⟨-,f,-,-,hplaces⟩ | ⟨hname,way,-,-,hplaces⟩
  · exact .inl (congrArg (fun s => s.loggers.placesOf other) hrun)
  · exact .inl (hplaces other)
  · by_cases hkey : Loggers.key other = Loggers.key name
    · rw [Loggers.placesOf,Loggers.get?,← hkey] at hname
      exact .inr ⟨hkey.symm,hname⟩
    · exact .inl ((hplaces other).trans (if_neg hkey))

lemma setUp (h : d.Settled) (dir : List String) (name file : String) (verbose : Bool) :
    d.Leads (d.take dir (.setUp name file verbose)) [.setUp name file verbose] := by
  have hextends := SetUp.extends_run d.loggers d.written.tree dir file verbose name
  have hplaces := setUp_places h dir name file verbose
  refine ⟨h.run dir file verbose name,fun {other} hother => ?_,fun {other} hfree hnot => ?_,
    fun ho => ?_,hextends.grows,fun way => ?_,?_⟩
  · rcases hplaces other with hsame | ⟨-,hfree⟩
    · exact hsame
    · exact absurd hfree hother
  · rcases hplaces other with hsame | ⟨hkey,-⟩
    · exact hsame.trans hfree
    · exact absurd hkey (hnot _ (List.mem_singleton_self _))
  · cases List.mem_singleton.mp ho
  · have hbytes := hextends.bytesAt_eq way
    simpa [take,Desk.setUp,Order.bytesFor] using hbytes
  · simp [take,Order.shown]

/-- A record told to a logger that writes somewhere goes to its places and changes no logger. -/
lemma tell (h : d.Settled) (dir : List String) (hname : d.loggers.placesOf name ≠ [])
    (r : LogRecord) : d.Leads (d.take dir (.tell name r)) [.tell name r] := by
  obtain ⟨l,hget,-⟩ := Loggers.exists_of_placesOf hname
  obtain ⟨verbose,way,hplaces,c,hc⟩ := Loggers.Settled.exists_sinks h hname
  have htake : d.take dir (.tell name r) = ⟨d.loggers,d.written.tree.log way r.line.toUTF8.toList,
      d.written.errors ++ if verbose then r.line else ""⟩ := by
    simp only [take,Loggers.obtain_of_some hget,Written.log_of_setUp h hplaces]
  have hgrows := FileTree.grows_log hc r.line.toUTF8.toList
  rw [htake]
  refine ⟨Loggers.Settled.grows h hgrows,fun _ => rfl,fun hfree _ => hfree,fun {other r'} ho => ?_,
    hgrows,fun other => ?_,?_⟩
  · obtain ⟨rfl,-⟩ := Order.tell.inj (List.mem_singleton.mp ho)
    exact hname
  · rw [FileTree.bytesAt_log hc,List.flatMap_singleton,Order.bytesFor,hplaces]
    congr 1
    by_cases he : other = way
    · simp [SetUp.sinks,he]
    · cases verbose <;> simp [SetUp.sinks,he]
  · cases verbose <;> simp [Order.shown,hplaces,SetUp.sinks]

/-- What orders lead to that a desk admits, one by one. -/
theorem after (h : d.Settled) (ha : d.Admits dir orders) : d.Leads (d.after dir orders) orders := by
  induction orders generalizing d with
  | nil => exact .refl h
  | cons o orders ih =>
    cases o with
    | setUp name file verbose =>
      have hfirst := Leads.setUp h dir name file verbose
      exact hfirst.trans (ih hfirst.settled ha)
    | tell name r =>
      obtain ⟨hname,ha⟩ := ha
      have hfirst := Leads.tell h dir hname r
      exact hfirst.trans (ih hfirst.settled ha)

end Leads

lemma settled_begin (tree : FileTree) : (begin tree).Settled := Loggers.Settled.initial tree

/-- Loggers are kept apart after a history on a tree of files. Here is what setting up one more comes to,
and what files and standard error have of all that was told. -/
structure Apart (dir : List String) (tree : FileTree) (orders : List Order) (d : Desk) : Prop where
  /-- A logger has no places, or one file that is there and standard error exactly if it is verbose. -/
  places : ∀ name, d.loggers.placesOf name ≠ [] → ∃ verbose way,
    d.loggers.placesOf name = SetUp.sinks verbose way ∧ ∃ c, d.written.tree.get? way = some (.file c)
  /-- A logger that has places is refused, and everything stays as it is. -/
  taken : ∀ name file verbose, d.loggers.placesOf name ≠ [] →
    ∃ f, f.kind = "RuntimeError" ∧
      d.setUp dir name file verbose = ⟨.error f,d.loggers,d.written.tree⟩
  /-- A logger whose file cannot be opened has no places, as before. Later on it can be set up with any
  file that can be opened. -/
  unopened : ∀ name file verbose f tree', d.loggers.placesOf name = [] →
    SetUp.openLog d.written.tree dir file = (.error f,tree') →
    let s := d.setUp dir name file verbose
    s.result = .error (.file f) ∧
    (∀ other, s.loggers.placesOf other = d.loggers.placesOf other) ∧
    ∀ later file' verbose' way tree'',
      let failed := d.take dir (.setUp name file verbose)
      let d' := failed.after dir later
      failed.Admits dir later → (∀ o ∈ later, ¬o.SetsUp name) →
      SetUp.openLog d'.written.tree dir file' = (.ok way,tree'') →
      (d'.setUp dir name file' verbose').result = .ok ()
  /-- A logger without places is set up with a file that can be opened, and no other logger is touched. -/
  opened : ∀ name file verbose way tree', d.loggers.placesOf name = [] →
    SetUp.openLog d.written.tree dir file = (.ok way,tree') →
    let s := d.setUp dir name file verbose
    s.result = .ok () ∧ ∀ other, s.loggers.placesOf other =
      if Loggers.key other = Loggers.key name then SetUp.sinks verbose way
      else d.loggers.placesOf other
  /-- A file has behind what it held the records of the loggers that it belongs to, in order. -/
  files : ∀ way, d.written.tree.bytesAt way =
    tree.bytesAt way ++ orders.flatMap (Order.bytesFor d.loggers way)
  /-- Standard error has the records of the verbose loggers, in order. -/
  errors : d.written.errors = String.join (orders.map (Order.shown d.loggers))
  grows : tree.Grows d.written.tree

lemma setUp_of_taken (hname : d.loggers.placesOf name ≠ []) :
    d.setUp dir name file verbose = ⟨.error (.taken name),d.loggers,d.written.tree⟩ :=
  SetUp.run_of_taken hname

lemma setUp_of_opened (h : d.Settled) {way : List String} {tree' : FileTree}
    (hname : d.loggers.placesOf name = [])
    (ho : SetUp.openLog d.written.tree dir file = (.ok way,tree')) (verbose : Bool) :
    (d.setUp dir name file verbose).result = .ok () ∧
      ∀ other, (d.setUp dir name file verbose).loggers.placesOf other =
        if Loggers.key other = Loggers.key name then SetUp.sinks verbose way
        else d.loggers.placesOf other := by
  rw [setUp,SetUp.run_of_opened hname ho]
  exact ⟨rfl,SetUp.placesOf_attached h.root hname _⟩

lemma setUp_of_unopened {f : FileFault} {tree' : FileTree} (hname : d.loggers.placesOf name = [])
    (ho : SetUp.openLog d.written.tree dir file = (.error f,tree')) (verbose : Bool) :
    (d.setUp dir name file verbose).result = .error (.file f) ∧
      ∀ other, (d.setUp dir name file verbose).loggers.placesOf other = d.loggers.placesOf other := by
  rw [setUp,SetUp.run_of_unopened hname ho]
  exact ⟨rfl,SetUp.placesOf_claimed d.loggers name⟩

/-- Over any history loggers are kept apart: one that has places cannot be set up again, one that has
none can whenever its file can be opened, whatever failed before, and a record goes to the file of its
own logger, once and in order, however the names of loggers are related. -/
theorem loggers_kept_apart (dir : List String) (tree : FileTree) (orders : List Order)
    (ha : (begin tree).Admits dir orders) :
    Apart dir tree orders ((begin tree).after dir orders) := by
  have hleads := Leads.after (settled_begin tree) ha
  have hsettled := hleads.settled
  refine ⟨fun name hname => hsettled.exists_sinks hname,fun name file verbose hname => ?_,
    fun name file verbose f tree' hname ho => ?_,fun name file verbose way tree' hname ho => ?_,
    hleads.files,?_,hleads.grows⟩
  · exact ⟨.taken name,rfl,setUp_of_taken hname⟩
  · obtain ⟨hresult,hplaces⟩ := setUp_of_unopened hname ho verbose
    refine ⟨hresult,hplaces,?_⟩
    intro later file' verbose' way tree'' failed d' hlater hnot ho'
    have hfailed := (Leads.setUp hsettled dir name file verbose).settled
    have hfree := (hplaces name).trans hname
    have hlast := Leads.after hfailed hlater
    exact (setUp_of_opened hlast.settled (hlast.free hfree hnot) ho' verbose').1
  · exact setUp_of_opened hsettled hname ho verbose
  · rw [hleads.errors]
    exact String.empty_append

/-- One logger stands below another by its name. Its file cannot be opened at first, because a file is in
the place of its directory, and then it gets another one. -/
theorem loggers_kept_apart_below :
    let tree : FileTree := ⟨[(["d"],.file .empty)]⟩
    let first : List Order := [.setUp "a" "/a.log" false]
    let orders : List Order := first ++ [.setUp "a.b" "/d/x.log" true,.setUp "a.b" "/b.log" true,
      .tell "a.b" ⟨.info,"one",none⟩,.tell "a" ⟨.debug,"two",none⟩]
    (begin tree).Admits [] orders ∧ Apart [] tree orders ((begin tree).after [] orders) ∧
      (((begin tree).after [] first).setUp [] "a.b" "/d/x.log" true).result =
        .error (.file .exists) ∧
      ((begin tree).after [] orders).loggers.placesOf "a.b" = [.file ["b.log"],.errors] := by
  have ha : (begin ⟨[(["d"],.file .empty)]⟩).Admits [] [.setUp "a" "/a.log" false,
      .setUp "a.b" "/d/x.log" true,.setUp "a.b" "/b.log" true,.tell "a.b" ⟨.info,"one",none⟩,
      .tell "a" ⟨.debug,"two",none⟩] := by
    decide +kernel
  exact ⟨ha,loggers_kept_apart _ _ _ ha,by decide +kernel,by decide +kernel⟩

end Desk
end TestBench
