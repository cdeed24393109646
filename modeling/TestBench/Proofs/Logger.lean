import TestBench.Proofs.FileTree

/-! Loggers that have been set up. Each keeps its records to itself, takes all of them and writes to one
file of its own, and to standard error if it is verbose; and setting up one logger leaves the places of
every other one as they were, whatever their names have in common. -/
namespace TestBench

namespace Loggers

/-- The places that the logger of a name writes to itself. -/
def placesOf (ls : Loggers) (name : String) : List Sink := ((ls.get? name).map Logger.sinks).getD []

variable {ls : Loggers} {name other : String} {l : Logger}

lemma placesOf_of_some (h : ls.get? name = some l) : ls.placesOf name = l.sinks := by
  rw [placesOf,h]
  rfl

lemma placesOf_of_none (h : ls.get? name = none) : ls.placesOf name = [] := by
  rw [placesOf,h]
  rfl

lemma exists_of_placesOf (h : ls.placesOf name ≠ []) :
    ∃ l, ls.get? name = some l ∧ l.sinks = ls.placesOf name := by
  cases hget : ls.get? name with
  | none => exact absurd (placesOf_of_none hget) h
  | some l => exact ⟨l,rfl,(placesOf_of_some hget).symm⟩

/-- A change that keeps names reaches the loggers of one name and no other. -/
lemma get?_update {change : Logger → Logger} (h : ∀ l, (change l).name = l.name) (other : String) :
    (ls.update name change).get? other =
      if key other = key name then (ls.get? other).map change else ls.get? other := by
  have hname : ((fun l => l.name == key other) ∘ fun l => if l.name == key name then change l else l) =
      fun l : Logger => l.name == key other := by
    funext l
    dsimp only [Function.comp]
    split
    · rw [h]
    · rfl
  rw [update,get?,get?,List.find?_map,hname]
  cases hfind : ls.all.find? fun l => l.name == key other with
  | none => simp
  | some l =>
    have hl : l.name = key other := by simpa using List.find?_some hfind
    rw [Option.map_some,hl]
    by_cases hk : key other = key name <;> simp [hk]

lemma adopt_eq (name : String) (l : Logger) : ∃ parent, adopt name l = { l with parent := parent } := by
  unfold adopt
  split
  · exact ⟨_,rfl⟩
  · exact ⟨l.parent,rfl⟩

lemma find?_adopt (all : List Logger) (name other : String) :
    ((all.map (adopt name)).find? fun l => l.name == other) =
      (all.find? fun l => l.name == other).map (adopt name) := by
  have hname : ((fun l : Logger => l.name == other) ∘ adopt name) = fun l => l.name == other := by
    funext l
    obtain ⟨parent,h⟩ := adopt_eq name l
    rw [Function.comp,h]
  rw [List.find?_map,hname]

lemma obtain_of_some (h : ls.get? name = some l) : ls.obtain name = ls := by
  rw [obtain,if_pos]
  rw [has,h]
  rfl

/-- Obtaining a logger may give another one a new parent, and changes nothing else of it. -/
lemma get?_obtain_of_some (h : ls.get? other = some l) (name : String) :
    ∃ parent, (ls.obtain name).get? other = some { l with parent := parent } := by
  unfold obtain
  split
  · exact ⟨l.parent,h⟩
  · obtain ⟨parent,hadopt⟩ := adopt_eq name l
    refine ⟨parent,?_⟩
    unfold get? at h ⊢
    rw [List.find?_append,find?_adopt,h,Option.map_some,hadopt]
    rfl

lemma get?_obtain_of_none (h : ls.get? other = none) (name : String) :
    (ls.obtain name).get? other = none ∨
      ∃ parent, (ls.obtain name).get? other = some (.fresh name parent) := by
  unfold obtain
  split
  · exact .inl h
  · unfold get? at h ⊢
    rw [List.find?_append,find?_adopt,h,Option.map_none,Option.none_or,List.find?_singleton]
    split
    · exact .inr ⟨_,rfl⟩
    · exact .inl rfl

lemma placesOf_obtain (ls : Loggers) (name other : String) :
    (ls.obtain name).placesOf other = ls.placesOf other := by
  cases h : ls.get? other with
  | some l =>
    obtain ⟨parent,hget⟩ := get?_obtain_of_some h name
    rw [placesOf_of_some h,placesOf_of_some hget]
  | none =>
    rw [placesOf_of_none h]
    rcases get?_obtain_of_none h name with hget | ⟨parent,hget⟩
    · exact placesOf_of_none hget
    · exact placesOf_of_some hget

/-- A logger that has been obtained is there. -/
lemma exists_obtain (hroot : ls.get? Logger.rootName ≠ none) (name : String) :
    ∃ l, (ls.obtain name).get? name = some l := by
  cases h : ls.get? name with
  | some l => exact ⟨l,by rw [obtain_of_some h,h]⟩
  | none =>
    -- The empty name is that of the root, which is always there.
    have hname : name ≠ "" := by
      rintro rfl
      exact hroot h
    have hhas : ¬ls.has name = true := by simp [has,h]
    unfold obtain
    rw [if_neg hhas]
    unfold get? at h ⊢
    rw [List.find?_append,find?_adopt,h,Option.map_none,Option.none_or,List.find?_singleton,
      if_pos (by simp [Logger.fresh,key,hname])]
    exact ⟨_,rfl⟩

end Loggers

/-- A logger that has been set up: it takes every record, keeps it to itself and writes to a file that is
there. -/
structure Logger.IsSetUp (tree : FileTree) (l : Logger) : Prop where
  propagates : l.propagates = false
  level : l.level = some .debug
  disabled : l.disabled = false
  sinks : ∃ verbose way, l.sinks = SetUp.sinks verbose way ∧ ∃ c, tree.get? way = some (.file c)

/-- Loggers of which every one that writes somewhere has been set up. -/
structure Loggers.Settled (ls : Loggers) (tree : FileTree) : Prop where
  root : ls.get? Logger.rootName ≠ none
  isSetUp : ∀ {name l}, ls.get? name = some l → l.sinks ≠ [] → l.IsSetUp tree

namespace SetUp

variable {ls : Loggers} {tree tree' : FileTree} {dir way : List String} {file name other : String}
  {verbose : Bool}

lemma claimed_name (l : Logger) : (claimed l).name = l.name := rfl

lemma attached_name (places : List Sink) (l : Logger) : (attached places l).name = l.name := rfl

@[simp] lemma sinks_ne_nil (verbose : Bool) (way : List String) : sinks verbose way ≠ [] := by
  simp [sinks]

/-- A logger that writes somewhere is refused, and nothing is changed. -/
lemma run_of_taken (h : ls.placesOf name ≠ []) :
    run ls tree dir file verbose name = ⟨.error (.taken name),ls,tree⟩ := by
  obtain ⟨l,hget,-⟩ := Loggers.exists_of_placesOf h
  have hobtain := Loggers.obtain_of_some hget
  unfold run
  rw [hobtain]
  exact if_pos h

lemma run_of_free (h : ls.placesOf name = []) : run ls tree dir file verbose name =
    let claimed := (ls.obtain name).update name claimed
    match openLog tree dir file with
    | (.error f,tree) => ⟨.error (.file f),claimed,tree⟩
    | (.ok way,tree) => ⟨.ok (),claimed.update name (attached (sinks verbose way)),tree⟩ := by
  have hplaces := Loggers.placesOf_obtain ls name name
  rw [h] at hplaces
  unfold run
  exact if_neg (not_not.mpr hplaces)

lemma run_of_unopened {f : FileFault} (h : ls.placesOf name = [])
    (ho : openLog tree dir file = (.error f,tree')) : run ls tree dir file verbose name =
      ⟨.error (.file f),(ls.obtain name).update name claimed,tree'⟩ := by
  rw [run_of_free h,ho]

lemma run_of_opened (h : ls.placesOf name = []) (ho : openLog tree dir file = (.ok way,tree')) :
    run ls tree dir file verbose name = ⟨.ok (),((ls.obtain name).update name claimed).update name
      (attached (sinks verbose way)),tree'⟩ := by
  rw [run_of_free h,ho]

/-- A logger that is claimed has the places that it had before. -/
lemma placesOf_claimed (ls : Loggers) (name other : String) :
    ((ls.obtain name).update name claimed).placesOf other = ls.placesOf other := by
  rw [← Loggers.placesOf_obtain ls name other,Loggers.placesOf,Loggers.placesOf,
    Loggers.get?_update claimed_name]
  split
  · rw [Option.map_map]
    rfl
  · rfl

/-- The places attached are those of the logger set up, and the other loggers have theirs. -/
lemma placesOf_attached (hroot : ls.get? Logger.rootName ≠ none) (h : ls.placesOf name = [])
    (places : List Sink) (other : String) :
    (((ls.obtain name).update name claimed).update name (attached places)).placesOf other =
      if Loggers.key other = Loggers.key name then places else ls.placesOf other := by
  have hclaimed := placesOf_claimed ls name other
  rw [Loggers.placesOf,Loggers.get?_update (attached_name places)]
  split
  · rename_i hkey
    have hsame : ∀ ls : Loggers, ls.get? other = ls.get? name := by
      intro ls
      rw [Loggers.get?,Loggers.get?,hkey]
    obtain ⟨l,hget⟩ := Loggers.exists_obtain hroot name
    have hl : l.sinks = [] := by
      rw [← Loggers.placesOf_of_some hget,Loggers.placesOf_obtain,h]
    rw [hsame,Loggers.get?_update claimed_name,if_pos rfl,hget]
    simp [claimed,attached,hl]
  · exact hclaimed

/-- Setting up a logger is refused, is left when the file cannot be opened, or attaches the places. -/
lemma run_eq (ls : Loggers) (tree : FileTree) (dir : List String) (file : String) (verbose : Bool)
    (name : String) :
    let claimed := (ls.obtain name).update name claimed
    (ls.placesOf name ≠ [] ∧
      run ls tree dir file verbose name = ⟨.error (.taken name),ls,tree⟩) ∨
    (ls.placesOf name = [] ∧ ∃ f tree', openLog tree dir file = (.error f,tree') ∧
      run ls tree dir file verbose name = ⟨.error (.file f),claimed,tree'⟩) ∨
    (ls.placesOf name = [] ∧ ∃ way tree', openLog tree dir file = (.ok way,tree') ∧
      run ls tree dir file verbose name =
        ⟨.ok (),claimed.update name (attached (sinks verbose way)),tree'⟩) := by
  by_cases hplaces : ls.placesOf name = []
  · rcases ho : openLog tree dir file with ⟨result,tree'⟩
    cases result with
    | error f => exact .inr (.inl ⟨hplaces,f,tree',rfl,run_of_unopened hplaces ho⟩)
    | ok way => exact .inr (.inr ⟨hplaces,way,tree',rfl,run_of_opened hplaces ho⟩)
  · exact .inl ⟨hplaces,run_of_taken hplaces⟩

/-- What setting up a logger can come to: it is refused, its file cannot be opened, or it has places. -/
theorem run_cases (hroot : ls.get? Logger.rootName ≠ none) (tree : FileTree) (dir : List String)
    (file : String) (verbose : Bool) (name : String) :
    let s := run ls tree dir file verbose name
    (ls.placesOf name ≠ [] ∧ s = ⟨.error (.taken name),ls,tree⟩) ∨
    (ls.placesOf name = [] ∧ ∃ f, openLog tree dir file = (.error f,s.tree) ∧
      s.result = .error (.file f) ∧ ∀ other, s.loggers.placesOf other = ls.placesOf other) ∨
    (ls.placesOf name = [] ∧ ∃ way, openLog tree dir file = (.ok way,s.tree) ∧ s.result = .ok () ∧
      ∀ other, s.loggers.placesOf other =
        if Loggers.key other = Loggers.key name then sinks verbose way else ls.placesOf other) := by
  dsimp only
  rcases run_eq ls tree dir file verbose name with
    htaken | ⟨hname,f,tree',ho,hrun⟩ | ⟨hname,way,tree',ho,hrun⟩
  · exact .inl htaken
  · rw [hrun]
    exact .inr (.inl ⟨hname,f,ho,rfl,placesOf_claimed ls name⟩)
  · rw [hrun]
    exact .inr (.inr ⟨hname,way,ho,rfl,placesOf_attached hroot hname _⟩)

/-- Setting up a logger leaves all files as they were, and may add an empty one. -/
lemma extends_run (ls : Loggers) (tree : FileTree) (dir : List String) (file : String) (verbose : Bool)
    (name : String) : tree.Extends (run ls tree dir file verbose name).tree := by
  have hopen := tree.extends_openLog dir file
  rcases run_eq ls tree dir file verbose name with
    ⟨-,hrun⟩ | ⟨-,f,tree',ho,hrun⟩ | ⟨-,way,tree',ho,hrun⟩
  · rw [hrun]
    exact .refl tree
  · rw [hrun]
    rwa [ho] at hopen
  · rw [hrun]
    rwa [ho] at hopen

end SetUp

namespace Logger.IsSetUp

variable {tree tree' : FileTree} {l : Logger}

lemma grows (h : l.IsSetUp tree) (ht : tree.Grows tree') : l.IsSetUp tree' where
  propagates := h.propagates
  level := h.level
  disabled := h.disabled
  sinks := by
    obtain ⟨verbose,way,hsinks,c,hc⟩ := h.sinks
    obtain ⟨c',hc',-⟩ := ht.file hc
    exact ⟨verbose,way,hsinks,c',hc'⟩

end Logger.IsSetUp

namespace Loggers.Settled

variable {ls : Loggers} {tree tree' : FileTree} {dir way : List String} {file name : String}
  {verbose : Bool}

lemma initial (tree : FileTree) : Loggers.initial.Settled tree where
  root := by decide
  isSetUp {name l} h hs := by
    unfold Loggers.get? at h
    obtain rfl := List.mem_singleton.mp (List.mem_of_find?_eq_some h)
    exact absurd rfl hs

lemma grows (h : ls.Settled tree) (ht : tree.Grows tree') : ls.Settled tree' where
  root := h.root
  isSetUp hget hs := (h.isSetUp hget hs).grows ht

lemma obtain (h : ls.Settled tree) (name : String) : (ls.obtain name).Settled tree where
  root := by
    obtain ⟨l,hroot⟩ := Option.ne_none_iff_exists'.mp h.root
    obtain ⟨parent,hget⟩ := get?_obtain_of_some hroot name
    rw [hget]
    exact Option.some_ne_none _
  isSetUp {other l'} hget hs := by
    cases hother : ls.get? other with
    | some l =>
      obtain ⟨parent,hget'⟩ := get?_obtain_of_some hother name
      rw [hget'] at hget
      obtain rfl := Option.some.inj hget
      have hset := h.isSetUp hother hs
      exact ⟨hset.propagates,hset.level,hset.disabled,hset.sinks⟩
    | none =>
      rcases get?_obtain_of_none hother name with hget' | ⟨parent,hget'⟩
      · rw [hget'] at hget
        cases hget
      · rw [hget'] at hget
        obtain rfl := Option.some.inj hget
        exact absurd rfl hs

/-- A change of one logger that keeps its name settles if it sets the logger up or leaves it without
places. -/
lemma update (h : ls.Settled tree) {change : Logger → Logger} (hname : ∀ l, (change l).name = l.name)
    (hset : ∀ l, ls.get? name = some l → (change l).sinks ≠ [] → (change l).IsSetUp tree) :
    (ls.update name change).Settled tree where
  root := by
    rw [get?_update hname]
    split
    · simpa using h.root
    · exact h.root
  isSetUp {other l'} hget hs := by
    rw [get?_update hname] at hget
    split at hget
    · rename_i hkey
      obtain ⟨l,hl,rfl⟩ := Option.map_eq_some_iff.mp hget
      refine hset l ?_ hs
      rwa [get?,← hkey]
    · exact h.isSetUp hget hs

lemma claim (h : ls.Settled tree) (name : String) :
    ((ls.obtain name).update name SetUp.claimed).Settled tree := by
  refine (h.obtain name).update SetUp.claimed_name fun l hget hs => ?_
  have hset := (h.obtain name).isSetUp hget hs
  exact ⟨rfl,rfl,rfl,hset.sinks⟩

/-- Setting up a logger leaves loggers settled, however it ends. -/
theorem run (h : ls.Settled tree) (dir : List String) (file : String) (verbose : Bool) (name : String) :
    (SetUp.run ls tree dir file verbose name).loggers.Settled
      (SetUp.run ls tree dir file verbose name).tree := by
  have hgrows := (SetUp.extends_run ls tree dir file verbose name).grows
  rcases SetUp.run_eq ls tree dir file verbose name with
    ⟨-,hrun⟩ | ⟨-,f,tree',-,hrun⟩ | ⟨hname,way,tree',ho,hrun⟩
  · rw [hrun]
    exact h
  · rw [hrun] at hgrows ⊢
    exact (h.claim name).grows hgrows
  · rw [hrun] at hgrows ⊢
    refine ((h.claim name).grows hgrows).update (SetUp.attached_name _) fun l hget _ => ?_
    have hnone : l.sinks = [] := by
      rw [← placesOf_of_some hget,SetUp.placesOf_claimed,hname]
    rw [get?_update SetUp.claimed_name,if_pos rfl] at hget
    obtain ⟨l,-,rfl⟩ := Option.map_eq_some_iff.mp hget
    refine ⟨rfl,rfl,rfl,verbose,way,?_,FileTree.file_of_openLog ho⟩
    rw [SetUp.attached,hnone,List.nil_append]

/-- The places of a logger are a file that is there and, if it is verbose, standard error. -/
lemma exists_sinks (h : ls.Settled tree) (hname : ls.placesOf name ≠ []) : ∃ verbose way,
    ls.placesOf name = SetUp.sinks verbose way ∧ ∃ c, tree.get? way = some (.file c) := by
  obtain ⟨l,hget,hl⟩ := exists_of_placesOf hname
  rw [← hl] at hname ⊢
  exact (h.isSetUp hget hname).sinks

end Loggers.Settled

section Log

variable {ls : Loggers} {name : String} {l : Logger}

lemma Loggers.chain_of_some (h : ls.get? name = some l) : ∃ above, ls.chain name = l :: above := by
  rw [chain,chainUpTo,h]
  dsimp only
  cases l.parent with
  | none => exact ⟨[],rfl⟩
  | some parent => exact ⟨_,rfl⟩

lemma Level.debug_le (level : Level) : Level.debug.rank ≤ level.rank := by
  cases level <;> decide

/-- A record of a logger that has been set up goes to its own places, and no further. -/
theorem Written.log_of_setUp {w : Written} (h : ls.Settled w.tree) {verbose : Bool} {way : List String}
    (hname : ls.placesOf name = SetUp.sinks verbose way) (r : LogRecord) :
    w.log ls name r = ⟨w.tree.log way r.line.toUTF8.toList,
      w.errors ++ if verbose then r.line else ""⟩ := by
  have hplaces : ls.placesOf name ≠ [] := by
    rw [hname]
    exact SetUp.sinks_ne_nil verbose way
  obtain ⟨l,hget,hl⟩ := Loggers.exists_of_placesOf hplaces
  have hset := h.isSetUp hget (by rwa [hl])
  obtain ⟨above,hchain⟩ := Loggers.chain_of_some hget
  have hlevel : ls.levelOf name = .debug := by
    rw [Loggers.levelOf,hchain,List.findSome?_cons,hset.level]
    rfl
  have henabled : ls.isEnabled name r.level = true := by
    simp [Loggers.isEnabled,hget,hlevel,hset.disabled,Level.debug_le]
  have hsinks : ls.sinksOf name = SetUp.sinks verbose way := by
    rw [Loggers.sinksOf,hchain,Loggers.passed,hset.propagates,← hname,← hl]
    simp
  rw [log,if_pos henabled,hsinks]
  cases verbose with
  | true => rfl
  | false =>
    simp only [SetUp.sinks,Bool.false_eq_true,if_false,List.foldl_cons,List.foldl_nil,put,
      String.append_empty]

end Log
end TestBench
