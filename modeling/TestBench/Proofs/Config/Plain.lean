import TestBench.Config.Load
import TestBench.Proofs.Computation
import TestBench.Proofs.Config.Judge
import TestBench.Proofs.Expansion
import TestBench.Proofs.Path

/-! Configurations that say plainly what they mean. Search paths that are full and refer to nothing come
out of a configuration as they are written, and so does the flag, whatever the tests are. -/
namespace TestBench

/-- A search path that stands for itself, in arguments as well as in a configuration. -/
structure IsPlainPath (p : String) : Prop where
  full : Path.IsFull p
  plain : IsPlainTemplate p.toList

namespace Config

variable {ts sp texts : List String} {b : Bool} {env : Environment} {g : Given}
  {entries : List (String × Given)}

/-- Texts that are given as a list. -/
def listed (texts : List String) : Given := .ofValue (.list (texts.map .text))

lemma isTexts_listed (texts : List String) : IsTexts (listed texts) texts := by
  refine ⟨texts.map .text,rfl,?_⟩
  rw [List.forall₂_map_left_iff]
  exact List.forall₂_same.mpr fun s _ => .text s

/-- The entries of a configuration with some tests, some search paths and whether to report, in any
order. -/
def AreEntries (g : Given) (sp : List String) (b : Bool) (entries : List (String × Given)) : Prop :=
  entries.Perm [("tests",g),("search_paths",listed sp),("print_error_messages",.ofValue (.bool b))]

lemma givenOf?_of_mem {key : String} (hkeys : (entries.map Prod.fst).Nodup) (h : (key,g) ∈ entries) :
    givenOf? entries key = some g := by
  induction entries with
  | nil => cases h
  | cons e es ih =>
    obtain ⟨hnot,hkeys⟩ := List.nodup_cons.mp hkeys
    rw [givenOf?,List.find?_cons]
    rcases List.mem_cons.mp h with rfl | h
    · simp
    · have hne : e.1 ≠ key := by
        rintro rfl
        exact hnot (List.mem_map.mpr ⟨_,h,rfl⟩)
      have hkey : (e.1 == key) = false := beq_eq_false_iff_ne.mpr hne
      rw [hkey]
      exact ih hkeys h

lemma AreEntries.given (h : AreEntries g sp b entries) : givenOf? entries "tests" = some g ∧
    givenOf? entries "search_paths" = some (listed sp) ∧
    givenOf? entries "print_error_messages" = some (.ofValue (.bool b)) := by
  have hkeys : (entries.map Prod.fst).Nodup :=
    (h.map Prod.fst).nodup_iff.mpr (by simp)
  exact ⟨givenOf?_of_mem hkeys (h.mem_iff.mpr (by simp)),
    givenOf?_of_mem hkeys (h.mem_iff.mpr (by simp)),givenOf?_of_mem hkeys (h.mem_iff.mpr (by simp))⟩

lemma AreEntries.known (h : AreEntries g sp b entries) : ∀ e ∈ entries, e.1 ∈ fields := by
  intro e he
  have hmem := h.mem_iff.mp he
  simp only [List.mem_cons,List.not_mem_nil,or_false] at hmem
  rcases hmem with rfl | rfl | rfl <;> simp [fields]

/-- Plain search paths expand to themselves and leave the environment alone. -/
lemma pathsVerdict_plain (h : ∀ p ∈ sp, IsPlainPath p) (env : Environment) :
    pathsVerdict env (some (listed sp)) = (.ok sp,env) := by
  refine pathsVerdict_eq_ok.mpr (.inr ⟨listed sp,sp,rfl,isTexts_listed sp,?_,?_⟩)
  · induction sp with
    | nil => exact .nil
    | cons p sp ih =>
      obtain ⟨hp,hsp⟩ := List.forall_mem_cons.mp h
      rw [expansions,expand_plain hp.plain]
      exact .cons rfl (ih hsp)
  · induction sp with
    | nil => rfl
    | cons p sp ih =>
      obtain ⟨hp,hsp⟩ := List.forall_mem_cons.mp h
      rw [environmentAfter,List.foldl_cons,expand_plain hp.plain]
      exact ih hsp

lemma reportsVerdict_bool (b : Bool) : reportsVerdict (some (.ofValue (.bool b))) = .ok b :=
  reportsVerdict_eq_ok.mpr (.inr ⟨_,rfl,.bool b⟩)

/-- Entries with plain search paths are accepted exactly if the tests are, and give the search paths and
the flag as they are. -/
lemma judge_of_entries (h : AreEntries g sp b entries) (hsp : ∀ p ∈ sp, IsPlainPath p)
    (env : Environment) : (∀ tests, testsVerdict (asDict entries) (some g) = .ok tests →
      judge entries env = (.ok ⟨tests,sp,b⟩,env)) ∧
    ∀ c, (judge entries env).1 = .ok c → c.searchPaths = sp ∧ c.reports = b := by
  obtain ⟨htests,hpaths,hreports⟩ := h.given
  have hknown := (unknownMistakes_eq_nil entries).mpr h.known
  have heq := judge_eq entries env
  rw [htests,hpaths,hreports,hknown,pathsVerdict_plain hsp,reportsVerdict_bool] at heq
  constructor
  · intro tests hverdict
    rw [heq,hverdict]
  · intro c hc
    rw [heq] at hc
    cases hverdict : testsVerdict (asDict entries) (some g) with
    | error ms =>
      rw [hverdict] at hc
      cases hc
    | ok tests =>
      rw [hverdict] at hc
      obtain rfl := Except.ok.inj hc
      exact ⟨rfl,rfl⟩

lemma textEntries_of_texts (entries : List (String × Given)) :
    textEntries (entries.map fun e => (.text e.1,e.2)) = some entries := by
  induction entries with
  | nil => rfl
  | cons e es ih => rw [List.map_cons,textEntries,ih]; rfl

/-- Full search paths are the same from every directory. -/
lemma resolved_of_plain (hsp : ∀ p ∈ sp, IsPlainPath p) (dir : Path) (tests : List String) (b : Bool) :
    resolved dir ⟨tests,sp,b⟩ = .ok ⟨tests,sp,b⟩ := by
  have hpaths : sp.mapM (resolvePath dir) = .ok sp := by
    refine mapM_self fun p hp => ?_
    obtain ⟨habsolute,htext⟩ := Path.ofText_of_isFull (hsp p hp).full
    rw [resolvePath,if_pos habsolute,htext]
  rw [resolved,hpaths]
  rfl

end Config

end TestBench
