import Mathlib.Tactic.Common
import TestBench.Expansion.Basic

/-! The characters that come up when a template is expanded. Modifiers and what is left behind references
are parts of what was read, so whatever comes up stands in the template or in the environment, or is a
digit of a length. -/
namespace TestBench

namespace Reference

/-- A modifier and what is left behind it are parts of what was read. -/
lemma closed?_subset {depth : ℕ} {cs text rest : List Char} (h : closed? depth cs = some (text,rest)) :
    text ⊆ cs ∧ rest ⊆ cs := by
  fun_induction closed? depth cs generalizing text rest with
  | case1 => contradiction
  | case2 cs =>
    cases h
    exact ⟨List.nil_subset _,List.subset_cons_self _ _⟩
  | case3 depth cs ih | case4 depth cs ih | case5 depth c cs _ _ _ ih =>
    obtain ⟨⟨text',rest'⟩,hclosed,heq⟩ := Option.map_eq_some_iff.mp h
    cases heq
    obtain ⟨htext,hrest⟩ := ih hclosed
    exact ⟨List.cons_subset_cons _ htext,List.subset_cons_of_subset _ hrest⟩

lemma modified?_subset {use : Use} {cs text rest : List Char}
    (h : modified? cs = some (use,text,rest)) : text ⊆ cs ∧ rest ⊆ cs := by
  unfold modified? at h
  split at h
  · contradiction
  · cases h
    exact ⟨List.nil_subset _,List.subset_cons_self _ _⟩
  · obtain ⟨⟨text',rest'⟩,hclosed,heq⟩ := Option.bind_eq_some_iff.mp h
    obtain ⟨htext,hrest⟩ := closed?_subset hclosed
    dsimp only at heq
    split at heq
    · cases heq
      exact ⟨List.subset_cons_of_subset _ htext,List.subset_cons_of_subset _ hrest⟩
    · cases heq
      exact ⟨List.cons_subset_cons _ htext,List.subset_cons_of_subset _ hrest⟩

lemma marks_subset (cs : List Char) : (marks cs).2.2 ⊆ cs := by
  unfold marks
  split
  · exact List.subset_cons_self _ _
  · exact List.subset_cons_self _ _
  · exact List.Subset.refl _

lemma named_subset (bare cs : List Char) : (named bare cs).2 ⊆ cs := by
  unfold named
  split
  · split
    · exact List.subset_cons_of_subset _ (List.dropWhile_subset _)
    · exact List.Subset.refl _
  · exact List.dropWhile_subset _

lemma braced?_subset {r : Reference} {bare cs rest : List Char} (h : braced? bare cs = some (r,rest)) :
    r.modifier ⊆ cs ∧ rest ⊆ cs := by
  have hsub : (named bare (marks cs).2.2).2 ⊆ cs :=
    List.Subset.trans (named_subset bare _) (marks_subset cs)
  have within {text : List Char} (h : text ⊆ (named bare (marks cs).2.2).2 ∧
      rest ⊆ (named bare (marks cs).2.2).2) : text ⊆ cs ∧ rest ⊆ cs :=
    ⟨List.Subset.trans h.1 hsub,List.Subset.trans h.2 hsub⟩
  unfold braced? at h
  generalize hnamed : named bare (marks cs).2.2 = n at h within
  obtain ⟨name,more⟩ := n
  dsimp only at h within
  simp only [hnamed] at h
  split at h
  · contradiction
  · cases h
    exact within ⟨List.nil_subset _,List.subset_cons_self _ _⟩
  · split at h
    · obtain ⟨⟨text,rest'⟩,hclosed,heq⟩ := Option.map_eq_some_iff.mp h
      cases heq
      obtain ⟨htext,hrest⟩ := closed?_subset hclosed
      exact within ⟨List.subset_cons_of_subset _ htext,List.subset_cons_of_subset _ hrest⟩
    · obtain ⟨⟨use,text,rest'⟩,hmodified,heq⟩ := Option.map_eq_some_iff.mp h
      cases heq
      obtain ⟨htext,hrest⟩ := modified?_subset hmodified
      exact within ⟨List.subset_cons_of_subset _ htext,List.subset_cons_of_subset _ hrest⟩
  · obtain ⟨⟨use,text,rest'⟩,hmodified,heq⟩ := Option.map_eq_some_iff.mp h
    cases heq
    exact within (modified?_subset hmodified)

lemma read?_subset {r : Reference} {cs rest : List Char} (h : read? cs = some (r,rest)) :
    r.modifier ⊆ cs ∧ rest ⊆ cs := by
  unfold read? at h
  dsimp only at h
  split at h
  · rename_i more hmore
    have hsub : more ⊆ cs := by
      refine List.Subset.trans (List.subset_cons_self '\x7b' more) ?_
      rw [← hmore]
      exact List.dropWhile_subset _
    obtain ⟨hmodifier,hrest⟩ := braced?_subset h
    exact ⟨List.Subset.trans hmodifier hsub,List.Subset.trans hrest hsub⟩
  · cases h
    exact ⟨List.nil_subset _,List.dropWhile_subset _⟩

end Reference

/-- A slice of a text is a part of it. -/
lemma Slice.of?_subset {cs modifier slice : List Char} (h : Slice.of? cs modifier = some slice) :
    slice ⊆ cs := by
  unfold Slice.of? at h
  split at h
  · contradiction
  · split at h
    · cases h
      exact List.drop_subset _ _
    · obtain ⟨n,-,rfl⟩ := Option.map_eq_some_iff.mp h
      exact List.Subset.trans (List.drop_subset _ _) (List.take_subset _ _)
    · contradiction

section Characters

variable {p : Char → Prop}

/-- All characters of a piece are of a kind, those of its modifier included. -/
inductive Piece.Made (p : Char → Prop) : Piece → Prop
  | char {c} (h : p c) : Made p (.char c)
  | reference {name indirect use modifier} (h : ∀ x ∈ modifier, Made p x) :
    Made p (.reference name indirect use modifier)
  | broken : Made p .broken

/-- All characters of the texts in an environment are of a kind. -/
def Environment.Made (p : Char → Prop) (env : Environment) : Prop :=
  ∀ e ∈ env.entries, ∀ c ∈ e.2.toList, p c

/-- All characters of what comes of expanding are of a kind, and so are those left behind. -/
structure Expanded.Made (p : Char → Prop) (x : Expanded) : Prop where
  text : ∀ cs ∈ x.text, ∀ c ∈ cs, p c
  environment : x.environment.Made p

lemma Piece.made_of_readUpTo {room n : ℕ} {cs : List Char} (h : ∀ c ∈ cs, p c) :
    ∀ x ∈ readUpTo room n cs, x.Made p := by
  induction n generalizing room cs with
  | zero =>
    cases cs with
    | nil => nofun
    | cons c cs => exact List.forall_mem_singleton.mpr .broken
  | succ n ih =>
    cases cs with
    | nil => nofun
    | cons c cs =>
      obtain ⟨hc,hcs⟩ := List.forall_mem_cons.mp h
      unfold readUpTo
      split
      · rename_i hback
        subst hback
        cases cs with
        | nil => exact List.forall_mem_singleton.mpr .broken
        | cons d rest =>
          obtain ⟨hd,hrest⟩ := List.forall_mem_cons.mp hcs
          dsimp only
          split
          · exact List.forall_mem_cons.mpr ⟨.char hd,ih hrest⟩
          · exact List.forall_mem_cons.mpr ⟨.char hc,List.forall_mem_cons.mpr ⟨.char hd,ih hrest⟩⟩
      · split
        · split
          · exact List.forall_mem_singleton.mpr .broken
          · rename_i r rest hread
            obtain ⟨hmodifier,hrest⟩ := Reference.read?_subset hread
            split
            · exact List.forall_mem_singleton.mpr .broken
            · refine List.forall_mem_cons.mpr ⟨.reference ?_,ih fun c hc => hcs c (hrest hc)⟩
              cases room with
              | zero => exact List.forall_mem_singleton.mpr .broken
              | succ room => exact ih fun c hc => hcs c (hmodifier hc)
        · exact List.forall_mem_cons.mpr ⟨.char hc,ih hcs⟩

namespace Environment

variable {env : Environment} {name text : String}

lemma Made.get (h : env.Made p) (hget : env.get? name = some text) : ∀ c ∈ text.toList, p c := by
  obtain ⟨e,he,rfl⟩ := Option.map_eq_some_iff.mp hget
  exact h e (List.mem_of_find?_eq_some he)

lemma Made.set (h : env.Made p) (name : String) (htext : ∀ c ∈ text.toList, p c) :
    (env.set name text).Made p := by
  intro e he
  unfold Environment.set at he
  split at he
  · obtain ⟨e',he',rfl⟩ := List.mem_map.mp he
    split
    · exact htext
    · exact h e' he'
  · obtain he | he := List.mem_append.mp he
    · exact h e he
    · obtain rfl := List.mem_singleton.mp he
      exact htext

end Environment

namespace Expanded

lemma Made.of_some {env : Environment} {cs : List Char} (henv : env.Made p) (hcs : ∀ c ∈ cs, p c) :
    Made p ⟨some cs,env⟩ := ⟨fun _ h => Option.some.inj h ▸ hcs,henv⟩

lemma Made.of_none {env : Environment} (henv : env.Made p) : Made p ⟨none,env⟩ := ⟨nofun,henv⟩

lemma made_fallback {env : Environment} (henv : env.Made p) : Made p ⟨fallback? env,env⟩ := by
  refine ⟨fun cs hcs => ?_,henv⟩
  obtain ⟨text,htext,rfl⟩ := Option.map_eq_some_iff.mp hcs
  exact henv.get htext

lemma made_lookUp {env : Environment} (henv : env.Made p) {name : List Char} {indirect : Bool}
    {value : Option (List Char)} (h : lookUp env name indirect = some value) :
    ∀ cs ∈ value, ∀ c ∈ cs, p c := by
  have hown {name : String} : ∀ cs ∈ (env.get? name).map String.toList, ∀ c ∈ cs, p c := by
    intro cs hcs
    obtain ⟨text,htext,rfl⟩ := Option.map_eq_some_iff.mp hcs
    exact henv.get htext
  unfold lookUp at h
  dsimp only at h
  split at h
  · obtain ⟨text,-,rfl⟩ := Option.map_eq_some_iff.mp h
    exact hown
  · obtain rfl := Option.some.inj h
    exact hown

lemma apply_made (hdigits : ∀ c, c.isDigit = true → p c) {strict : Bool} {env : Environment}
    {name : List Char} {use : Use} {value : Option (List Char)} {modifier : List Char}
    (henv : env.Made p) (hvalue : ∀ cs ∈ value, ∀ c ∈ cs, p c) (hmodifier : ∀ c ∈ modifier, p c) :
    (apply strict env name use value modifier).Made p := by
  have hown : ∀ c ∈ value.getD [], p c := by
    cases value with
    | none => nofun
    | some cs => exact hvalue cs rfl
  have hsame : Made p ⟨value,env⟩ := ⟨hvalue,henv⟩
  have hempty : Made p ⟨some [],env⟩ := .of_some henv nofun
  have hother : Made p ⟨some modifier,env⟩ := .of_some henv hmodifier
  cases use with
  | value =>
    cases value with
    | some cs => exact hsame
    | none =>
      cases strict with
      | true => exact made_fallback henv
      | false => exact hempty
  | length =>
    rw [apply]
    split
    · refine .of_some henv fun c hc => hdigits c ?_
      rw [Nat.toString_eq_repr,Nat.repr_eq_ofList_toDigits,String.toList_ofList] at hc
      exact Nat.isDigit_of_mem_toDigits (by decide) (by decide) hc
    · exact .of_none henv
  | orElse =>
    rw [apply]
    obtain _ | _ | ⟨c,cs⟩ := value
    · exact hother
    · exact hother
    · exact hsame
  | orAssign =>
    rw [apply]
    split
    · exact hsame
    · split
      · exact ⟨hother.text,henv.set _ (by simpa using hmodifier)⟩
      · exact .of_none henv
  | ifAny =>
    rw [apply]
    split
    · exact hother
    · exact hempty
  | required =>
    rw [apply]
    split
    · exact hsame
    · exact made_fallback henv
  | slice =>
    rw [apply]
    exact ⟨fun cs hcs c hc => hown c (Slice.of?_subset hcs hc),henv⟩

end Expanded

namespace Piece

lemma expandAll_made_of {pieces : List Piece} (h : ∀ x ∈ pieces, ∀ strict env, env.Made p →
      (x.expand strict env).Made p) (strict : Bool) {env : Environment} (henv : env.Made p) :
    (expandAll strict pieces env).Made p := by
  induction pieces generalizing env with
  | nil => exact .of_some henv nofun
  | cons piece pieces ih =>
    obtain ⟨hpiece,hpieces⟩ := List.forall_mem_cons.mp h
    have hfirst := hpiece strict env henv
    have hrest := ih hpieces hfirst.environment
    rw [expandAll]
    cases htext : (piece.expand strict env).text with
    | none => exact .of_none hfirst.environment
    | some text =>
      refine ⟨fun cs hcs c hc => ?_,hrest.environment⟩
      obtain ⟨more,hmore,rfl⟩ := Option.map_eq_some_iff.mp hcs
      obtain hc | hc := List.mem_append.mp hc
      · exact hfirst.text text htext c hc
      · exact hrest.text more hmore c hc

lemma Made.expand (hdigits : ∀ c, c.isDigit = true → p c) {piece : Piece} (h : piece.Made p) :
    ∀ strict env, env.Made p → (piece.expand strict env).Made p := by
  induction h with
  | char hc => exact fun _ _ henv => .of_some henv (List.forall_mem_singleton.mpr hc)
  | broken => exact fun _ _ henv => .of_none henv
  | @reference name indirect use modifier _ ih =>
    intro strict env henv
    have hinner := expandAll_made_of ih false henv
    rw [Piece.expand]
    cases hvalue : Expanded.lookUp env name indirect with
    | none => exact .of_none henv
    | some value =>
      dsimp only
      cases htext : (expandAll false modifier env).text with
      | none => exact .of_none hinner.environment
      | some text =>
        exact Expanded.apply_made hdigits hinner.environment (Expanded.made_lookUp henv hvalue)
          (hinner.text text htext)

end Piece

/-- Whatever comes up in an expansion is a digit or comes from the template or the environment. -/
theorem expand_made (hdigits : ∀ c, c.isDigit = true → p c) {s : String} {env : Environment}
    (hs : ∀ c ∈ s.toList, p c) (henv : env.Made p) : (expand s env).Made p :=
  Piece.expandAll_made_of (fun x hx => (Piece.made_of_readUpTo hs x hx).expand hdigits) true henv

end Characters

end TestBench
