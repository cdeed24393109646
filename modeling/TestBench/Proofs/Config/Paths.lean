import TestBench.Config.Load
import TestBench.Proofs.Characters
import TestBench.Proofs.Computation
import TestBench.Proofs.Config.Judge
import TestBench.Proofs.Path

/-! The search paths of a configuration that is read. An absolute one is cleaned by its text alone; a
relative one is walked from the directory of the file on. Either way what comes out is absolute, and is
the same when it is taken for a search path again. -/
namespace TestBench

namespace Path

/-- The components of a path as they are written, empty ones and dots among them. -/
def components (s : String) : List String := (pieces s.toList).map String.ofList

/-- Walking along components from one way from the root to another. An empty component and a dot stay, two
dots go back, but not beyond the root, and everything else goes on. -/
inductive Walks : List String → List String → List String → Prop
  | done (way) : Walks way [] way
  | stay {way c cs last} (hc : c = "" ∨ c = ".") (h : Walks way cs last) : Walks way (c :: cs) last
  | top {cs last} (h : Walks [] cs last) : Walks [] (".." :: cs) last
  | back {way d cs last} (h : Walks way cs last) : Walks (way ++ [d]) (".." :: cs) last
  | on {way c cs last} (hc : c ≠ "" ∧ c ≠ "." ∧ c ≠ "..") (h : Walks (way ++ [c]) cs last) :
    Walks way (c :: cs) last

variable {way cs last : List String}

/-- There is one way to walk. -/
lemma walks_iff : Walks way cs last ↔ (cs.filter isPart).foldl stepTo way = last := by
  constructor
  · intro h
    induction h with
    | done way => rfl
    | stay hc _ ih =>
      rw [List.filter_cons_of_neg (by rcases hc with rfl | rfl <;> decide)]
      exact ih
    | top _ ih => exact ih
    | @back way d cs last _ ih =>
      rw [List.filter_cons_of_pos (by decide),List.foldl_cons,stepTo,if_pos rfl,List.dropLast_concat]
      exact ih
    | on hc _ ih =>
      rw [List.filter_cons_of_pos (by simp [isPart,hc.1,hc.2.1]),List.foldl_cons,stepTo,
        if_neg hc.2.2]
      exact ih
  · rintro rfl
    induction cs generalizing way with
    | nil => exact .done way
    | cons c cs ih =>
      by_cases hstay : c = "" ∨ c = "."
      · rw [List.filter_cons_of_neg (by rcases hstay with rfl | rfl <;> decide)]
        exact .stay hstay ih
      · obtain ⟨hempty,hdot⟩ := not_or.mp hstay
        rw [List.filter_cons_of_pos (by simp [isPart,hempty,hdot]),List.foldl_cons,stepTo]
        split
        · rename_i hup
          subst hup
          obtain rfl | ⟨front,d,rfl⟩ := List.eq_nil_or_concat way
          · exact .top ih
          · rw [List.concat_eq_append,List.dropLast_concat]
            exact .back ih
        · rename_i hup
          exact .on ⟨hempty,hdot,hup⟩ ih

/-- What is true of the parts of a way and of the components that go on is true wherever one comes to. -/
lemma Walks.forall {p : String → Prop} (h : Walks way cs last) (hway : ∀ part ∈ way, p part)
    (hcs : ∀ c ∈ cs, c ≠ "" → c ≠ "." → c ≠ ".." → p c) : ∀ part ∈ last, p part := by
  induction h with
  | done => exact hway
  | stay _ _ ih => exact ih hway (List.forall_mem_cons.mp hcs).2
  | top _ ih => exact ih hway (List.forall_mem_cons.mp hcs).2
  | back _ ih => exact ih (List.forall_mem_append.mp hway).1 (List.forall_mem_cons.mp hcs).2
  | on hc _ ih =>
    obtain ⟨hfirst,hrest⟩ := List.forall_mem_cons.mp hcs
    exact ih (List.forall_mem_append.mpr
      ⟨hway,List.forall_mem_singleton.mpr (hfirst hc.1 hc.2.1 hc.2.2)⟩) hrest

/-- A part of a way that is walked to the end: it is kept in reading and does not go back. -/
def IsStep (part : String) : Prop := IsKept part ∧ part ≠ ".."

lemma no_slash_of_mem_components {s c : String} (h : c ∈ components s) : '/' ∉ c.toList := by
  obtain ⟨piece,hpiece,rfl⟩ := List.mem_map.mp h
  simpa using (of_mem_pieces hpiece).1

lemma Walks.isStep {s : String} (h : Walks way (components s) last) (hway : ∀ part ∈ way, IsStep part) :
    ∀ part ∈ last, IsStep part :=
  h.forall hway fun _ hc hempty hdot hup => ⟨⟨hempty,hdot,no_slash_of_mem_components hc⟩,hup⟩

end Path

namespace Config

open TestBench.Path

/-- What becomes of a search path that is read from a file in a directory. -/
inductive Settles (home : List String) (entry : String) : String → Prop
  | absolute (h : slashes entry ≠ 0) : Settles home entry
    ((if slashes entry = 2 then "//" else "/") ++ "/".intercalate ((components entry).filter isPart))
  | relative {way} (h : slashes entry = 0) (hway : Walks home (components entry) way) :
    Settles home entry ("/" ++ "/".intercalate way)

/-- A file that is read from a working directory has these entries, and they are accepted in an
environment, which leaves another one. -/
structure Accepts (tree : FileTree) (dir : List String) (name : String) (env : Environment)
    (entries : List (String × Given)) (given : Config) (after : Environment) : Prop where
  read : ∃ bytes, tree.read dir (ofText name) = .ok bytes ∧
    entriesOfBytes (ofText name).text bytes = .ok entries
  judged : judge entries env = (.ok given,after)

/-- The search paths that entries give, before they are expanded. -/
inductive GivesPaths (entries : List (String × Given)) : List String → Prop
  | none (h : givenOf? entries "search_paths" = none) : GivesPaths entries []
  | some {g texts} (h : givenOf? entries "search_paths" = some g) (htexts : IsTexts g texts) :
    GivesPaths entries texts

variable {home : List String} {entry p : String}

lemma parts_ofText (s : String) : (ofText s).parts = (components s).filter isPart := rfl

/-- A path that begins with slashes has one of the two roots for its anchor. -/
lemma anchor_of_absolute (h : slashes entry ≠ 0) : (ofText entry).anchor ≠ .here ∧
    Anchor.text (ofText entry).anchor = if slashes entry = 2 then "//" else "/" := by
  rw [ofText_anchor]
  split
  · contradiction
  · rename_i htwo
    rw [if_pos htwo]
    exact ⟨nofun,rfl⟩
  · rename_i htwo
    rw [if_neg htwo]
    exact ⟨nofun,rfl⟩

/-- Parts that are kept are walked along from where one is. -/
lemma walks_append {way parts : List String} (hway : ∀ part ∈ way, IsStep part)
    (hparts : ∀ part ∈ parts, IsKept part) : Walks way parts (walk (way ++ parts)) := by
  have hself : way.foldl stepTo [] = way := walk_self fun part hpart => (hway part hpart).2
  rw [walks_iff,filter_isKept hparts,walk,List.foldl_append,hself]

/-- Empty components and dots may as well be left out. -/
lemma walks_filter {way cs last : List String} : Walks way (cs.filter isPart) last ↔ Walks way cs last := by
  rw [walks_iff,walks_iff,List.filter_filter]
  simp only [Bool.and_self]

/-- A relative path is walked from where the directory is. -/
lemma walks_resolve (hhome : ∀ part ∈ home, IsStep part) (h : slashes entry = 0) :
    ∃ way, Path.resolve (ofWay home) (ofText entry) = ofWay way ∧
      Walks home (components entry) way := by
  have hrelative : ¬(ofText entry).isAbsolute = true := by simp [isAbsolute_iff,h]
  have hwalks := walks_append hhome fun _ => isKept_of_mem_parts (s := entry)
  refine ⟨_,?_,walks_filter.mp hwalks⟩
  rw [Path.resolve,within,if_neg hrelative]
  rfl

lemma settles_resolvePath (hhome : ∀ part ∈ home, IsStep part) (hnul : '\x00' ∉ entry.toList) :
    ∃ p, resolvePath (ofWay home) entry = .ok p ∧ Settles home entry p := by
  by_cases h : slashes entry = 0
  · have hrelative : ¬(ofText entry).isAbsolute = true := by simp [isAbsolute_iff,h]
    obtain ⟨way,hway,hwalks⟩ := walks_resolve hhome h
    refine ⟨_,?_,.relative h hwalks⟩
    rw [resolvePath,if_neg hrelative,hasNul_ofText hnul,if_neg Bool.false_ne_true,hway,ofWay,text_full]
  · obtain ⟨hanchor,htext⟩ := anchor_of_absolute h
    refine ⟨_,?_,.absolute h⟩
    rw [resolvePath,if_pos ((isAbsolute_iff entry).mpr h),← htext,← parts_ofText,← text_anchored hanchor]

/-- A search path that has been settled is a path from a root with parts that are all kept. -/
lemma Settles.exists_path (h : Settles home entry p) (hhome : ∀ part ∈ home, IsStep part) :
    ∃ a parts, a ≠ .here ∧ (∀ part ∈ parts, IsKept part) ∧ p = (Path.mk a parts).text := by
  cases h with
  | absolute h =>
    obtain ⟨hanchor,htext⟩ := anchor_of_absolute h
    refine ⟨(ofText entry).anchor,(ofText entry).parts,hanchor,fun _ => isKept_of_mem_parts,?_⟩
    rw [text_anchored hanchor,htext,parts_ofText]
  | relative h hway =>
    exact ⟨.root,_,nofun,fun part hpart => (hway.isStep hhome part hpart).1,(text_full _).symm⟩

/-- A search path that has been settled is absolute, and settled for good. -/
lemma Settles.fixed (h : Settles home entry p) (hhome : ∀ part ∈ home, IsStep part) :
    slashes p ≠ 0 ∧ ∀ other, resolvePath other p = .ok p := by
  obtain ⟨a,parts,ha,hparts,rfl⟩ := h.exists_path hhome
  have hread := ofText_text ha hparts
  have habsolute : (ofText (Path.mk a parts).text).isAbsolute = true := by
    rw [hread,isAbsolute]
    exact bne_iff_ne.mpr ha
  refine ⟨(isAbsolute_iff _).mp habsolute,fun other => ?_⟩
  rw [resolvePath,if_pos habsolute,hread]

/-- The directory of a file is walked to by its name, from the working directory on if that is relative. -/
lemma walks_parent {dir : List String} (hdir : ∀ part ∈ dir, IsPlainPart part) (name : String) :
    ∃ home, Path.resolve (ofWay dir) (ofText name).parent = ofWay home ∧
      Walks (if slashes name = 0 then dir else []) ((components name).filter isPart).dropLast home ∧
      ∀ part ∈ home, IsStep part := by
  have hfront : ∀ part ∈ (ofText name).parts.dropLast, IsKept part := fun part hpart =>
    isKept_of_mem_parts (List.dropLast_subset _ hpart)
  have hstart : ∀ part ∈ if slashes name = 0 then dir else [], IsStep part := by
    split
    · exact fun part hpart => ⟨(hdir part hpart).isKept,(hdir part hpart).not_up⟩
    · nofun
  have hwalks := walks_append hstart hfront
  refine ⟨_,?_,hwalks,?_⟩
  · rw [Path.resolve,within]
    by_cases h : slashes name = 0
    · have hrelative : ¬(ofText name).parent.isAbsolute = true := by
        rw [show (ofText name).parent.isAbsolute = (ofText name).isAbsolute from rfl,isAbsolute_iff]
        exact not_not.mpr h
      rw [if_neg hrelative,if_pos h]
      rfl
    · have habsolute : (ofText name).parent.isAbsolute = true := (isAbsolute_iff name).mpr h
      rw [if_pos habsolute,if_neg h]
      rfl
  · exact hwalks.forall hstart fun part hpart _ _ hup => ⟨hfront part hpart,hup⟩

section Loaded

variable {tree : FileTree} {dir : List String} {name : String} {env after : Environment}
  {entries : List (String × Given)} {given : Config}

lemma Accepts.load (h : Accepts tree dir name env entries given after) :
    load tree dir (ofText name) env =
      (given.resolved (Path.resolve (ofWay dir) (ofText name).parent),after) := by
  obtain ⟨bytes,hread,hentries⟩ := h.read
  unfold Config.load
  rw [hread]
  dsimp only
  unfold ofBytes
  rw [hentries]
  dsimp only
  rw [h.judged]

lemma expansions_made {p : Char → Prop} (hdigits : ∀ c, c.isDigit = true → p c) {texts : List String}
    (htexts : ∀ text ∈ texts, ∀ c ∈ text.toList, p c) (henv : env.Made p) :
    ∀ e ∈ expansions texts env, ∀ cs ∈ e.2, ∀ c ∈ cs, p c := by
  induction texts generalizing env with
  | nil => nofun
  | cons text texts ih =>
    obtain ⟨htext,htexts⟩ := List.forall_mem_cons.mp htexts
    have hmade := expand_made hdigits htext henv
    exact List.forall_mem_cons.mpr ⟨hmade.text,ih htexts hmade.environment⟩

/-- An accepted configuration has what its search paths expand to. -/
lemma Accepts.exists_texts (h : Accepts tree dir name env entries given after) :
    ∃ texts, GivesPaths entries texts ∧
      List.Forall₂ (fun e path => e.2 = some path.toList) (expansions texts env) given.searchPaths := by
  obtain ⟨hnone,hpaths,-⟩ | ⟨g,texts,hg,htexts,hpaths,-⟩ := ((judge_eq_ok entries).mp h.judged).paths
  · rw [hpaths]
    exact ⟨[],.none hnone,.nil⟩
  · exact ⟨texts,.some hg htexts,hpaths⟩

/-- Search paths expand to nothing with a character that neither they nor the environment have. -/
lemma no_nul_of_expansions {texts paths : List String} (henv : env.Made (· ≠ '\x00'))
    (htexts : ∀ text ∈ texts, '\x00' ∉ text.toList)
    (hpaths : List.Forall₂ (fun e path => e.2 = some path.toList) (expansions texts env) paths) :
    ∀ path ∈ paths, '\x00' ∉ path.toList := by
  have hdigit : ∀ c : Char, c.isDigit = true → c ≠ '\x00' := by
    rintro _ hc rfl
    contradiction
  have hgiven : ∀ text ∈ texts, ∀ c ∈ text.toList, c ≠ '\x00' := by
    rintro text htext _ hc rfl
    exact htexts text htext hc
  have hmade := expansions_made hdigit hgiven henv
  obtain ⟨-,rfl⟩ := forall₂_expansions.mp hpaths
  intro path hpath hnul
  obtain ⟨e,he,hexpands⟩ := List.mem_filterMap.mp hpath
  obtain ⟨cs,hcs,rfl⟩ := Option.map_eq_some_iff.mp hexpands
  rw [String.toList_ofList] at hnul
  exact hmade e he cs hcs _ hnul rfl

end Loaded

/-- If a configuration is accepted, what its search paths expand to is taken from the directory of its file,
one by one and in order. A path that is absolute then is cleaned by its text alone; a relative one is
walked from that directory on, which is itself walked to from the working directory. All that come out
are absolute, and stay what they are as search paths of any configuration. This takes search paths
without the character that ends text; and they are without it if they are so as they are given, and
if the environment is. -/
theorem searchPaths_settled {tree : FileTree} {dir : List String} {name : String}
    {env after : Environment} {entries : List (String × Given)} {given : Config}
    (hdir : ∀ part ∈ dir, IsPlainPart part) (h : Accepts tree dir name env entries given after) :
    ∃ texts, GivesPaths entries texts ∧
      List.Forall₂ (fun e path => e.2 = some path.toList) (expansions texts env) given.searchPaths ∧
      (env.Made (· ≠ '\x00') → (∀ text ∈ texts, '\x00' ∉ text.toList) →
        ∀ entry ∈ given.searchPaths, '\x00' ∉ entry.toList) ∧
      ((∀ entry ∈ given.searchPaths, '\x00' ∉ entry.toList) →
        ∃ c home, load tree dir (ofText name) env = (.ok c,after) ∧
          c.tests = given.tests ∧ c.reports = given.reports ∧
          Walks (if slashes name = 0 then dir else []) ((components name).filter isPart).dropLast home ∧
          List.Forall₂ (fun entry p => Settles home entry p ∧ slashes p ≠ 0 ∧
            ∀ other, resolvePath other p = .ok p) given.searchPaths c.searchPaths) := by
  obtain ⟨texts,hgives,hexpand⟩ := h.exists_texts
  refine ⟨texts,hgives,hexpand,fun henv htexts => no_nul_of_expansions henv htexts hexpand,
    fun hnul => ?_⟩
  obtain ⟨home,hhome,hwalks,hsteps⟩ := walks_parent hdir name
  have hall : ∀ entry ∈ given.searchPaths, ∃ p, resolvePath (ofWay home) entry = .ok p ∧
      Settles home entry p ∧ slashes p ≠ 0 ∧ ∀ other, resolvePath other p = .ok p := by
    intro entry hentry
    obtain ⟨p,hp,hsettles⟩ := settles_resolvePath hsteps (hnul entry hentry)
    exact ⟨p,hp,hsettles,hsettles.fixed hsteps⟩
  obtain ⟨paths,hpaths,hsettled⟩ := exists_mapM hall
  refine ⟨{ given with searchPaths := paths },home,?_,rfl,rfl,hwalks,hsettled⟩
  rw [h.load,hhome,resolved,hpaths]
  rfl

/-- What is accepted of a file, if anything. -/
def accepted (tree : FileTree) (dir : List String) (name : String) (env : Environment) : Option Config :=
  match tree.read dir (ofText name) with
  | .error _ => none
  | .ok bytes =>
    match entriesOfBytes (ofText name).text bytes with
    | .error _ => none
    | .ok entries => (judge entries env).1.toOption

lemma accepts_of_accepted {tree : FileTree} {dir : List String} {name : String} {env : Environment}
    {given : Config} (h : accepted tree dir name env = some given) :
    ∃ entries after, Accepts tree dir name env entries given after := by
  unfold accepted at h
  split at h
  · contradiction
  · rename_i bytes hread
    split at h
    · contradiction
    · rename_i entries hentries
      refine ⟨entries,(judge entries env).2,⟨bytes,hread,hentries⟩,Prod.ext ?_ rfl⟩
      cases hjudge : (judge entries env).1 with
      | error ms =>
        rw [hjudge] at h
        contradiction
      | ok c =>
        rw [hjudge] at h
        exact congrArg _ (Option.some.inj h)

/-- A configuration with a search path from a variable, one that goes back and forth, an empty one, and one
that goes back beyond the root. -/
def fourPaths : FileTree :=
  FileTree.empty.plant ["w","sub","c.yml"] ⟨("tests: ['m:t']\n"
    ++ "search_paths: ['$\x7bHOME\x7d/../v', '../x/./..//y', '', '../../../../z']\n").toUTF8.toList,none⟩

theorem searchPaths_settled_four :
    let env : Environment := ⟨[("HOME","//h/./u")]⟩
    let given : Config := ⟨["m:t"],["//h/./u/../v","../x/./..//y","","../../../../z"],true⟩
    (∀ part ∈ ["w"], IsPlainPart part) ∧
      ∃ entries after, Accepts fourPaths ["w"] "sub/../sub//c.yml" env entries given after ∧
        ∃ c home, load fourPaths ["w"] (ofText "sub/../sub//c.yml") env = (.ok c,after) ∧
          Walks ["w"] ["sub","..","sub"] home ∧
          List.Forall₂ (fun entry p => Settles home entry p ∧ slashes p ≠ 0 ∧
            ∀ other, resolvePath other p = .ok p) given.searchPaths c.searchPaths ∧
          c.searchPaths = ["//h/u/../v","/w/y","/w/sub","/z"] := by
  intro env given
  have hdir : ∀ part ∈ ["w"], IsPlainPart part :=
    List.forall_mem_singleton.mpr ⟨by decide,by decide,by decide,by decide,by decide⟩
  have hgiven : accepted fourPaths ["w"] "sub/../sub//c.yml" env = some given := by decide +kernel
  have hloaded : (load fourPaths ["w"] (ofText "sub/../sub//c.yml") env).1.toOption.map Config.searchPaths =
      some ["//h/u/../v","/w/y","/w/sub","/z"] := by decide +kernel
  obtain ⟨entries,after,haccepts⟩ := accepts_of_accepted hgiven
  obtain ⟨texts,-,-,-,hsettled⟩ := searchPaths_settled hdir haccepts
  obtain ⟨c,home,hload,-,-,hwalks,hall⟩ := hsettled (by decide)
  rw [hload] at hloaded
  exact ⟨hdir,entries,after,haccepts,c,home,hload,hwalks,hall,Option.some.inj hloaded⟩

end Config
end TestBench
