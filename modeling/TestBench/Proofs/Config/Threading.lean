import TestBench.Proofs.Config.Plain
import TestBench.Proofs.Expanding
import TestBench.Proofs.Isolation

/-! Expanding search paths one after the other. Each of them is expanded in the environment that all before
it leave, the ones that fail among them; and that environment is the first one with what they have
assigned. So search paths that assign nothing can be expanded in any order. -/
namespace TestBench.Config

/-- The assignments that are made while search paths are expanded, in order. -/
def assignmentsOf : List String → Environment → List (String × String)
  | [], _ => []
  | entry :: entries, env =>
    assignments entry env ++ assignmentsOf entries (expand entry env).environment

/-- What is said of search paths, each of which came to what stands with it: all that they expanded to, or
else all that did not expand, in one text. -/
inductive SaidOf (g : Given) (each : List (String × Option (List Char))) : Verdict (List String) → Prop
  | fine {paths} (h : List.Forall₂ (fun e path => e.2 = some path.toList) each paths) :
    SaidOf g each (.ok paths)
  | bad (h : ∃ e ∈ each, e.2 = none) : SaidOf g each (.error [⟨"search_paths",none,
      .rejected ("search_paths reference unset environment variables:\n" ++ "\n".intercalate
        (((each.filter fun e => e.2.isNone).map Prod.fst).map ("  " ++ ·))),g.value⟩])

variable {entries : List String} {env : Environment} {g : Given}

/-- The environment after search paths is the one before with all that they have assigned. -/
lemma environmentAfter_eq (entries : List String) (env : Environment) :
    environmentAfter entries env = env.setAll (assignmentsOf entries env) := by
  induction entries generalizing env with
  | nil => rfl
  | cons entry entries ih =>
    rw [assignmentsOf,Environment.setAll_append,← expand_environment,← ih]
    rfl

/-- Each search path is expanded in the environment that all before it leave. -/
lemma getElem?_expansions (entries : List String) (env : Environment) (i : ℕ) :
    (expansions entries env)[i]? = entries[i]?.map fun entry =>
      (entry,(expand entry (environmentAfter (entries.take i) env)).text) := by
  induction entries generalizing env i with
  | nil => rfl
  | cons entry entries ih =>
    cases i with
    | zero => rfl
    | succ i =>
      simp only [expansions,List.getElem?_cons_succ,ih,List.take_succ_cons]
      rfl

lemma saidOf_judgePaths (h : IsTexts g entries) :
    SaidOf g (expansions entries env) (judgePaths g env).1 := by
  rw [judgePaths_of_texts h]
  by_cases hall : unexpanded entries env = []
  · rw [if_pos hall]
    exact .fine (forall₂_expansions.mpr ⟨hall,rfl⟩)
  · rw [if_neg hall]
    have hbad : ∃ e ∈ expansions entries env, e.2 = none := by
      simpa [unexpanded_eq_nil] using hall
    unfold unexpandedText unexpanded
    exact .bad hbad

/-- Search paths that assign nothing are all expanded in one environment. -/
lemma expansions_of_unassigned (h : assignmentsOf entries env = []) : expansions entries env =
    entries.map fun entry => (entry,(expand entry env).text) := by
  induction entries with
  | nil => rfl
  | cons entry entries ih =>
    rw [assignmentsOf,List.append_eq_nil_iff] at h
    obtain ⟨hentry,hentries⟩ := h
    have hsame : (expand entry env).environment = env := by
      rw [expand_environment,hentry,Environment.setAll_nil]
    rw [hsame] at hentries
    rw [expansions,hsame,ih hentries,List.map_cons]

lemma unassigned_iff : assignmentsOf entries env = [] ↔ ∀ entry ∈ entries, assignments entry env = [] := by
  induction entries with
  | nil => simp [assignmentsOf]
  | cons entry entries ih =>
    rw [assignmentsOf,List.append_eq_nil_iff,List.forall_mem_cons]
    refine and_congr_right fun hentry => ?_
    rw [expand_environment,hentry,Environment.setAll_nil,ih]

lemma atPlaces_map {α β : Type} (f : α → β) (places : List ℕ) (xs : List α) :
    atPlaces places (xs.map f) = (atPlaces places xs).map f := by
  simp [atPlaces,List.map_filterMap]

/-- Search paths that assign nothing are expanded the same in any order, and as often as they stand. -/
lemma expansions_atPlaces (h : assignmentsOf entries env = []) (places : List ℕ) :
    assignmentsOf (atPlaces places entries) env = [] ∧
      expansions (atPlaces places entries) env = atPlaces places (expansions entries env) := by
  have hnone : assignmentsOf (atPlaces places entries) env = [] :=
    unassigned_iff.mpr fun entry hentry => unassigned_iff.mp h entry (mem_of_mem_atPlaces hentry)
  refine ⟨hnone,?_⟩
  rw [expansions_of_unassigned hnone,expansions_of_unassigned h,atPlaces_map]

/-- Whatever else is given, what is said of the search paths in a configuration is what is said of them
alone, and they alone change the environment. -/
lemma judge_paths {given : List (String × Given)} (h : givenOf? given "search_paths" = some g)
    (env : Environment) :
    (judge given env).2 = (judgePaths g env).2 ∧
      about "search_paths" (mistakesOf (judge given env).1) = mistakesOf (judgePaths g env).1 := by
  obtain ⟨-,hpaths,-⟩ := about_allMistakes given env
  rw [mistakesOf_judge,hpaths,judge_eq,h]
  exact ⟨rfl,rfl⟩

/-- Search paths are expanded from left to right, each in the environment that all before it leave; and
what these leave is the environment before with all that they have assigned, even if they failed later.
If all expand, that is what comes of them; otherwise one mistake names those that do not, as they are
given, in their order and as often as they stand there. The environment is left as all of them leave it,
whatever else is given and however it ends. If they assign nothing, it is left alone, and what comes of
some of them in any order is what came of each. -/
theorem searchPaths_threaded (env : Environment) {g : Given} {entries : List String}
    (h : IsTexts g entries) :
    let each := expansions entries env
    (∀ i, each[i]? = entries[i]?.map fun entry =>
      (entry,(expand entry (environmentAfter (entries.take i) env)).text)) ∧
    (∀ i, environmentAfter (entries.take i) env = env.setAll (assignmentsOf (entries.take i) env)) ∧
    SaidOf g each (judgePaths g env).1 ∧
    (judgePaths g env).2 = environmentAfter entries env ∧
    (∀ given, givenOf? given "search_paths" = some g →
      (judge given env).2 = environmentAfter entries env ∧
        about "search_paths" (mistakesOf (judge given env).1) = mistakesOf (judgePaths g env).1) ∧
    (assignmentsOf entries env = [] → environmentAfter entries env = env ∧
      ∀ places g', IsTexts g' (atPlaces places entries) →
        SaidOf g' (atPlaces places each) (judgePaths g' env).1 ∧ (judgePaths g' env).2 = env) := by
  intro each
  have hafter {g : Given} {entries : List String} (h : IsTexts g entries) :
      (judgePaths g env).2 = environmentAfter entries env := by rw [judgePaths_of_texts h]
  refine ⟨getElem?_expansions entries env,fun i => environmentAfter_eq _ env,saidOf_judgePaths h,hafter h,
    fun given hgiven => ?_,fun hnone => ⟨?_,fun places g' h' => ?_⟩⟩
  · obtain ⟨henv,hsaid⟩ := judge_paths hgiven env
    exact ⟨henv.trans (hafter h),hsaid⟩
  · rw [environmentAfter_eq,hnone,Environment.setAll_nil]
  · obtain ⟨hnone',heach⟩ := expansions_atPlaces hnone places
    refine ⟨heach ▸ saidOf_judgePaths h',?_⟩
    rw [hafter h',environmentAfter_eq,hnone',Environment.setAll_nil]

/-- The first search path assigns before it fails, which is how the second one expands; the last two assign
nothing, and can be swapped. -/
theorem searchPaths_threaded_assigned :
    let first := ["$\x7bX:=v\x7d$\x7bY\x7d","$X/a","$\x7bY\x7d"]
    let last := ["$\x7bY\x7d","$\x7bX:=w\x7d"]
    let env : Environment := ⟨[("X","v")]⟩
    IsTexts (listed first) first ∧ IsTexts (listed last) last ∧
      (∃ each, SaidOf (listed first) each (judgePaths (listed first) ⟨[]⟩).1 ∧
        each = [("$\x7bX:=v\x7d$\x7bY\x7d",none),("$X/a",some ['v','/','a']),("$\x7bY\x7d",none)]) ∧
      (judgePaths (listed first) ⟨[]⟩).2.entries = [("X","v")] ∧
      SaidOf (listed last.reverse) [("$\x7bX:=w\x7d",some ['v']),("$\x7bY\x7d",none)]
        (judgePaths (listed last.reverse) env).1 ∧
      (judgePaths (listed last.reverse) env).2 = env := by
  intro first last env
  have hfirst : expansions first ⟨[]⟩ =
      [("$\x7bX:=v\x7d$\x7bY\x7d",none),("$X/a",some ['v','/','a']),("$\x7bY\x7d",none)] := by
    decide +kernel
  have hafter : (environmentAfter first ⟨[]⟩).entries = [("X","v")] := by decide +kernel
  have hlast : atPlaces [1,0] (expansions last env) =
      [("$\x7bX:=w\x7d",some ['v']),("$\x7bY\x7d",none)] := by decide +kernel
  have hunassigned : assignmentsOf last env = [] := by decide +kernel
  obtain ⟨-,-,hsaid,henv,-⟩ := searchPaths_threaded ⟨[]⟩ (isTexts_listed first)
  obtain ⟨-,-,-,-,-,hswap⟩ := searchPaths_threaded env (isTexts_listed last)
  obtain ⟨hswapped,hkept⟩ := (hswap hunassigned).2 [1,0] _ (isTexts_listed last.reverse)
  rw [hlast] at hswapped
  exact ⟨isTexts_listed first,isTexts_listed last,⟨_,hsaid,hfirst⟩,henv ▸ hafter,hswapped,hkept⟩

end TestBench.Config
