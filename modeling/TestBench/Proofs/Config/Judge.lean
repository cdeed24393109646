import TestBench.Proofs.Config.Verdict

/-! Which configurations are accepted, and what is said of the others. All that is wrong is told, field by
field, and then the keys that name no field; no field is judged by what is given for another one. -/
namespace TestBench.Config

variable {g : Given} {env after : Environment} {ms : List Mistake}

/-- The entries of an accepted configuration and what it has of them: tests as they are given, search
paths expanded, and errors reported unless told otherwise. -/
structure Accepted (entries : List (String × Given)) (env : Environment) (c : Config)
    (after : Environment) : Prop where
  tests : ∃ g, givenOf? entries "tests" = some g ∧ IsTexts g c.tests
  some_test : c.tests ≠ []
  targets : ∀ t ∈ c.tests, isTarget t = true
  paths : (givenOf? entries "search_paths" = none ∧ c.searchPaths = [] ∧ after = env) ∨
    ∃ g texts, givenOf? entries "search_paths" = some g ∧ IsTexts g texts ∧
      List.Forall₂ (fun e path => e.2 = some path.toList) (expansions texts env) c.searchPaths ∧
      after = environmentAfter texts env
  reports : (givenOf? entries "print_error_messages" = none ∧ c.reports = true) ∨
    ∃ g, givenOf? entries "print_error_messages" = some g ∧ IsTruth g.value c.reports
  known : ∀ e ∈ entries, e.1 ∈ fields

/-- All that is wrong with a configuration: field by field, and then the keys that name no field. -/
def Mistaken (entries : List (String × Given)) (env : Environment) (ms : List Mistake)
    (after : Environment) : Prop :=
  ∃ tests paths reports,
    TestsMistakes (asDict entries) (givenOf? entries "tests") tests ∧
    PathsMistakes env (givenOf? entries "search_paths") paths after ∧
    ReportsMistakes (givenOf? entries "print_error_messages") reports ∧
    ms = tests ++ paths ++ reports ++
      (entries.filter fun e => !fields.contains e.1).map fun e => ⟨e.1,none,.unknown,e.2.value⟩

/-- The mistakes about keys that name no field. -/
lemma unknownMistakes_eq (given : List (String × Given)) : unknownMistakes given =
    (given.filter fun e => !fields.contains e.1).map fun e => ⟨e.1,none,.unknown,e.2.value⟩ := by
  unfold unknownMistakes
  rw [← List.filterMap_eq_map,List.filterMap_filter]
  refine List.filterMap_congr fun e _ => ?_
  simp

/-- The mistakes that verdicts on fields give together. -/
def allMistakes (given : List (String × Given)) (env : Environment) : List Mistake :=
  mistakesOf (testsVerdict (asDict given) (givenOf? given "tests")) ++
    mistakesOf (pathsVerdict env (givenOf? given "search_paths")).1 ++
    mistakesOf (reportsVerdict (givenOf? given "print_error_messages")) ++ unknownMistakes given

/-- A configuration is put together from the verdicts on its fields. -/
lemma judge_eq (given : List (String × Given)) (env : Environment) : judge given env =
    (match testsVerdict (asDict given) (givenOf? given "tests"),
        (pathsVerdict env (givenOf? given "search_paths")).1,
        reportsVerdict (givenOf? given "print_error_messages"), unknownMistakes given with
      | .ok tests, .ok searchPaths, .ok reports, [] => .ok ⟨tests,searchPaths,reports⟩
      | _, _, _, _ => .error (allMistakes given env),
      (pathsVerdict env (givenOf? given "search_paths")).2) := by
  unfold judge
  rfl

variable (given : List (String × Given))

/-- Either every verdict on a field accepts it and every key names one, or there are mistakes. -/
lemma judge_cases (env : Environment) :
    (∃ c, testsVerdict (asDict given) (givenOf? given "tests") = .ok c.tests ∧
      (pathsVerdict env (givenOf? given "search_paths")).1 = .ok c.searchPaths ∧
      reportsVerdict (givenOf? given "print_error_messages") = .ok c.reports ∧
      unknownMistakes given = [] ∧
      judge given env = (.ok c,(pathsVerdict env (givenOf? given "search_paths")).2)) ∨
    (allMistakes given env ≠ [] ∧ judge given env =
      (.error (allMistakes given env),(pathsVerdict env (givenOf? given "search_paths")).2)) := by
  rw [judge_eq]
  cases ht : testsVerdict (asDict given) (givenOf? given "tests") with
  | error ms =>
    refine .inr ⟨?_,rfl⟩
    simp [allMistakes,ht,mistakesOf,testsVerdict_ne_nil ht]
  | ok tests =>
    cases hp : (pathsVerdict env (givenOf? given "search_paths")).1 with
    | error ms =>
      refine .inr ⟨?_,rfl⟩
      simp [allMistakes,hp,mistakesOf,pathsVerdict_ne_nil hp]
    | ok paths =>
      cases hr : reportsVerdict (givenOf? given "print_error_messages") with
      | error ms =>
        refine .inr ⟨?_,rfl⟩
        simp [allMistakes,hr,mistakesOf,reportsVerdict_ne_nil hr]
      | ok reports =>
        cases hu : unknownMistakes given with
        | cons m ms =>
          refine .inr ⟨?_,rfl⟩
          simp [allMistakes,hu]
        | nil => exact .inl ⟨⟨tests,paths,reports⟩,rfl,rfl,rfl,rfl,rfl⟩

lemma unknownMistakes_eq_nil : unknownMistakes given = [] ↔ ∀ e ∈ given, e.1 ∈ fields := by
  simp [unknownMistakes_eq]

lemma allMistakes_of_ok {c : Config} {env after : Environment} (h : judge given env = (.ok c,after)) :
    allMistakes given env = [] := by
  rcases judge_cases given env with ⟨c',ht,hp,hr,hu,-⟩ | ⟨-,hj⟩
  · simp [allMistakes,ht,hp,hr,hu,mistakesOf]
  · rw [hj] at h
    cases h

/-- A configuration is accepted exactly if it is one. -/
lemma judge_eq_ok {c : Config} {env after : Environment} :
    judge given env = (.ok c,after) ↔ Accepted given env c after := by
  constructor
  · intro h
    rcases judge_cases given env with ⟨c',ht,hp,hr,hu,hj⟩ | ⟨-,hj⟩
    · rw [hj] at h
      obtain ⟨hc,rfl⟩ := Prod.mk.inj h
      obtain rfl := Except.ok.inj hc
      obtain ⟨htests,hsome,htargets⟩ := testsVerdict_eq_ok.mp ht
      exact ⟨htests,hsome,htargets,pathsVerdict_eq_ok.mp (Prod.ext hp rfl),
        reportsVerdict_eq_ok.mp hr,(unknownMistakes_eq_nil given).mp hu⟩
    · rw [hj] at h
      cases h
  · intro h
    have ht : testsVerdict (asDict given) (givenOf? given "tests") = .ok c.tests :=
      testsVerdict_eq_ok.mpr ⟨h.tests,h.some_test,h.targets⟩
    have hp := pathsVerdict_eq_ok.mpr h.paths
    have hr := reportsVerdict_eq_ok.mpr h.reports
    rw [judge_eq,ht,hp,hr,(unknownMistakes_eq_nil given).mpr h.known]

lemma mistaken_iff {env after : Environment} {ms : List Mistake} : Mistaken given env ms after ↔
    ms = allMistakes given env ∧ after = (pathsVerdict env (givenOf? given "search_paths")).2 := by
  simp only [Mistaken,testsMistakes_iff,pathsMistakes_iff,reportsMistakes_iff,allMistakes,
    unknownMistakes_eq]
  constructor
  · rintro ⟨_,_,_,rfl,⟨rfl,rfl⟩,rfl,rfl⟩
    exact ⟨rfl,rfl⟩
  · rintro ⟨rfl,rfl⟩
    exact ⟨_,_,_,rfl,⟨rfl,rfl⟩,rfl,rfl⟩

lemma judge_eq_error {env after : Environment} {ms : List Mistake} :
    judge given env = (.error ms,after) ↔ ms ≠ [] ∧ Mistaken given env ms after := by
  rw [mistaken_iff]
  rcases judge_cases given env with ⟨c,ht,hp,hr,hu,hj⟩ | ⟨hne,hj⟩
  · have hnil := allMistakes_of_ok given hj
    rw [hj,hnil]
    refine iff_of_false (by simp) ?_
    rintro ⟨hne,rfl,-⟩
    exact hne rfl
  · rw [hj]
    constructor
    · intro h
      obtain ⟨hms,rfl⟩ := Prod.mk.inj h
      obtain rfl := Except.error.inj hms
      exact ⟨hne,rfl,rfl⟩
    · rintro ⟨-,rfl,rfl⟩
      rfl

section Independence

variable {whole : Value} {g? : Option Given} {field : String}

/-- The mistakes that are about a field. -/
def about (field : String) (ms : List Mistake) : List Mistake := ms.filter fun m => m.field == field

lemma listMistakes_field (h : ListMistakes field g ms) : ∀ m ∈ ms, m.field = field := by
  cases h with
  | noList => simp
  | noTexts =>
    intro m hm
    obtain ⟨e,-,he⟩ := List.mem_filterMap.mp hm
    obtain ⟨c,-,rfl⟩ := Option.map_eq_some_iff.mp he
    rfl

lemma testsMistakes_field (h : TestsMistakes whole g? ms) : ∀ m ∈ ms, m.field = "tests" := by
  cases h with
  | untexts hlist => exact listMistakes_field hlist
  | _ => simp

lemma pathsMistakes_field (h : PathsMistakes env g? ms after) :
    ∀ m ∈ ms, m.field = "search_paths" := by
  cases h with
  | untexts hlist => exact listMistakes_field hlist
  | _ => simp

lemma reportsMistakes_field (h : ReportsMistakes g? ms) :
    ∀ m ∈ ms, m.field = "print_error_messages" := by
  cases h <;> simp

lemma unknownMistakes_field (h : field ∈ fields) : ∀ m ∈ unknownMistakes given, m.field ≠ field := by
  intro m hm
  rw [unknownMistakes_eq] at hm
  obtain ⟨e,he,rfl⟩ := List.mem_map.mp hm
  rintro rfl
  simpa [h] using (List.mem_filter.mp he).2

lemma about_same (h : ∀ m ∈ ms, m.field = field) : about field ms = ms :=
  List.filter_eq_self.mpr fun m hm => beq_iff_eq.mpr (h m hm)

lemma about_other (h : ∀ m ∈ ms, m.field ≠ field) : about field ms = [] :=
  List.filter_eq_nil_iff.mpr fun m hm => by simpa using h m hm

lemma about_append (ms ms' : List Mistake) : about field (ms ++ ms') = about field ms ++ about field ms' :=
  List.filter_append ..

/-- What is said about a field comes from the verdict on it. -/
lemma about_allMistakes (env : Environment) :
    about "tests" (allMistakes given env) =
      mistakesOf (testsVerdict (asDict given) (givenOf? given "tests")) ∧
    about "search_paths" (allMistakes given env) =
      mistakesOf (pathsVerdict env (givenOf? given "search_paths")).1 ∧
    about "print_error_messages" (allMistakes given env) =
      mistakesOf (reportsVerdict (givenOf? given "print_error_messages")) := by
  have ht : ∀ m ∈ mistakesOf (testsVerdict (asDict given) (givenOf? given "tests")),
      m.field = "tests" := testsMistakes_field (testsMistakes_iff.mpr rfl)
  have hp : ∀ m ∈ mistakesOf (pathsVerdict env (givenOf? given "search_paths")).1,
      m.field = "search_paths" := pathsMistakes_field (pathsMistakes_iff.mpr ⟨rfl,rfl⟩)
  have hr : ∀ m ∈ mistakesOf (reportsVerdict (givenOf? given "print_error_messages")),
      m.field = "print_error_messages" := reportsMistakes_field (reportsMistakes_iff.mpr rfl)
  simp only [allMistakes,about_append]
  refine ⟨?_,?_,?_⟩
  · rw [about_same ht,about_other fun m hm => by rw [hp m hm]; decide,
      about_other fun m hm => by rw [hr m hm]; decide,
      about_other (unknownMistakes_field given (by decide))]
    simp
  · rw [about_same hp,about_other fun m hm => by rw [ht m hm]; decide,
      about_other fun m hm => by rw [hr m hm]; decide,
      about_other (unknownMistakes_field given (by decide))]
    simp
  · rw [about_same hr,about_other fun m hm => by rw [ht m hm]; decide,
      about_other fun m hm => by rw [hp m hm]; decide,
      about_other (unknownMistakes_field given (by decide))]
    simp

end Independence

lemma mistakesOf_judge (env : Environment) : mistakesOf (judge given env).1 = allMistakes given env := by
  rcases judge_cases given env with ⟨c,-,-,-,-,hj⟩ | ⟨-,hj⟩
  · rw [allMistakes_of_ok given hj,hj]
    rfl
  · rw [hj]
    rfl

/-- What is said about a field is told by what is given for it and by the environment. If there are no
tests, the complaint names the whole configuration, but it is the same complaint. -/
lemma about_congr {given' : List (String × Given)} {env : Environment} {field : String}
    (hfield : field ∈ fields) (h : givenOf? given' field = givenOf? given field) :
    (about field (mistakesOf (judge given' env).1)).map (fun m => (m.index,m.complaint)) =
      (about field (mistakesOf (judge given env).1)).map (fun m => (m.index,m.complaint)) ∧
    (givenOf? given field ≠ none → about field (mistakesOf (judge given' env).1) =
      about field (mistakesOf (judge given env).1)) := by
  rw [mistakesOf_judge,mistakesOf_judge]
  obtain ⟨ht',hp',hr'⟩ := about_allMistakes given' env
  obtain ⟨ht,hp,hr⟩ := about_allMistakes given env
  simp only [fields,List.mem_cons,List.not_mem_nil,or_false] at hfield
  rcases hfield with rfl | rfl | rfl
  · rw [ht,ht',h]
    cases givenOf? given "tests" with
    | none => exact ⟨rfl,fun hne => absurd rfl hne⟩
    | some g => exact ⟨rfl,fun _ => rfl⟩
  · rw [hp,hp',h]
    exact ⟨rfl,fun _ => rfl⟩
  · rw [hr,hr',h]
    exact ⟨rfl,fun _ => rfl⟩

/-- A configuration is accepted exactly if it is one, and is then what its entries say. Otherwise all
that is wrong with it is told, field by field and then key by key; and what is wrong with a field does
not depend on what is given for the others. -/
theorem judge_exact (given : List (String × Given)) (env : Environment) :
    (∀ c after, judge given env = (.ok c,after) ↔ Accepted given env c after) ∧
    (∀ ms after, judge given env = (.error ms,after) ↔ ms ≠ [] ∧ Mistaken given env ms after) ∧
    ∀ given', ∀ field ∈ fields, givenOf? given' field = givenOf? given field →
      (about field (mistakesOf (judge given' env).1)).map (fun m => (m.index,m.complaint)) =
        (about field (mistakesOf (judge given env).1)).map (fun m => (m.index,m.complaint)) ∧
      (givenOf? given field ≠ none → about field (mistakesOf (judge given' env).1) =
        about field (mistakesOf (judge given env).1)) :=
  ⟨fun _ _ => judge_eq_ok given,fun _ _ => judge_eq_error given,
    fun _ _ hfield h => about_congr given hfield h⟩

end TestBench.Config
