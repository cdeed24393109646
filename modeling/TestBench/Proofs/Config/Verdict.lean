import Mathlib.Data.List.Forall2
import Mathlib.Tactic.Common
import TestBench.Config.Basic

/-! Fields of a configuration. What may be given for each of them, and what is wrong with anything else, is
told by rules; the verdicts on the fields follow them. -/
namespace TestBench.Config

/-- A value that stands for a text: the text itself, or bytes that spell it. -/
inductive IsText : Value → String → Prop
  | text (s : String) : IsText (.text s) s
  | bytes {bs : List UInt8} {cs : List Char} (h : Text.Utf8.decode bs = .ok cs) :
    IsText (.bytes bs) (String.ofList cs)

/-- What is said of an item that stands for no text. -/
def itemComplaint? : Value → Option Complaint
  | .text _ => none
  | .bytes bs => if (Text.Utf8.decode bs).isOk then none else some .notUnicode
  | _ => some .notText

/-- A value that stands for a truth value: one itself, nought or one, which may be written as a
floating-point number, or a word for it in letters of any case. -/
inductive IsTruth : Value → Bool → Prop
  | bool (b : Bool) : IsTruth (.bool b) b
  | int (b : Bool) : IsTruth (.int b.toInt) b
  | double {x : Double} {b : Bool} (h : x.toInt? = some b.toInt) : IsTruth (.double x) b
  | word {s : String} {b : Bool} (h : (String.ofList (s.toList.map Char.toLower),b) ∈ truthWords) :
    IsTruth (.text s) b
  | bytes {bs : List UInt8} {b : Bool}
    (h : (String.ofList ((bs.map fun n => Char.ofNat n.toNat).map Char.toLower),b) ∈ truthWords) :
    IsTruth (.bytes bs) b

/-- Is a number a machine integer? -/
def fitsMachine (n : Int) : Bool := -(Int.pow 2 63) ≤ n ∧ n < Int.pow 2 63

/-- What is said of a value that stands for no truth value. Some of them might have stood for one. -/
def truthComplaint : Value → Complaint
  | .text _ => .unclearTruth
  | .bytes _ => .unclearTruth
  | .int n => if fitsMachine n then .unclearTruth else .notTruth
  | .double x =>
    match x.toInt? with
    | some n => if fitsMachine n ∧ n ≠ -(Int.pow 2 63) then .unclearTruth else .notTruth
    | none => .notTruth
  | _ => .notTruth

/-- The mistakes in what should be a list of texts: it is none, or some of its items are no texts. -/
inductive ListMistakes (field : String) (g : Given) : List Mistake → Prop
  | noList (h : g.items? = none) : ListMistakes field g [⟨field,none,.notList,g.value⟩]
  | noTexts {vs : List Value} (h : g.items? = some vs) (hv : ∃ v ∈ vs, ∀ s, ¬IsText v s) :
    ListMistakes field g (vs.zipIdx.filterMap fun e =>
      (itemComplaint? e.1).map fun c => ⟨field,some e.2,c,e.1⟩)

/-- What is given is a list of these texts, in this order. -/
def IsTexts (g : Given) (texts : List String) : Prop :=
  ∃ vs, g.items? = some vs ∧ List.Forall₂ IsText vs texts

/-- The mistakes in what is given for the tests, of which there must be some. They must be targets. If
nothing is given, the whole configuration is complained about. -/
inductive TestsMistakes (whole : Value) : Option Given → List Mistake → Prop
  | missing : TestsMistakes whole none [⟨"tests",none,.missing,whole⟩]
  | untexts {g : Given} {ms : List Mistake} (h : ListMistakes "tests" g ms) :
    TestsMistakes whole (some g) ms
  | empty {g : Given} (h : IsTexts g []) :
    TestsMistakes whole (some g) [⟨"tests",none,.rejected "tests must not be empty",g.value⟩]
  | bad {g : Given} {tests : List String} (h : IsTexts g tests)
    (hbad : (tests.filter fun t => !isTarget t) ≠ []) :
    TestsMistakes whole (some g) [⟨"tests",none,
      .rejected ("tests must be given as 'module:function', got: "
        ++ ", ".intercalate (tests.filter fun t => !isTarget t)),g.value⟩]
  | fine {g : Given} {tests : List String} (h : IsTexts g tests) (hsome : tests ≠ [])
    (hall : ∀ t ∈ tests, isTarget t = true) : TestsMistakes whole (some g) []

/-- Search paths with what each of them expands to, in the environment that those before it leave. -/
def expansions : List String → Environment → List (String × Option (List Char))
  | [], _ => []
  | entry :: entries, env =>
    (entry,(expand entry env).text) :: expansions entries (expand entry env).environment

/-- The environment after the expansion of some search paths. -/
def environmentAfter (entries : List String) (env : Environment) : Environment :=
  entries.foldl (fun env entry => (expand entry env).environment) env

/-- The search paths that do not expand, in their order. -/
def unexpanded (entries : List String) (env : Environment) : List String :=
  ((expansions entries env).filter fun e => e.2.isNone).map Prod.fst

/-- The mistakes in what is given for the search paths, and the environment after their expansion. -/
inductive PathsMistakes (env : Environment) : Option Given → List Mistake → Environment → Prop
  | absent : PathsMistakes env none [] env
  | untexts {g : Given} {ms : List Mistake} (h : ListMistakes "search_paths" g ms) :
    PathsMistakes env (some g) ms env
  | bad {g : Given} {entries : List String} (h : IsTexts g entries)
    (hbad : unexpanded entries env ≠ []) :
    PathsMistakes env (some g) [⟨"search_paths",none,
      .rejected ("search_paths reference unset environment variables:\n"
        ++ "\n".intercalate ((unexpanded entries env).map ("  " ++ ·))),g.value⟩]
      (environmentAfter entries env)
  | fine {g : Given} {entries : List String} (h : IsTexts g entries)
    (hall : unexpanded entries env = []) :
    PathsMistakes env (some g) [] (environmentAfter entries env)

/-- The mistakes in what is given for whether errors are reported: at most one. -/
inductive ReportsMistakes : Option Given → List Mistake → Prop
  | absent : ReportsMistakes none []
  | fine {g : Given} {b : Bool} (h : IsTruth g.value b) : ReportsMistakes (some g) []
  | unclear {g : Given} (h : ∀ b, ¬IsTruth g.value b) :
    ReportsMistakes (some g) [⟨"print_error_messages",none,truthComplaint g.value,g.value⟩]

lemma textOf_eq_ok {v : Value} {s : String} : textOf v = .ok s ↔ IsText v s := by
  constructor
  · intro h
    cases v with
    | text t =>
      obtain rfl := Except.ok.inj h
      exact .text _
    | bytes bs =>
      simp only [textOf] at h
      cases hd : Text.Utf8.decode bs with
      | error m =>
        rw [hd] at h
        cases h
      | ok cs =>
        rw [hd] at h
        obtain rfl := Except.ok.inj h
        exact .bytes hd
    | _ => cases h
  · intro h
    cases h with
    | text => rfl
    | bytes h => simp only [textOf,h]

lemma textOf_eq_error {v : Value} {c : Complaint} :
    textOf v = .error c ↔ itemComplaint? v = some c := by
  cases v with
  | text s => simp [textOf,itemComplaint?]
  | bytes bs => cases h : Text.Utf8.decode bs <;> simp [textOf,itemComplaint?,h,Except.isOk,Except.toBool]
  | _ => simp [textOf,itemComplaint?]

lemma itemMistakes_eq (field : String) (i : ℕ) (vs : List Value) :
    itemMistakes field i vs = (vs.zipIdx i).filterMap fun e =>
      (itemComplaint? e.1).map fun c => ⟨field,some e.2,c,e.1⟩ := by
  induction vs generalizing i with
  | nil => rfl
  | cons v vs ih =>
    rw [itemMistakes,List.zipIdx_cons]
    cases h : textOf v with
    | ok s =>
      have hnone : itemComplaint? v = none := by
        cases hc : itemComplaint? v with
        | none => rfl
        | some c =>
          rw [textOf_eq_error.mpr hc] at h
          cases h
      simp [hnone,ih]
    | error c => simp [textOf_eq_error.mp h,ih]

lemma itemMistakes_eq_nil {field : String} {i : ℕ} {vs : List Value} :
    itemMistakes field i vs = [] ↔ ∀ v ∈ vs, ∃ s, IsText v s := by
  induction vs generalizing i with
  | nil => simp [itemMistakes]
  | cons v vs ih =>
    rw [itemMistakes,List.forall_mem_cons]
    cases h : textOf v with
    | ok s =>
      rw [ih]
      exact ⟨fun hvs => ⟨⟨s,textOf_eq_ok.mp h⟩,hvs⟩,And.right⟩
    | error c =>
      refine iff_of_false (List.cons_ne_nil _ _) ?_
      rintro ⟨⟨s,hs⟩,_⟩
      rw [textOf_eq_ok.mpr hs] at h
      cases h

/-- Things that all have an image, and their images in order. -/
lemma forall₂_iff_filterMap {α β : Type} {f : α → Option β} {xs : List α} {ys : List β} :
    List.Forall₂ (fun x y => f x = some y) xs ys ↔
      (∀ x ∈ xs, (f x).isSome = true) ∧ xs.filterMap f = ys := by
  constructor
  · intro h
    induction h with
    | nil => exact ⟨by simp,rfl⟩
    | cons hx _ ih =>
      rw [List.filterMap_cons_some hx,List.forall_mem_cons,hx,ih.2]
      exact ⟨⟨rfl,ih.1⟩,rfl⟩
  · rintro ⟨hall,rfl⟩
    induction xs with
    | nil => exact .nil
    | cons x xs ih =>
      obtain ⟨hx,hxs⟩ := List.forall_mem_cons.mp hall
      obtain ⟨y,hy⟩ := Option.isSome_iff_exists.mp hx
      rw [List.filterMap_cons_some hy]
      exact .cons hy (ih hxs)

lemma isText_iff {v : Value} {s : String} : IsText v s ↔ (textOf v).toOption = some s := by
  rw [← textOf_eq_ok]
  cases textOf v <;> simp [Except.toOption]

lemma forall₂_isText {vs : List Value} {texts : List String} : List.Forall₂ IsText vs texts ↔
    (∀ v ∈ vs, ∃ s, IsText v s) ∧ (vs.filterMap fun v => (textOf v).toOption) = texts := by
  have hrel : IsText = fun v s => (textOf v).toOption = some s := by
    funext v s
    exact propext isText_iff
  simp only [hrel,forall₂_iff_filterMap,Option.isSome_iff_exists]

lemma textsOf_eq_ok {field : String} {g : Given} {texts : List String} :
    textsOf field g = .ok texts ↔ IsTexts g texts := by
  unfold textsOf IsTexts
  cases hg : g.items? with
  | none => simp [complain]
  | some vs =>
    simp only [Option.some.injEq,exists_eq_left']
    cases h : itemMistakes field 0 vs with
    | nil =>
      have hall := itemMistakes_eq_nil.mp h
      constructor
      · intro heq
        exact forall₂_isText.mpr ⟨hall,Except.ok.inj heq⟩
      · intro htexts
        exact congrArg Except.ok (forall₂_isText.mp htexts).2
    | cons m ms =>
      refine iff_of_false (by simp) fun htexts => ?_
      rw [itemMistakes_eq_nil.mpr (forall₂_isText.mp htexts).1] at h
      cases h

lemma textsOf_eq_error {field : String} {g : Given} {ms : List Mistake} :
    textsOf field g = .error ms ↔ ListMistakes field g ms := by
  have hsome (vs : List Value) : itemMistakes field 0 vs ≠ [] ↔ ∃ v ∈ vs, ∀ s, ¬IsText v s := by
    rw [Ne,itemMistakes_eq_nil]
    push Not
    rfl
  unfold textsOf
  constructor
  · intro h
    cases hg : g.items? with
    | none =>
      rw [hg] at h
      obtain rfl := Except.error.inj h
      exact .noList hg
    | some vs =>
      simp only [hg] at h
      split at h
      · cases h
      · rename_i hne
        obtain rfl := Except.error.inj h
        rw [itemMistakes_eq]
        exact .noTexts hg ((hsome vs).mp hne)
  · intro h
    cases h with
    | noList h => simp only [h,complain]
    | noTexts h hv =>
      rename_i vs
      rw [← itemMistakes_eq]
      simp only [h]
      split
      · rename_i hnil
        exact absurd hnil ((hsome vs).mpr hv)
      · rfl

lemma find_truthWord {w : String} {b : Bool} (h : (w,b) ∈ truthWords) :
    truthWords.find? (fun e => e.1 == w) = some (w,b) := by
  have hall : ∀ e ∈ truthWords, truthWords.find? (fun e' => e'.1 == e.1) = some e := by decide
  exact hall _ h

lemma truthOfWord_eq_ok {cs : List Char} {b : Bool} :
    truthOfWord cs = .ok b ↔ (String.ofList (cs.map Char.toLower),b) ∈ truthWords := by
  simp only [truthOfWord]
  cases h : truthWords.find? fun e => e.1 == String.ofList (cs.map Char.toLower) with
  | none =>
    refine iff_of_false (by simp) fun hmem => ?_
    rw [find_truthWord hmem] at h
    cases h
  | some e =>
    have hkey : e.1 = String.ofList (cs.map Char.toLower) := by simpa using List.find?_some h
    have hmem := List.mem_of_find?_eq_some h
    constructor
    · intro heq
      rw [← Except.ok.inj heq,← hkey]
      exact hmem
    · intro hb
      rw [find_truthWord hb] at h
      rw [← Option.some.inj h]

lemma truthOfInt_eq_ok {n : Int} {b : Bool} : truthOfInt n = .ok b ↔ n = b.toInt := by
  unfold truthOfInt
  cases b <;> split_ifs <;> simp_all

lemma truthOfInt_eq_error {n : Int} {c : Complaint} (h : truthOfInt n = .error c) :
    c = if fitsMachine n then .unclearTruth else .notTruth := by
  unfold truthOfInt at h
  split_ifs at h with h0 h1 hfits
  · have hfit : fitsMachine n = true := decide_eq_true hfits
    rw [if_pos hfit]
    exact (Except.error.inj h).symm
  · have hfit : ¬fitsMachine n = true := fun hfit => hfits (of_decide_eq_true hfit)
    rw [if_neg hfit]
    exact (Except.error.inj h).symm

lemma truthOfDouble_eq_ok {x : Double} {b : Bool} :
    truthOfDouble x = .ok b ↔ x.toInt? = some b.toInt := by
  have hleast : b.toInt ≠ -(Int.pow 2 63) := by cases b <;> decide
  unfold truthOfDouble
  cases x.toInt? with
  | none => simp
  | some n =>
    by_cases hn : n = -(Int.pow 2 63)
    · simp only [hn,if_true,Option.some.injEq]
      exact iff_of_false (by simp) hleast.symm
    · simp only [if_neg hn,truthOfInt_eq_ok,Option.some.injEq]

lemma truthOf_eq_ok {v : Value} {b : Bool} : truthOf v = .ok b ↔ IsTruth v b := by
  constructor
  · intro h
    cases v with
    | bool b' =>
      obtain rfl := Except.ok.inj h
      exact .bool _
    | int n =>
      obtain rfl := truthOfInt_eq_ok.mp h
      exact .int b
    | double x => exact .double (truthOfDouble_eq_ok.mp h)
    | text s => exact .word (truthOfWord_eq_ok.mp h)
    | bytes bs => exact .bytes (truthOfWord_eq_ok.mp h)
    | _ => cases h
  · intro h
    cases h with
    | bool => rfl
    | int => exact truthOfInt_eq_ok.mpr rfl
    | double h => exact truthOfDouble_eq_ok.mpr h
    | word h => exact truthOfWord_eq_ok.mpr h
    | bytes h => exact truthOfWord_eq_ok.mpr h

lemma truthOfWord_eq_error {cs : List Char} {c : Complaint} (h : truthOfWord cs = .error c) :
    c = .unclearTruth := by
  simp only [truthOfWord] at h
  split at h
  · cases h
  · exact (Except.error.inj h).symm

lemma truthOf_eq_error {v : Value} {c : Complaint} (h : truthOf v = .error c) :
    c = truthComplaint v := by
  cases v with
  | bool b => cases h
  | int n => exact truthOfInt_eq_error h
  | double x =>
    simp only [truthOf,truthOfDouble,truthComplaint] at h ⊢
    cases hx : x.toInt? with
    | none =>
      rw [hx] at h
      exact (Except.error.inj h).symm
    | some n =>
      rw [hx] at h
      by_cases hn : n = -(Int.pow 2 63)
      · simp only [if_pos hn] at h
        exact (Except.error.inj h).symm.trans (if_neg fun hand => hand.2 hn).symm
      · simp only [if_neg hn] at h
        exact (truthOfInt_eq_error h).trans (if_congr (and_iff_left hn).symm rfl rfl)
  | text s => exact truthOfWord_eq_error h
  | bytes bs => exact truthOfWord_eq_error h
  | _ => exact (Except.error.inj h).symm

/-- The verdict on what is given for the tests, if anything is. -/
def testsVerdict (whole : Value) : Option Given → Verdict (List String)
  | some g => judgeTests g
  | none => complain "tests" .missing whole

def pathsVerdict (env : Environment) : Option Given → Verdict (List String) × Environment
  | some g => judgePaths g env
  | none => (.ok [],env)

def reportsVerdict : Option Given → Verdict Bool
  | some g => judgeReports g
  | none => .ok true

variable {g : Given} {env after : Environment} {tests entries paths : List String}
  {ms : List Mistake}

lemma judgeTests_of_texts (h : IsTexts g tests) : judgeTests g =
    match targetsFault? tests with
    | none => .ok tests
    | some text => .error [⟨"tests",none,.rejected text,g.value⟩] := by
  rw [judgeTests,textsOf_eq_ok.mpr h]
  rfl

lemma judgeTests_of_untexts (h : ListMistakes "tests" g ms) : judgeTests g = .error ms := by
  rw [judgeTests,textsOf_eq_error.mpr h]
  rfl

lemma texts_or_mistakes (field : String) (g : Given) :
    (∃ texts, IsTexts g texts) ∨ ∃ ms, ListMistakes field g ms := by
  cases h : textsOf field g with
  | ok texts => exact .inl ⟨texts,textsOf_eq_ok.mp h⟩
  | error ms => exact .inr ⟨ms,textsOf_eq_error.mp h⟩

lemma targetsFault_nil : targetsFault? [] = some "tests must not be empty" := rfl

lemma targetsFault_of_targets (hsome : tests ≠ []) (hall : ∀ t ∈ tests, isTarget t = true) :
    targetsFault? tests = none := by
  have hnone : tests.filter (fun t => !isTarget t) = [] := by simpa using hall
  simp [targetsFault?,hsome,hnone]

lemma targetsFault_of_bad (hbad : (tests.filter fun t => !isTarget t) ≠ []) :
    targetsFault? tests = some ("tests must be given as 'module:function', got: "
      ++ ", ".intercalate (tests.filter fun t => !isTarget t)) := by
  have hsome : tests ≠ [] := by
    rintro rfl
    exact hbad rfl
  simp only [targetsFault?,List.isEmpty_iff,if_neg hsome]

lemma targets_cases (tests : List String) : tests = [] ∨
    (tests.filter fun t => !isTarget t) ≠ [] ∨ tests ≠ [] ∧ ∀ t ∈ tests, isTarget t = true := by
  by_cases hnil : tests = []
  · exact .inl hnil
  · by_cases hbad : tests.filter (fun t => !isTarget t) = []
    · exact .inr (.inr ⟨hnil,by simpa using hbad⟩)
    · exact .inr (.inl hbad)

/-- What is told of tests is what is wrong with them. -/
lemma testsMistakes_iff {whole : Value} {g? : Option Given} :
    TestsMistakes whole g? ms ↔ mistakesOf (testsVerdict whole g?) = ms := by
  constructor
  · intro h
    cases h with
    | missing => rfl
    | untexts h => rw [testsVerdict,judgeTests_of_untexts h,mistakesOf]
    | empty h => rw [testsVerdict,judgeTests_of_texts h,targetsFault_nil,mistakesOf]
    | bad h hbad => rw [testsVerdict,judgeTests_of_texts h,targetsFault_of_bad hbad,mistakesOf]
    | fine h hsome hall =>
      rw [testsVerdict,judgeTests_of_texts h,targetsFault_of_targets hsome hall,mistakesOf]
  · rintro rfl
    cases g? with
    | none => exact .missing
    | some g =>
      rcases texts_or_mistakes "tests" g with ⟨tests,h⟩ | ⟨ms,h⟩
      · rw [testsVerdict,judgeTests_of_texts h]
        rcases targets_cases tests with rfl | hbad | ⟨hsome,hall⟩
        · exact .empty h
        · rw [targetsFault_of_bad hbad]
          exact .bad h hbad
        · rw [targetsFault_of_targets hsome hall]
          exact .fine h hsome hall
      · rw [testsVerdict,judgeTests_of_untexts h]
        exact .untexts h

lemma testsVerdict_eq_ok {whole : Value} {g? : Option Given} : testsVerdict whole g? = .ok tests ↔
    (∃ g, g? = some g ∧ IsTexts g tests) ∧ tests ≠ [] ∧ ∀ t ∈ tests, isTarget t = true := by
  constructor
  · intro h
    cases g? with
    | none => cases h
    | some g =>
      rcases texts_or_mistakes "tests" g with ⟨texts,ht⟩ | ⟨ms,ht⟩
      · rw [testsVerdict,judgeTests_of_texts ht] at h
        rcases targets_cases texts with rfl | hbad | ⟨hsome,hall⟩
        · cases h
        · rw [targetsFault_of_bad hbad] at h
          cases h
        · rw [targetsFault_of_targets hsome hall] at h
          obtain rfl := Except.ok.inj h
          exact ⟨⟨g,rfl,ht⟩,hsome,hall⟩
      · rw [testsVerdict,judgeTests_of_untexts ht] at h
        cases h
  · rintro ⟨⟨g,rfl,ht⟩,hsome,hall⟩
    rw [testsVerdict,judgeTests_of_texts ht,targetsFault_of_targets hsome hall]

/-- Search paths are expanded one by one, and sorted into those that expand and those that do not. -/
lemma expandPaths_eq (entries : List String) (env : Environment) : expandPaths entries env =
    ⟨(expansions entries env).filterMap fun e => e.2.map String.ofList,unexpanded entries env,
      environmentAfter entries env⟩ := by
  induction entries generalizing env with
  | nil => rfl
  | cons entry entries ih =>
    simp only [expandPaths,ih,expansions,unexpanded,environmentAfter,List.foldl_cons]
    cases (expand entry env).text <;> simp

lemma unexpanded_eq_nil : unexpanded entries env = [] ↔
    ∀ e ∈ expansions entries env, e.2.isSome = true := by
  simp [unexpanded,Option.isSome_iff_ne_none]

/-- Search paths that all expand, and what they expand to. -/
lemma forall₂_expansions : List.Forall₂ (fun e path => e.2 = some path.toList)
      (expansions entries env) paths ↔ unexpanded entries env = [] ∧
      (expansions entries env).filterMap (fun e => e.2.map String.ofList) = paths := by
  have hrel : (fun (e : String × Option (List Char)) (path : String) => e.2 = some path.toList) =
      fun e path => e.2.map String.ofList = some path := by
    funext e path
    cases e.2 <;> simp [← String.toList_inj]
  rw [hrel,forall₂_iff_filterMap,unexpanded_eq_nil]
  simp only [Option.isSome_map]

lemma judgePaths_of_texts (h : IsTexts g entries) : judgePaths g env =
    (if unexpanded entries env = [] then
      .ok ((expansions entries env).filterMap fun e => e.2.map String.ofList)
    else .error [⟨"search_paths",none,.rejected (unexpandedText (unexpanded entries env)),g.value⟩],
      environmentAfter entries env) := by
  simp only [judgePaths,textsOf_eq_ok.mpr h,expandPaths_eq,List.isEmpty_iff]
  split_ifs <;> rfl

lemma judgePaths_of_untexts (h : ListMistakes "search_paths" g ms) :
    judgePaths g env = (.error ms,env) := by
  simp only [judgePaths,textsOf_eq_error.mpr h]

lemma pathsMistakes_iff {g? : Option Given} : PathsMistakes env g? ms after ↔
    mistakesOf (pathsVerdict env g?).1 = ms ∧ (pathsVerdict env g?).2 = after := by
  constructor
  · intro h
    cases h with
    | absent => exact ⟨rfl,rfl⟩
    | untexts h =>
      rw [pathsVerdict,judgePaths_of_untexts h]
      exact ⟨rfl,rfl⟩
    | bad h hbad =>
      rw [pathsVerdict,judgePaths_of_texts h,if_neg hbad]
      exact ⟨rfl,rfl⟩
    | fine h hall =>
      rw [pathsVerdict,judgePaths_of_texts h,if_pos hall]
      exact ⟨rfl,rfl⟩
  · rintro ⟨rfl,rfl⟩
    cases g? with
    | none => exact .absent
    | some g =>
      rcases texts_or_mistakes "search_paths" g with ⟨texts,h⟩ | ⟨ms,h⟩
      · rw [pathsVerdict,judgePaths_of_texts h]
        by_cases hall : unexpanded texts env = []
        · rw [if_pos hall]
          exact .fine h hall
        · rw [if_neg hall]
          exact .bad h hall
      · rw [pathsVerdict,judgePaths_of_untexts h]
        exact .untexts h

lemma pathsVerdict_eq_ok {g? : Option Given} : pathsVerdict env g? = (.ok paths,after) ↔
    (g? = none ∧ paths = [] ∧ after = env) ∨ ∃ g texts, g? = some g ∧ IsTexts g texts ∧
      List.Forall₂ (fun e path => e.2 = some path.toList) (expansions texts env) paths ∧
      after = environmentAfter texts env := by
  constructor
  · intro h
    cases g? with
    | none =>
      obtain ⟨hpaths,rfl⟩ := Prod.mk.inj h
      exact .inl ⟨rfl,(Except.ok.inj hpaths).symm,rfl⟩
    | some g =>
      rcases texts_or_mistakes "search_paths" g with ⟨texts,ht⟩ | ⟨ms,ht⟩
      · rw [pathsVerdict,judgePaths_of_texts ht] at h
        obtain ⟨hpaths,rfl⟩ := Prod.mk.inj h
        split_ifs at hpaths with hall
        exact .inr ⟨g,texts,rfl,ht,forall₂_expansions.mpr ⟨hall,Except.ok.inj hpaths⟩,rfl⟩
      · rw [pathsVerdict,judgePaths_of_untexts ht] at h
        cases h
  · rintro (⟨rfl,rfl,rfl⟩ | ⟨g,texts,rfl,ht,hpaths,rfl⟩)
    · rfl
    · obtain ⟨hall,rfl⟩ := forall₂_expansions.mp hpaths
      rw [pathsVerdict,judgePaths_of_texts ht,if_pos hall]

lemma reportsMistakes_iff {g? : Option Given} :
    ReportsMistakes g? ms ↔ mistakesOf (reportsVerdict g?) = ms := by
  constructor
  · intro h
    cases h with
    | absent => rfl
    | fine h => simp only [reportsVerdict,judgeReports,truthOf_eq_ok.mpr h,mistakesOf]
    | unclear h =>
      rename_i g
      cases ht : truthOf g.value with
      | ok b => exact absurd (truthOf_eq_ok.mp ht) (h b)
      | error c =>
        obtain rfl := truthOf_eq_error ht
        simp only [reportsVerdict,judgeReports,ht,complain,mistakesOf]
  · rintro rfl
    cases g? with
    | none => exact .absent
    | some g =>
      simp only [reportsVerdict,judgeReports]
      cases ht : truthOf g.value with
      | ok b => exact .fine (truthOf_eq_ok.mp ht)
      | error c =>
        obtain rfl := truthOf_eq_error ht
        refine .unclear fun b hb => ?_
        rw [truthOf_eq_ok.mpr hb] at ht
        cases ht

lemma reportsVerdict_eq_ok {g? : Option Given} {b : Bool} : reportsVerdict g? = .ok b ↔
    (g? = none ∧ b = true) ∨ ∃ g, g? = some g ∧ IsTruth g.value b := by
  cases g? with
  | none => simp [reportsVerdict,eq_comm]
  | some g =>
    simp only [reportsVerdict,judgeReports,← truthOf_eq_ok]
    cases h : truthOf g.value <;> simp [complain,h]

section Refused

variable {whole : Value} {g? : Option Given} {field : String}

lemma listMistakes_ne_nil (h : ListMistakes field g ms) : ms ≠ [] := by
  cases h with
  | noList h => exact List.cons_ne_nil _ _
  | noTexts h hv =>
    rw [← itemMistakes_eq,Ne,itemMistakes_eq_nil]
    obtain ⟨v,hmem,hno⟩ := hv
    exact fun hall => (hall v hmem).elim hno

lemma testsVerdict_ne_nil (h : testsVerdict whole g? = .error ms) : ms ≠ [] := by
  have hms : TestsMistakes whole g? ms := testsMistakes_iff.mpr (congrArg mistakesOf h)
  cases hms with
  | missing => exact List.cons_ne_nil _ _
  | untexts hlist => exact listMistakes_ne_nil hlist
  | empty => exact List.cons_ne_nil _ _
  | bad => exact List.cons_ne_nil _ _
  | fine htexts hsome hall =>
    rw [testsVerdict_eq_ok.mpr ⟨⟨_,rfl,htexts⟩,hsome,hall⟩] at h
    cases h

lemma pathsVerdict_ne_nil (h : (pathsVerdict env g?).1 = .error ms) : ms ≠ [] := by
  have hms : PathsMistakes env g? ms (pathsVerdict env g?).2 :=
    pathsMistakes_iff.mpr ⟨congrArg mistakesOf h,rfl⟩
  generalize (pathsVerdict env g?).2 = after at hms
  cases hms with
  | absent => cases h
  | untexts hlist => exact listMistakes_ne_nil hlist
  | bad => exact List.cons_ne_nil _ _
  | fine htexts hall =>
    rw [pathsVerdict,judgePaths_of_texts htexts,if_pos hall] at h
    cases h

lemma reportsVerdict_ne_nil (h : reportsVerdict g? = .error ms) : ms ≠ [] := by
  have hms : ReportsMistakes g? ms := reportsMistakes_iff.mpr (congrArg mistakesOf h)
  cases hms with
  | absent => cases h
  | fine htruth =>
    rw [reportsVerdict_eq_ok.mpr (.inr ⟨_,rfl,htruth⟩)] at h
    cases h
  | unclear => exact List.cons_ne_nil _ _

end Refused

end TestBench.Config
