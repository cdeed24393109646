import Mathlib.Data.List.Forall2
import TestBench.Proofs.Computation
import TestBench.Proofs.Quoted
import TestBench.Proofs.Value.Parts
import TestBench.Value.Rendering

/-! How values are written. A container is written from what is written for its items; and whatever holds
no object is written in printable characters alone, on one line. -/
namespace TestBench

open Text

section Pieces

variable {cs ds : List Char} {ps : List (List Char)} {n : ℕ}

lemma clear_of_subset (h : Clear ds) (hsub : cs ⊆ ds) : Clear cs := fun c hc => h c (hsub hc)

lemma clear_toDigits (n : ℕ) : Clear (Nat.toDigits 10 n) := fun _ hc =>
  isPrintable_of_isDigit (Nat.isDigit_of_mem_toDigits (by decide) (by decide) hc)

lemma clear_replicate {c : Char} (h : isPrintable c = true) (n : ℕ) : Clear (List.replicate n c) :=
  fun d hd => by rwa [List.eq_of_mem_replicate hd]

lemma clear_separated (h : ∀ p ∈ ps, Clear p) : Clear (separated ps) := by
  fun_induction separated ps with
  | case1 => exact clear_nil
  | case2 p => exact h p List.mem_cons_self
  | case3 p ps _ ih =>
    obtain ⟨hp,hps⟩ := List.forall_mem_cons.mp h
    have hcomma : Clear [',',' '] := clear_of_ascii rfl
    simp only [clear_cons] at hcomma
    simp [hp,ih hps,hcomma]

lemma clear_toString (n : Int) : Clear (toString n).toList := by
  have hminus : isPrintable '-' = true := isPrintable_of_ascii (by decide) (by decide)
  rw [Int.toString_eq_repr,Int.repr_eq_if]
  split_ifs
  · simp [Nat.repr_eq_ofList_toDigits,clear_toDigits]
  · rw [String.toList_append]
    simp [Nat.repr_eq_ofList_toDigits,clear_toDigits,hminus]

end Pieces

namespace Double

lemma clear_signText (negative : Bool) : Clear (signText negative) := by
  cases negative <;> exact clear_of_ascii rfl

lemma clear_withoutZeros {ds : List Char} (h : Clear ds) : Clear (withoutZeros ds) := by
  refine clear_of_subset h fun c hc => ?_
  have hmem := (List.dropWhile_sublist _).subset (List.mem_reverse.mp hc)
  exact List.mem_reverse.mp hmem

lemma clear_exponentText (l : Layout) (x : Int) : Clear (exponentText l x) := by
  have hmarks : Clear ['e','-','+','0'] := clear_of_ascii rfl
  simp only [clear_cons] at hmarks
  obtain ⟨he,hminus,hplus,hzero,-⟩ := hmarks
  unfold exponentText
  split_ifs <;> simp [he,hminus,hplus,clear_replicate hzero,clear_toDigits]

lemma clear_layOut (l : Layout) {ds : List Char} (h : Clear ds) (x : Int) : Clear (layOut l ds x) := by
  have hmarks : Clear ['0','.'] := clear_of_ascii rfl
  simp only [clear_cons] at hmarks
  obtain ⟨hzero,hpoint,-⟩ := hmarks
  have hzeros := clear_replicate hzero
  have htake (n : ℕ) : Clear (ds.take n) := clear_of_subset h (List.take_subset n ds)
  have hdrop (n : ℕ) : Clear (ds.drop n) := clear_of_subset h (List.drop_subset n ds)
  unfold layOut
  split_ifs
  · simp [hzero,hpoint,hzeros,h]
  · simp only []
    split_ifs <;> simp [hzero,hpoint,hzeros,htake,hdrop]
  · split
    · exact clear_nil
    · simp_all [clear_exponentText]
    · simp_all [clear_exponentText]

lemma clear_shown (x : Double) : Clear x.shown := by
  have hwords : Clear "naninf0.0".toList := clear_of_ascii rfl
  unfold shown
  split
  · exact clear_of_subset hwords (by decide)
  · exact clear_append.mpr ⟨clear_signText _,clear_of_subset hwords (by decide)⟩
  · exact clear_append.mpr ⟨clear_signText _,clear_of_subset hwords (by decide)⟩
  · exact clear_append.mpr ⟨clear_signText _,
      clear_layOut _ (clear_withoutZeros (clear_toDigits _)) _⟩

end Double

section Calendar

lemma clear_spanText (seconds : Int) : Clear (spanText seconds) := by
  have hopen : Clear "datetime.timedelta(".toList := clear_of_ascii rfl
  have hmarks : Clear ['0',')'] := clear_of_ascii rfl
  have hpart {name : String} (hname : Clear name.toList) (n : Int) :
      ∀ p ∈ (if n = 0 then [] else [(name ++ toString n).toList]), Clear p := by
    intro p hp
    split_ifs at hp with hn
    · contradiction
    · obtain rfl := List.mem_singleton.mp hp
      rw [String.toList_append]
      exact clear_append.mpr ⟨hname,clear_toString n⟩
  unfold spanText
  lift_lets
  intro days rest parts
  have hparts : ∀ p ∈ parts, Clear p :=
    List.forall_mem_append.mpr ⟨hpart (clear_of_ascii rfl) days,hpart (clear_of_ascii rfl) rest⟩
  rw [clear_append,clear_append]
  refine ⟨⟨hopen,?_⟩,clear_of_subset hmarks (by decide)⟩
  split
  · exact clear_of_subset hmarks (by decide)
  · exact clear_separated hparts

lemma clear_zoneText (seconds : Int) : Clear (zoneText seconds) := by
  have hutc : Clear "datetime.timezone.utc".toList := clear_of_ascii rfl
  have hopen : Clear "datetime.timezone(".toList := clear_of_ascii rfl
  have hclose : Clear [')'] := clear_of_ascii rfl
  unfold zoneText
  split_ifs
  · exact hutc
  · simp only [clear_append]
    exact ⟨⟨hopen,clear_spanText seconds⟩,hclose⟩

lemma Date.clear_shown (d : Date) : Clear d.shown := by
  have hopen : Clear "datetime.date(".toList := clear_of_ascii rfl
  have hclose : Clear [')'] := clear_of_ascii rfl
  unfold Date.shown
  simp only [clear_append]
  refine ⟨⟨hopen,clear_separated fun p hp => ?_⟩,hclose⟩
  obtain ⟨n,-,rfl⟩ := List.mem_map.mp hp
  exact clear_toDigits n

lemma Moment.clear_shown (t : Moment) : Clear t.shown := by
  have hopen : Clear "datetime.datetime(".toList := clear_of_ascii rfl
  have hzone : Clear "tzinfo=".toList := clear_of_ascii rfl
  have hclose : Clear [')'] := clear_of_ascii rfl
  unfold Moment.shown
  simp only [clear_append]
  refine ⟨⟨hopen,clear_separated fun p hp => ?_⟩,hclose⟩
  rcases List.mem_append.mp hp with hp | hp
  · obtain ⟨n,-,rfl⟩ := List.mem_map.mp hp
    exact clear_toDigits n
  · split at hp
    · contradiction
    · obtain rfl := List.mem_singleton.mp hp
      exact clear_append.mpr ⟨hzone,clear_zoneText _⟩

end Calendar

namespace Value

variable {xs : List Value} {es : List (Value × Value)} {ps : List (List Char)} {p : List Char}

lemma forall₂_of_allRendered (h : allRendered xs = .ok ps) :
    List.Forall₂ (fun x p => x.rendered = .ok p) xs ps := by
  induction xs generalizing ps with
  | nil =>
    obtain rfl := Except.ok.inj h
    exact .nil
  | cons x xs ih =>
    rw [allRendered] at h
    split at h
    · contradiction
    · rename_i p hp
      obtain ⟨qs,hqs,rfl⟩ := map_eq_ok.mp h
      exact .cons hp (ih hqs)

/-- An entry is written as its key and its value, with a colon between them. -/
def EntryRendered (e : Value × Value) (p : List Char) : Prop :=
  ∃ k v, e.1.rendered = .ok k ∧ e.2.rendered = .ok v ∧ p = k ++ ':' :: ' ' :: v

lemma forall₂_of_entriesRendered (h : entriesRendered es = .ok ps) :
    List.Forall₂ EntryRendered es ps := by
  induction es generalizing ps with
  | nil =>
    obtain rfl := Except.ok.inj h
    exact .nil
  | cons e es ih =>
    rw [entriesRendered] at h
    split at h
    · contradiction
    · rename_i k hk
      split at h
      · contradiction
      · rename_i v hv
        obtain ⟨qs,hqs,rfl⟩ := map_eq_ok.mp h
        exact .cons ⟨k,v,hk,hv,rfl⟩ (ih hqs)

/-- Nothing that lies in a value is an object. -/
def HoldsNoObject (v : Value) : Prop :=
  ∀ shown equals truth, ¬Within (.object shown equals truth) v

lemma HoldsNoObject.part {x v : Value} (h : v.HoldsNoObject) (hx : x ∈ v.parts) : x.HoldsNoObject :=
  fun shown equals truth hw => h shown equals truth (.part hx hw)

lemma rendered_int {n : Int} (h : (Value.int n).rendered = .ok p) : p = intText n := by
  rw [rendered,intRendered] at h
  split at h
  · exact (Except.ok.inj h).symm
  · contradiction

lemma clear_intText (n : Int) : Clear (intText n) :=
  clear_append.mpr ⟨Double.clear_signText _,clear_toDigits _⟩

/-- What is related to one of some things is clear if all that these are related to is. -/
lemma clear_of_forall₂ {α : Type} {writes : α → List Char → Prop} {xs : List α}
    (h : List.Forall₂ writes xs ps) (hclear : ∀ x ∈ xs, ∀ p, writes x p → Clear p) :
    ∀ p ∈ ps, Clear p := by
  induction h with
  | nil => nofun
  | cons hx _ ih =>
    obtain ⟨hhead,htail⟩ := List.forall_mem_cons.mp hclear
    exact List.forall_mem_cons.mpr ⟨hhead _ hx,ih htail⟩

/-- A row between brackets is clear if its items and the brackets are. -/
lemma clear_row (front behind : List Char) (hbrackets : Clear (front ++ behind))
    (h : ∀ p ∈ ps, Clear p) : Clear (front ++ separated ps ++ behind) := by
  obtain ⟨hfront,hbehind⟩ := clear_append.mp hbrackets
  exact clear_append.mpr ⟨clear_append.mpr ⟨hfront,clear_separated h⟩,hbehind⟩

/-- Whatever holds no object is written in printable characters. -/
theorem clear_rendered {v : Value} (hv : v.HoldsNoObject) (h : v.rendered = .ok p) : Clear p := by
  induction v using parts_induction generalizing p with
  | part v ih =>
    have hitems {xs : List Value} (hxs : ∀ x ∈ xs, x ∈ v.parts) {ps : List (List Char)}
        (h : allRendered xs = .ok ps) : ∀ p ∈ ps, Clear p :=
      clear_of_forall₂ (forall₂_of_allRendered h) fun x hx p => ih x (hxs x hx) (hv.part (hxs x hx))
    cases v with
    | none =>
      obtain rfl := Except.ok.inj h
      exact clear_of_ascii rfl
    | bool b =>
      cases b <;> obtain rfl := Except.ok.inj h <;> exact clear_of_ascii rfl
    | int n =>
      obtain rfl := rendered_int h
      exact clear_intText n
    | double x =>
      obtain rfl := Except.ok.inj h
      exact x.clear_shown
    | text s =>
      obtain rfl := Except.ok.inj h
      exact clear_quoted _
    | bytes bs =>
      obtain rfl := Except.ok.inj h
      exact clear_quotedBytes bs
    | list xs =>
      obtain ⟨ps,hps,rfl⟩ := map_eq_ok.mp h
      exact clear_row ['['] [']'] (clear_of_ascii rfl) (hitems (fun _ => id) hps)
    | tuple xs =>
      obtain ⟨ps,hps,rfl⟩ := map_eq_ok.mp h
      have hall := hitems (fun _ => id) hps
      split
      · exact clear_row ['('] [',',')'] (clear_of_ascii rfl) hall
      · exact clear_row ['('] [')'] (clear_of_ascii rfl) hall
    | set xs =>
      obtain ⟨ps,hps,rfl⟩ := map_eq_ok.mp h
      split
      · exact clear_of_ascii rfl
      · exact clear_row ['\x7b'] ['\x7d'] (clear_of_ascii rfl) (hitems (fun _ => id) hps)
    | frozenSet xs =>
      obtain ⟨ps,hps,rfl⟩ := map_eq_ok.mp h
      split
      · exact clear_of_ascii rfl
      · exact clear_row "frozenset(\x7b".toList ['\x7d',')'] (clear_of_ascii rfl)
          (hitems (fun _ => id) hps)
    | dict es =>
      obtain ⟨ps,hps,rfl⟩ := map_eq_ok.mp h
      refine clear_row ['\x7b'] ['\x7d'] (clear_of_ascii rfl) ?_
      refine clear_of_forall₂ (forall₂_of_entriesRendered hps) ?_
      rintro e he p ⟨k,w,hk,hw,rfl⟩
      have hkey := ih e.1 (mem_parts_key he) (hv.part (mem_parts_key he)) hk
      have hvalue := ih e.2 (mem_parts_value he) (hv.part (mem_parts_value he)) hw
      have hcolon : Clear [':',' '] := clear_of_ascii rfl
      exact clear_append.mpr ⟨hkey,clear_append.mpr ⟨hcolon,hvalue⟩⟩
    | date d =>
      obtain rfl := Except.ok.inj h
      exact d.clear_shown
    | moment t =>
      obtain rfl := Except.ok.inj h
      exact t.clear_shown
    | cycle shape =>
      obtain rfl := Except.ok.inj h
      cases shape <;> exact clear_of_ascii rfl
    | object shown equals truth => exact absurd (.self _) (hv shown equals truth)

end Value

end TestBench
