import TestBench.Proofs.Value.Matching
import TestBench.Proofs.Value.Number
import TestBench.Proofs.Value.Parts

/-! Equality of plain data. It looks at the form of a value: whether it stands for itself, is a row, a set
or a dictionary, and what it holds. -/
namespace TestBench.Value

def Alike (a b : Value) : Prop := alike a b = true

instance (a b : Value) : Decidable (Alike a b) := inferInstanceAs (Decidable (alike a b = true))

/-- Equality of the entries of dictionaries, by key and value. -/
def EntryAlike (d e : Value × Value) : Prop := Alike d.1 e.1 ∧ Alike d.2 e.2

/-- Data built from nothing, truth values, numbers, texts and bytes. No two members of a set are equal, and
no two keys of a dictionary. -/
inductive IsPlain : Value → Prop
  | none : IsPlain .none
  | bool (b) : IsPlain (.bool b)
  | int (n) : IsPlain (.int n)
  | double (x) : IsPlain (.double x)
  | text (s) : IsPlain (.text s)
  | bytes (bs) : IsPlain (.bytes bs)
  | list {xs} (h : ∀ x ∈ xs, IsPlain x) : IsPlain (.list xs)
  | tuple {xs} (h : ∀ x ∈ xs, IsPlain x) : IsPlain (.tuple xs)
  | set {xs} (h : ∀ x ∈ xs, IsPlain x) (apart : xs.Pairwise fun x y => ¬ Alike x y) :
    IsPlain (.set xs)
  | frozenSet {xs} (h : ∀ x ∈ xs, IsPlain x) (apart : xs.Pairwise fun x y => ¬ Alike x y) :
    IsPlain (.frozenSet xs)
  | dict {es} (keys : ∀ e ∈ es, IsPlain e.1) (values : ∀ e ∈ es, IsPlain e.2)
    (apart : es.Pairwise fun d e => ¬ Alike d.1 e.1) : IsPlain (.dict es)

/-- Something that is equal to nothing but itself. -/
inductive Atom
  | nothing
  | text (s : String)
  | bytes (bs : List UInt8)
  | number (x : ℚ ⊕ Bool)

/-- What equality looks at in a value. -/
inductive Form
  | atom (x : Atom)
  | row (isTuple : Bool) (xs : List Value)
  | set (xs : List Value)
  | dict (es : List (Value × Value))
  | other

/-- A number stands for its value, and what is no number for nothing. -/
def Form.ofNumber : Option Number → Form
  | some x => .atom (.number x.value)
  | Option.none => .other

def form : Value → Form
  | .bool b => .ofNumber (number? (.bool b))
  | .int n => .ofNumber (number? (.int n))
  | .double x => .ofNumber (number? (.double x))
  | .none => .atom .nothing
  | .text s => .atom (.text s)
  | .bytes bs => .atom (.bytes bs)
  | .list xs => .row false xs
  | .tuple xs => .row true xs
  | .set xs => .set xs
  | .frozenSet xs => .set xs
  | .dict es => .dict es
  | _ => .other

namespace Form

/-- Values of these forms are equal. -/
inductive Match : Form → Form → Prop
  | atom {x} : Match (.atom x) (.atom x)
  | row {isTuple xs ys} (h : List.Forall₂ Alike xs ys) : Match (.row isTuple xs) (.row isTuple ys)
  | set {xs ys} (h : Covers Alike xs ys) : Match (.set xs) (.set ys)
  | dict {es fs} (h : Covers EntryAlike es fs) : Match (.dict es) (.dict fs)

lemma match_atom {x y : Atom} : Match (.atom x) (.atom y) ↔ x = y :=
  ⟨fun | .atom => rfl,fun h => h ▸ .atom⟩

lemma match_row {isTuple : Bool} {xs ys : List Value} :
    Match (.row isTuple xs) (.row isTuple ys) ↔ List.Forall₂ Alike xs ys :=
  ⟨fun | .row h => h,.row⟩

lemma match_set {xs ys : List Value} : Match (.set xs) (.set ys) ↔ Covers Alike xs ys :=
  ⟨fun | .set h => h,.set⟩

lemma match_dict {es fs : List (Value × Value)} :
    Match (.dict es) (.dict fs) ↔ Covers EntryAlike es fs :=
  ⟨fun | .dict h => h,.dict⟩

/-- A form holds values of a sort, and nothing twice that it must not hold twice. -/
def Holds (q : Value → Prop) : Form → Prop
  | .row _ xs => ∀ x ∈ xs, q x
  | .set xs => Apart Alike q xs
  | .dict es => (∀ e ∈ es, q e.1 ∧ q e.2) ∧ es.Pairwise fun d e => ¬ Alike d.1 e.1
  | _ => True

lemma apart_entries {q : Value → Prop} {es : List (Value × Value)} (h : (Form.dict es).Holds q) :
    Apart EntryAlike (fun e => q e.1 ∧ q e.2) es :=
  ⟨h.1,h.2.imp fun hne he => hne he.1⟩

/-- If equality is symmetric and transitive on the values of a sort, so it is on what holds them. -/
lemma coherent {q : Value → Prop} (h : ∀ x, q x → Coherent Alike q x) {f : Form}
    (hf : f.Holds q) : Coherent Match (Holds q) f := by
  cases f with
  | atom x =>
    refine (coherent_eq (fun _ => True) x).of_standing (fun _ => trivial) ?_ ?_ ?_
    · rintro y u ⟨⟩
      exact ⟨y,rfl⟩
    · rintro y u ⟨⟩
      exact ⟨y,rfl⟩
    · exact match_atom
  | row isTuple xs =>
    refine (Coherent.forall₂ fun x hx => h x (hf x hx)).of_standing (fun hy => hy) ?_ ?_ ?_
    · rintro ys u (_ | _)
      exact ⟨_,rfl⟩
    · rintro ys u (_ | _)
      exact ⟨_,rfl⟩
    · exact match_row
  | set xs =>
    refine (Coherent.covers (fun x hx => h x (hf.1 x hx)) hf).of_standing (fun hy => hy) ?_ ?_ ?_
    · rintro ys u (_ | _)
      exact ⟨_,rfl⟩
    · rintro ys u (_ | _)
      exact ⟨_,rfl⟩
    · exact match_set
  | dict es =>
    have hes : ∀ e ∈ es, Coherent EntryAlike (fun e => q e.1 ∧ q e.2) e :=
      fun e he => (h e.1 (hf.1 e he).1).pair (h e.2 (hf.1 e he).2)
    refine (Coherent.covers hes (apart_entries hf)).of_standing apart_entries ?_ ?_ ?_
    · rintro ys u (_ | _)
      exact ⟨_,rfl⟩
    · rintro ys u (_ | _)
      exact ⟨_,rfl⟩
    · exact match_dict
  | other => exact ⟨fun _ => ⟨nofun,nofun⟩,nofun⟩

end Form

lemma allAlike_iff {xs ys : List Value} : allAlike xs ys = true ↔ List.Forall₂ Alike xs ys := by
  induction xs generalizing ys with
  | nil => cases ys <;> simp [allAlike]
  | cons x xs ih =>
    cases ys with
    | nil => simp [allAlike]
    | cons y ys => rw [allAlike,Bool.and_eq_true,ih,List.forall₂_cons,Alike]

lemma within_iff {xs ys : List Value} : within xs ys = true ↔ ∀ x ∈ xs, ∃ y ∈ ys, Alike x y := by
  induction xs with
  | nil => simp [within]
  | cons x xs ih => rw [within,Bool.and_eq_true,List.any_eq_true,ih,List.forall_mem_cons]; rfl

/-- The first thing that is found is the one that there is, if there are no two. -/
lemma find_matched {α : Type} {p s : α → Bool} {xs : List α}
    (hu : xs.Pairwise fun x y => p x = true → ¬ p y = true) :
    (xs.find? p).any s = true ↔ ∃ x ∈ xs, p x = true ∧ s x = true := by
  induction xs with
  | nil => simp
  | cons x xs ih =>
    obtain ⟨hhead,htail⟩ := List.pairwise_cons.mp hu
    by_cases hx : p x = true
    · rw [List.find?_cons_of_pos hx]
      constructor
      · exact fun h => ⟨x,List.mem_cons_self,hx,h⟩
      · rintro ⟨y,hy,hpy,hsy⟩
        rcases List.mem_cons.mp hy with rfl | hy
        · exact hsy
        · exact absurd hpy (hhead y hy hx)
    · rw [List.find?_cons_of_neg hx,ih htail]
      simp [hx]

lemma entriesWithin_iff {es fs : List (Value × Value)}
    (hu : ∀ e ∈ es, fs.Pairwise fun f g => Alike e.1 f.1 → ¬ Alike e.1 g.1) :
    entriesWithin es fs = true ↔ ∀ e ∈ es, ∃ f ∈ fs, EntryAlike e f := by
  induction es with
  | nil => simp [entriesWithin]
  | cons e es ih =>
    obtain ⟨hhead,htail⟩ := List.forall_mem_cons.mp hu
    have hstep : entriesWithin (e :: es) fs =
        ((fs.find? fun f => alike e.1 f.1).any (fun f => alike e.2 f.2) && entriesWithin es fs) := by
      rw [entriesWithin]
      cases fs.find? fun f => alike e.1 f.1 <;> rfl
    rw [hstep,Bool.and_eq_true,ih htail,List.forall_mem_cons]
    exact and_congr (find_matched hhead) Iff.rfl

lemma sets_iff {xs ys : List Value} :
    (xs.length == ys.length && within xs ys) = true ↔ Covers Alike xs ys := by
  rw [Bool.and_eq_true,beq_iff_eq,within_iff]
  rfl

lemma dicts_iff {q : Value → Prop} {es fs : List (Value × Value)}
    (hes : ∀ e ∈ es, Coherent Alike q e.1) (hfs : ∀ f ∈ fs, q f.1)
    (apart : fs.Pairwise fun f g => ¬ Alike f.1 g.1) :
    (es.length == fs.length && entriesWithin es fs) = true ↔ Covers EntryAlike es fs := by
  have hu : ∀ e ∈ es, fs.Pairwise fun f g => Alike e.1 f.1 → ¬ Alike e.1 g.1 := by
    intro e he
    refine apart.imp_of_mem fun {f g} hf hg hne hef heg => hne ?_
    exact ((hes e he).congr (hfs f hf) (hfs g hg) hef).mpr heg
  rw [Bool.and_eq_true,beq_iff_eq,entriesWithin_iff hu]
  rfl

/-- Plain data that is smaller than a bound. The bound is one on all values that are compared: whether two
dictionaries are equal depends on how the keys of both compare with each other. -/
def Small (n : ℕ) (x : Value) : Prop := x.IsPlain ∧ sizeOf x < n

lemma Small.holds {n : ℕ} {a : Value} (h : Small (n + 1) a) : a.form.Holds (Small n) := by
  obtain ⟨hplain,hsize⟩ := h
  have hpart {x : Value} (hx : x ∈ a.parts) : sizeOf x < n := by
    have := sizeOf_lt_of_mem_parts hx
    omega
  cases hplain with
  | list h => exact fun x hx => ⟨h x hx,hpart hx⟩
  | tuple h => exact fun x hx => ⟨h x hx,hpart hx⟩
  | set h apart => exact ⟨fun x hx => ⟨h x hx,hpart hx⟩,apart⟩
  | frozenSet h apart => exact ⟨fun x hx => ⟨h x hx,hpart hx⟩,apart⟩
  | dict keys values apart =>
    exact ⟨fun e he => ⟨⟨keys e he,hpart (mem_parts_key he)⟩,values e he,
      hpart (mem_parts_value he)⟩,apart⟩
  | double x => cases x <;> trivial
  | _ => trivial

lemma form_of_number {a : Value} {x : Number} (h : a.number? = some x) :
    a.form = .atom (.number x.value) := by
  cases a with
  | bool b | int n | double y => rw [form,h,Form.ofNumber]
  | _ => contradiction

lemma number_of_form {a : Value} {v : ℚ ⊕ Bool} (h : a.form = .atom (.number v)) :
    ∃ x, a.number? = some x ∧ x.value = v := by
  cases ha : a.number? with
  | some x =>
    rw [form_of_number ha] at h
    injection h with h
    injection h with h
    exact ⟨x,rfl,h⟩
  | none => cases a <;> simp_all [form,Form.ofNumber]

lemma alike_eq_sameNumber {a b : Value} (h : ¬(a.number? = Option.none ∧ b.number? = Option.none)) :
    alike a b = sameNumber a b := by
  cases a <;> cases b <;> first
    | rfl
    | exact absurd ⟨rfl,rfl⟩ h

/-- A number is equal to numbers of the same value, and to nothing else. -/
lemma alike_number_iff {a b : Value} (h : ¬(a.number? = Option.none ∧ b.number? = Option.none)) :
    Alike a b ↔ Form.Match a.form b.form := by
  have hmatch : Form.Match a.form b.form → ∃ v, a.form = .atom (.number v) ∧
      b.form = .atom (.number v) := by
    cases ha : a.number? with
    | some x =>
      rw [form_of_number ha]
      generalize b.form = g
      rintro ⟨⟩
      exact ⟨_,rfl,rfl⟩
    | none =>
      obtain ⟨y,hb⟩ := Option.ne_none_iff_exists'.mp fun hb => h ⟨ha,hb⟩
      rw [form_of_number hb]
      generalize a.form = f
      rintro ⟨⟩
      exact ⟨_,rfl,rfl⟩
  rw [Alike,alike_eq_sameNumber h,sameNumber]
  constructor
  · intro hsame
    split at hsame
    · rename_i x y ha hb
      rw [form_of_number ha,form_of_number hb,(x.same_iff y).mp hsame]
      exact .atom
    · contradiction
  · intro hm
    obtain ⟨v,ha,hb⟩ := hmatch hm
    obtain ⟨x,hx,hxv⟩ := number_of_form ha
    obtain ⟨y,hy,hyv⟩ := number_of_form hb
    simp only [hx,hy]
    exact (x.same_iff y).mpr (hxv.trans hyv.symm)

lemma alike_iff_of_small {n : ℕ} (ih : ∀ x, Small n x → Coherent Alike (Small n) x) {a b : Value}
    (ha : Small (n + 1) a) (hb : Small (n + 1) b) : Alike a b ↔ Form.Match a.form b.form := by
  have hha := ha.holds
  have hhb := hb.holds
  obtain ⟨ha,-⟩ := ha
  obtain ⟨hb,-⟩ := hb
  by_cases hn : a.number? = Option.none ∧ b.number? = Option.none
  · obtain ⟨hx,hy⟩ := hn
    -- Values of one kind, or of two that mix, have matching forms; all others are unlike.
    cases ha <;> cases hb
    case none.none => exact iff_of_true rfl .atom
    case text.text s t => exact beq_iff_eq.trans (Form.match_atom.trans (by simp)).symm
    case bytes.bytes bs cs => exact beq_iff_eq.trans (Form.match_atom.trans (by simp)).symm
    case list.list xs hxs ys hys => exact allAlike_iff.trans Form.match_row.symm
    case tuple.tuple xs hxs ys hys => exact allAlike_iff.trans Form.match_row.symm
    case set.set | set.frozenSet | frozenSet.set | frozenSet.frozenSet =>
      exact sets_iff.trans Form.match_set.symm
    case dict.dict es _ _ _ fs _ _ _ =>
      exact (dicts_iff (fun e he => ih e.1 (hha.1 e he).1) (fun f hf => (hhb.1 f hf).1)
        hhb.2).trans Form.match_dict.symm
    all_goals
      refine iff_of_false (by simp [Alike,alike,sameNumber,hx]) fun h => ?_
      simp only [form,hx,hy,Form.ofNumber] at h
      cases h
  · exact alike_number_iff hn

/-- Equality is symmetric and transitive on plain data. -/
theorem coherent_small (n : ℕ) {x : Value} (hx : Small n x) : Coherent Alike (Small n) x := by
  induction n generalizing x with
  | zero => exact absurd hx.2 (Nat.not_lt_zero _)
  | succ n ih =>
    have hform := Form.coherent (fun _ => ih) hx.holds
    refine ⟨fun hy => ?_,fun hy hz hxy => ?_⟩
    · rw [alike_iff_of_small (fun _ => ih) hx hy,alike_iff_of_small (fun _ => ih) hy hx,
        hform.symm hy.holds]
    · rw [alike_iff_of_small (fun _ => ih) hx hy] at hxy
      rw [alike_iff_of_small (fun _ => ih) hy hz,alike_iff_of_small (fun _ => ih) hx hz,
        hform.congr hy.holds hz.holds hxy]

theorem IsPlain.coherent {x : Value} (hx : x.IsPlain) : Coherent Alike IsPlain x := by
  refine ⟨fun {y} hy => ?_,fun {y z} hy hz hxy => ?_⟩
  · have hcoherent := coherent_small (sizeOf x + sizeOf y + 1) (x := x) ⟨hx,by omega⟩
    exact hcoherent.symm ⟨hy,by omega⟩
  · have hcoherent := coherent_small (sizeOf x + sizeOf y + sizeOf z + 1) (x := x) ⟨hx,by omega⟩
    exact hcoherent.congr ⟨hy,by omega⟩ ⟨hz,by omega⟩ hxy

/-- Plain data is equal exactly if it is of matching forms. -/
theorem alike_iff {a b : Value} (ha : a.IsPlain) (hb : b.IsPlain) :
    Alike a b ↔ Form.Match a.form b.form :=
  alike_iff_of_small (n := sizeOf a + sizeOf b) (fun _ => coherent_small _) ⟨ha,by omega⟩ ⟨hb,by omega⟩

lemma IsPlain.parts {a x : Value} (h : a.IsPlain) (hx : x ∈ a.parts) : x.IsPlain := by
  cases h with
  | list h | tuple h | set h _ | frozenSet h _ => exact h x hx
  | dict keys values _ =>
    obtain ⟨e,he,hx⟩ := List.mem_flatMap.mp hx
    simp only [List.mem_cons,List.not_mem_nil,or_false] at hx
    obtain rfl | rfl := hx
    · exact keys e he
    · exact values e he
  | _ => contradiction

/-- Plain data is equal to a copy of itself exactly if nothing lies in it that is no number. -/
theorem alike_self_iff {a : Value} (h : a.IsPlain) :
    Alike a a ↔ ∀ v, Within v a → v ≠ .double .nan := by
  induction a using parts_induction with
  | part a ih =>
    have hparts : (∀ x ∈ a.parts, ∀ v, Within v x → v ≠ .double .nan) ↔
        ∀ x ∈ a.parts, Alike x x :=
      forall₂_congr fun x hx => (ih x hx (h.parts hx)).symm
    rw [forall_within,hparts,alike_iff h h]
    cases h with
    | double x =>
      cases x with
      | nan => exact iff_of_false nofun fun hself => hself.1 rfl
      | _ => exact iff_of_true .atom ⟨nofun,nofun⟩
    | list hxs | tuple hxs =>
      exact Form.match_row.trans (List.forall₂_same.trans (and_iff_right nofun).symm)
    | set hxs _ | frozenSet hxs _ =>
      have hself := covers_self_iff (fun x hx => (hxs x hx).coherent) hxs
      exact Form.match_set.trans (hself.trans (and_iff_right nofun).symm)
    | dict keys values _ =>
      have hself := covers_self_iff (fun e he => (keys e he).coherent.pair (values e he).coherent)
        fun e he => ⟨keys e he,values e he⟩
      rw [form,Form.match_dict,and_iff_right nofun,parts,List.forall_mem_flatMap]
      refine hself.trans (forall₂_congr fun e he => ?_)
      simp
    | _ => exact iff_of_true .atom ⟨nofun,nofun⟩

lemma allEqual_eq {xs ys : List Value}
    (h : ∀ x ∈ xs, ∀ y ∈ ys, equal x y = .ok (alike x y)) :
    allEqual xs ys = .ok (allAlike xs ys) := by
  induction xs generalizing ys with
  | nil => cases ys <;> rfl
  | cons x xs ih =>
    cases ys with
    | nil => rfl
    | cons y ys =>
      have hrest := ih fun x' hx y' hy => h x' (List.mem_cons_of_mem x hx) y' (List.mem_cons_of_mem y hy)
      rw [allEqual,allAlike,h x List.mem_cons_self y List.mem_cons_self]
      cases alike x y with
      | true => exact hrest
      | false => rfl

lemma entriesEqual_eq {es fs : List (Value × Value)}
    (h : ∀ e ∈ es, ∀ f ∈ fs, equal e.2 f.2 = .ok (alike e.2 f.2)) :
    entriesEqual es fs = .ok (entriesWithin es fs) := by
  induction es with
  | nil => rfl
  | cons e es ih =>
    have hrest := ih fun e' he => h e' (List.mem_cons_of_mem e he)
    rw [entriesEqual,entriesWithin]
    cases hfind : fs.find? fun f => alike e.1 f.1 with
    | none => rfl
    | some f =>
      simp only [h e List.mem_cons_self f (List.mem_of_find?_eq_some hfind)]
      cases alike e.2 f.2 with
      | true => exact hrest
      | false => rfl

lemma equal_lists {xs ys : List Value} (h : ∀ x ∈ xs, ∀ y ∈ ys, equal x y = .ok (alike x y)) :
    equal (.list xs) (.list ys) = .ok (alike (.list xs) (.list ys)) := by
  rw [equal,allEqual_eq h,alike]
  split
  · rfl
  · rename_i hlength
    cases hall : allAlike xs ys with
    | true => exact absurd (allAlike_iff.mp hall).length_eq hlength
    | false => rfl

lemma equal_dicts {es fs : List (Value × Value)}
    (h : ∀ e ∈ es, ∀ f ∈ fs, equal e.2 f.2 = .ok (alike e.2 f.2)) :
    equal (.dict es) (.dict fs) = .ok (alike (.dict es) (.dict fs)) := by
  rw [equal,entriesEqual_eq h,alike]
  by_cases hlength : es.length = fs.length
  · simp [hlength]
  · simp [hlength]

/-- Comparing plain data asks nothing, so it does not fail. -/
theorem equal_of_isPlain {a b : Value} (ha : a.IsPlain) (hb : b.IsPlain) :
    equal a b = .ok (alike a b) := by
  induction ha generalizing b with
  | list hxs ih =>
    cases hb with
    | list hys => exact equal_lists fun x hx y hy => ih x hx (hys y hy)
    | _ => rfl
  | tuple hxs ih =>
    cases hb with
    | tuple hys => exact allEqual_eq fun x hx y hy => ih x hx (hys y hy)
    | _ => rfl
  | dict _ _ _ _ ih =>
    cases hb with
    | dict _ hfs _ => exact equal_dicts fun e he f hf => ih e he (hfs f hf)
    | _ => rfl
  | _ => cases hb <;> rfl

/-- A value that is compared with itself, as one object, is equal, unless it is no number. -/
theorem equalSelf_of_isPlain {a : Value} (h : a.IsPlain) : equalSelf a = .ok true ↔ a ≠ .double .nan := by
  cases h with
  | double x => cases x <;> simp [equalSelf]
  | _ => simp [equalSelf]

end TestBench.Value
