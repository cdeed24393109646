import TestBench.Proofs.Value.Equality
import TestBench.Proofs.Value.Rendering

/-! Data that can be read back from how it is written. No two such values are written alike: the first
character tells what kind of value it is, every item of a container ends before what stands behind it,
and what stands behind the last item closes the container. -/
namespace TestBench

open Text

/-- What stands behind a value does not go on with a digit. -/
def Ends (r : List Char) : Prop := ∀ c ∈ r.head?, c.isDigit = false

lemma ends_nil : Ends [] := nofun

lemma ends_cons {c : Char} {r : List Char} (h : c.isDigit = false) : Ends (c :: r) := by
  rintro _ ⟨⟩
  exact h

/-- What is written for a thing tells the thing and where it ends, whatever else may be written there. -/
def Tells {α : Type} (writes : α → List Char → Prop) (x : α) : Prop :=
  ∀ {y p q r s}, writes x p → writes y q → Ends r → Ends s → p ++ r = q ++ s → x = y ∧ r = s

section Rows

variable {α : Type} {writes : α → List Char → Prop} {xs ys : List α} {ps qs : List (List Char)}
  {r s : List Char} {close : Char}

lemma separated_cons (p : List Char) (ps : List (List Char)) :
    separated (p :: ps) = p ++ ps.flatMap fun q => ',' :: ' ' :: q := by
  induction ps generalizing p with
  | nil => rw [separated,List.flatMap_nil,List.append_nil]
  | cons q ps ih =>
    rw [separated,ih,List.flatMap_cons,List.cons_append,List.cons_append]
    exact List.cons_ne_nil q ps

/-- Behind the first item stands another one, behind a comma, or what closes the row. -/
lemma ends_rest (hclose : close.isDigit = false) (ps : List (List Char)) (r : List Char) :
    Ends ((ps.flatMap fun q => ',' :: ' ' :: q) ++ close :: r) := by
  cases ps with
  | nil => exact ends_cons hclose
  | cons p ps => exact ends_cons (by decide)

/-- The items behind the first one tell the things they are written for. -/
lemma rest_cancel (hclose : close.isDigit = false) (hcomma : close ≠ ',')
    (htells : ∀ x ∈ xs, Tells writes x) (hp : List.Forall₂ writes xs ps)
    (hq : List.Forall₂ writes ys qs)
    (h : (ps.flatMap fun q => ',' :: ' ' :: q) ++ close :: r =
      (qs.flatMap fun q => ',' :: ' ' :: q) ++ close :: s) : xs = ys ∧ r = s := by
  induction hp generalizing ys qs with
  | nil =>
    cases hq with
    | nil => exact ⟨rfl,(List.cons.inj h).2⟩
    | cons _ _ => exact absurd (List.cons.inj h).1 hcomma
  | cons hx hxs ih =>
    cases hq with
    | nil => exact absurd (List.cons.inj h).1.symm hcomma
    | cons hy hys =>
      obtain ⟨hhead,htail⟩ := List.forall_mem_cons.mp htells
      simp only [List.flatMap_cons,List.append_assoc,List.cons_append,List.cons.injEq,true_and] at h
      obtain ⟨rfl,hrest⟩ := hhead hx hy (ends_rest hclose _ r) (ends_rest hclose _ s) h
      obtain ⟨rfl,rfl⟩ := ih htail hys hrest
      exact ⟨rfl,rfl⟩

/-- A row of items up to what closes it tells the things they are written for. -/
lemma row_cancel (hclose : close.isDigit = false) (hcomma : close ≠ ',')
    (hbegins : ∀ y q, writes y q → ∃ c rest, q = c :: rest ∧ c ≠ close)
    (htells : ∀ x ∈ xs, Tells writes x) (hp : List.Forall₂ writes xs ps)
    (hq : List.Forall₂ writes ys qs)
    (h : separated ps ++ close :: r = separated qs ++ close :: s) : xs = ys ∧ r = s := by
  cases hp with
  | nil =>
    cases hq with
    | nil => exact ⟨rfl,(List.cons.inj h).2⟩
    | cons hy _ =>
      obtain ⟨c,rest,rfl,hc⟩ := hbegins _ _ hy
      rw [separated_cons] at h
      exact absurd (List.cons.inj h).1.symm hc
  | cons hx hxs =>
    cases hq with
    | nil =>
      obtain ⟨c,rest,rfl,hc⟩ := hbegins _ _ hx
      rw [separated_cons] at h
      exact absurd (List.cons.inj h).1 hc
    | cons hy hys =>
      obtain ⟨hhead,htail⟩ := List.forall_mem_cons.mp htells
      rw [separated_cons,separated_cons,List.append_assoc,List.append_assoc] at h
      obtain ⟨rfl,hrest⟩ := hhead hx hy (ends_rest hclose _ r) (ends_rest hclose _ s) h
      obtain ⟨rfl,rfl⟩ := rest_cancel hclose hcomma htail hxs hys hrest
      exact ⟨rfl,rfl⟩

/-- What stands behind the first item of a tuple. If it is the only one, a comma is left. -/
def behindFirst : List (List Char) → List Char
  | [] => [',',')']
  | p :: ps => ((p :: ps).flatMap fun q => ',' :: ' ' :: q) ++ [')']

/-- The items of a tuple and what closes it. -/
def tupled : List (List Char) → List Char
  | [] => [')']
  | p :: ps => p ++ behindFirst ps

lemma ends_behindFirst (ps : List (List Char)) (r : List Char) : Ends (behindFirst ps ++ r) := by
  cases ps with
  | nil => exact ends_cons (by decide)
  | cons p ps => exact ends_cons (by decide)

lemma behindFirst_cancel (htells : ∀ x ∈ xs, Tells writes x) (hp : List.Forall₂ writes xs ps)
    (hq : List.Forall₂ writes ys qs) (h : behindFirst ps ++ r = behindFirst qs ++ s) :
    xs = ys ∧ r = s := by
  cases hp with
  | nil =>
    cases hq with
    | nil => exact ⟨rfl,List.append_cancel_left h⟩
    | cons _ _ => simp [behindFirst] at h
  | cons hx hxs =>
    cases hq with
    | nil => simp [behindFirst] at h
    | cons hy hys =>
      rw [behindFirst,behindFirst,List.append_assoc,List.append_assoc] at h
      exact rest_cancel (by decide) (by decide) htells (.cons hx hxs) (.cons hy hys) h

/-- The items of a tuple up to what closes it tell the things they are written for. -/
lemma tupled_cancel (hbegins : ∀ y q, writes y q → ∃ c rest, q = c :: rest ∧ c ≠ ')')
    (htells : ∀ x ∈ xs, Tells writes x) (hp : List.Forall₂ writes xs ps)
    (hq : List.Forall₂ writes ys qs) (h : tupled ps ++ r = tupled qs ++ s) : xs = ys ∧ r = s := by
  cases hp with
  | nil =>
    cases hq with
    | nil => exact ⟨rfl,List.append_cancel_left h⟩
    | cons hy _ =>
      obtain ⟨c,rest,rfl,hc⟩ := hbegins _ _ hy
      exact absurd (List.cons.inj h).1.symm hc
  | cons hx hxs =>
    cases hq with
    | nil =>
      obtain ⟨c,rest,rfl,hc⟩ := hbegins _ _ hx
      exact absurd (List.cons.inj h).1 hc
    | cons hy hys =>
      obtain ⟨hhead,htail⟩ := List.forall_mem_cons.mp htells
      rw [tupled,tupled,List.append_assoc,List.append_assoc] at h
      obtain ⟨rfl,hrest⟩ := hhead hx hy (ends_behindFirst _ r) (ends_behindFirst _ s) h
      obtain ⟨rfl,rfl⟩ := behindFirst_cancel htail hxs hys hrest
      exact ⟨rfl,rfl⟩

end Rows

namespace Value

/-- Data built from nothing, truth values, integers, texts and bytes by lists, tuples and dictionaries.
No two keys of a dictionary are equal. -/
inductive IsLegible : Value → Prop
  | none : IsLegible .none
  | bool (b) : IsLegible (.bool b)
  | int (n) : IsLegible (.int n)
  | text (s) : IsLegible (.text s)
  | bytes (bs) : IsLegible (.bytes bs)
  | list {xs} (h : ∀ x ∈ xs, IsLegible x) : IsLegible (.list xs)
  | tuple {xs} (h : ∀ x ∈ xs, IsLegible x) : IsLegible (.tuple xs)
  | dict {es} (keys : ∀ e ∈ es, IsLegible e.1) (values : ∀ e ∈ es, IsLegible e.2)
    (apart : es.Pairwise fun d e => ¬ Alike d.1 e.1) : IsLegible (.dict es)

lemma IsLegible.isPlain {a : Value} (h : a.IsLegible) : a.IsPlain := by
  induction h with
  | none => exact .none
  | bool b => exact .bool b
  | int n => exact .int n
  | text s => exact .text s
  | bytes bs => exact .bytes bs
  | list _ ih => exact .list ih
  | tuple _ ih => exact .tuple ih
  | dict _ _ apart keys values => exact .dict keys values apart

lemma IsLegible.within {a v : Value} (h : a.IsLegible) (hv : Within v a) : v.IsLegible := by
  induction hv with
  | self => exact h
  | part hx _ ih =>
    refine ih ?_
    cases h with
    | list h | tuple h => exact h _ hx
    | dict keys values _ =>
      obtain ⟨e,he,hx⟩ := List.mem_flatMap.mp hx
      simp only [List.mem_cons,List.not_mem_nil,or_false] at hx
      obtain rfl | rfl := hx
      · exact keys e he
      · exact values e he
    | _ => contradiction

/-- Legible data is equal to itself. -/
lemma IsLegible.alike_self {a : Value} (h : a.IsLegible) : Alike a a := by
  refine (alike_self_iff h.isPlain).mpr fun v hv => ?_
  rintro rfl
  cases h.within hv

/-- What the first character of a written value tells of it. -/
inductive Kind
  | nothing
  | truth (b : Bool)
  | number
  | text
  | bytes
  | list
  | tuple
  | dict
  | other
  deriving DecidableEq

def Kind.ofChar (c : Char) : Kind :=
  if c = 'N' then .nothing
  else if c = 'T' then .truth true
  else if c = 'F' then .truth false
  else if c = '-' ∨ c.isDigit = true then .number
  else if c = '\'' ∨ c = '"' then .text
  else if c = 'b' then .bytes
  else if c = '[' then .list
  else if c = '(' then .tuple
  else if c = '\x7b' then .dict
  else .other

def kind : Value → Kind
  | .none => .nothing
  | .bool b => .truth b
  | .int _ => .number
  | .text _ => .text
  | .bytes _ => .bytes
  | .list _ => .list
  | .tuple _ => .tuple
  | .dict _ => .dict
  | _ => .other

/-- What is written for legible data. -/
def Shows (v : Value) (p : List Char) : Prop := v.IsLegible ∧ v.rendered = .ok p

/-- What is written for an entry of a dictionary: its key and its value, with a colon between them. -/
def ShowsEntry (e : Value × Value) (p : List Char) : Prop :=
  ∃ k v, e.1.Shows k ∧ e.2.Shows v ∧ p = k ++ ':' :: ' ' :: v

lemma showsAll {xs : List Value} {ps : List (List Char)} (hxs : ∀ x ∈ xs, x.IsLegible)
    (h : allRendered xs = .ok ps) : List.Forall₂ Shows xs ps :=
  (List.forall₂_and_left _ _).mpr ⟨hxs,forall₂_of_allRendered h⟩

lemma showsEntries {es : List (Value × Value)} {ps : List (List Char)}
    (hkeys : ∀ e ∈ es, e.1.IsLegible) (hvalues : ∀ e ∈ es, e.2.IsLegible)
    (h : entriesRendered es = .ok ps) : List.Forall₂ ShowsEntry es ps := by
  have hall := (List.forall₂_and_left es ps).mpr
    ⟨fun e he => And.intro (hkeys e he) (hvalues e he),forall₂_of_entriesRendered h⟩
  refine hall.imp ?_
  rintro e p ⟨⟨hk,hv⟩,k,v,hkr,hvr,rfl⟩
  exact ⟨k,v,⟨hk,hkr⟩,⟨hv,hvr⟩,rfl⟩

lemma kind_of_isDigit {c : Char} (h : c.isDigit = true) : Kind.ofChar c = .number := by
  have hne {d : Char} (hd : d.isDigit = false) : c ≠ d := by
    rintro rfl
    rw [h] at hd
    contradiction
  rw [Kind.ofChar,if_neg (hne (by decide)),if_neg (hne (by decide)),if_neg (hne (by decide)),
    if_pos (.inr h)]

lemma intText_begins (n : Int) : ∃ c rest, intText n = c :: rest ∧ Kind.ofChar c = .number := by
  unfold intText Double.signText
  split_ifs
  · exact ⟨_,_,rfl,rfl⟩
  · obtain ⟨c,rest,hdigits⟩ := List.exists_cons_of_ne_nil (Nat.toDigits_ne_nil (n := n.natAbs) (b := 10))
    have hmem : c ∈ Nat.toDigits 10 n.natAbs := hdigits ▸ List.mem_cons_self
    exact ⟨c,rest,hdigits,
      kind_of_isDigit (Nat.isDigit_of_mem_toDigits (by decide) (by decide) hmem)⟩

/-- The first character of a written value tells its kind. -/
lemma Shows.begins {v : Value} {p : List Char} (h : v.Shows p) :
    ∃ c rest, p = c :: rest ∧ Kind.ofChar c = v.kind := by
  obtain ⟨hv,h⟩ := h
  cases hv with
  | none =>
    obtain rfl := Except.ok.inj h
    exact ⟨_,_,rfl,rfl⟩
  | bool b =>
    cases b <;> obtain rfl := Except.ok.inj h <;> exact ⟨_,_,rfl,rfl⟩
  | int n =>
    obtain rfl := rendered_int h
    exact intText_begins n
  | text t =>
    obtain rfl := Except.ok.inj h
    refine ⟨_,_,rfl,?_⟩
    obtain hq | hq := isQuote_quoteOf t.toList <;> rw [hq] <;> rfl
  | bytes bs =>
    obtain rfl := Except.ok.inj h
    exact ⟨_,_,rfl,rfl⟩
  | list _ =>
    obtain ⟨ps,-,rfl⟩ := map_eq_ok.mp h
    exact ⟨_,_,rfl,rfl⟩
  | tuple _ =>
    obtain ⟨ps,-,rfl⟩ := map_eq_ok.mp h
    split <;> exact ⟨_,_,rfl,rfl⟩
  | dict _ _ _ =>
    obtain ⟨ps,-,rfl⟩ := map_eq_ok.mp h
    exact ⟨_,_,rfl,rfl⟩

lemma Shows.begins_apart {v : Value} {p : List Char} {close : Char} (h : v.Shows p)
    (hclose : Kind.ofChar close = .other) : ∃ c rest, p = c :: rest ∧ c ≠ close := by
  obtain ⟨c,rest,hp,hkind⟩ := h.begins
  refine ⟨c,rest,hp,?_⟩
  rintro rfl
  rw [hclose] at hkind
  cases h.1 <;> contradiction

lemma ShowsEntry.begins_apart {e : Value × Value} {p : List Char} (h : ShowsEntry e p) :
    ∃ c rest, p = c :: rest ∧ c ≠ '\x7d' := by
  obtain ⟨k,v,hk,-,rfl⟩ := h
  obtain ⟨c,rest,rfl,hc⟩ := hk.begins_apart (show Kind.ofChar '\x7d' = .other from rfl)
  exact ⟨c,_,rfl,hc⟩

lemma digits_cancel {m n : ℕ} {r s : List Char} (hr : Ends r) (hs : Ends s)
    (h : Nat.toDigits 10 m ++ r = Nat.toDigits 10 n ++ s) : m = n ∧ r = s := by
  have hfront {k : ℕ} {t : List Char} (ht : Ends t) :
      (Nat.toDigits 10 k ++ t).takeWhile Char.isDigit = Nat.toDigits 10 k := by
    have hall : ∀ c ∈ Nat.toDigits 10 k, c.isDigit = true := fun c hc =>
      Nat.isDigit_of_mem_toDigits (by decide) (by decide) hc
    have hnone : t.takeWhile Char.isDigit = [] := by
      cases t with
      | nil => rfl
      | cons c t => exact List.takeWhile_cons_of_neg (by simp [ht c rfl])
    rw [List.takeWhile_append_of_pos hall,hnone,List.append_nil]
  have hdigits : Nat.toDigits 10 m = Nat.toDigits 10 n := by
    rw [← hfront hr,h,hfront hs]
  rw [hdigits] at h
  refine ⟨?_,List.append_cancel_left h⟩
  rw [← Nat.ofDigitChars_ten_toDigits (n := m),hdigits,Nat.ofDigitChars_ten_toDigits]

lemma digits_ne_minus {n : ℕ} {r s : List Char} : Nat.toDigits 10 n ++ r ≠ '-' :: s := by
  intro h
  obtain ⟨c,rest,hdigits⟩ := List.exists_cons_of_ne_nil (Nat.toDigits_ne_nil (n := n) (b := 10))
  have hmem : c ∈ Nat.toDigits 10 n := hdigits ▸ List.mem_cons_self
  rw [hdigits] at h
  obtain rfl : c = '-' := (List.cons.inj h).1
  exact absurd (Nat.isDigit_of_mem_toDigits (by decide) (by decide) hmem) (by decide)

lemma intText_cancel {m n : Int} {r s : List Char} (hr : Ends r) (hs : Ends s)
    (h : intText m ++ r = intText n ++ s) : m = n ∧ r = s := by
  unfold intText Double.signText at h
  by_cases hm : m < 0 <;> by_cases hn : n < 0 <;>
    simp only [hm,hn,decide_true,decide_false,if_true,if_false,Bool.false_eq_true,List.nil_append,
      List.cons_append,List.cons.injEq,true_and] at h
  · obtain ⟨habs,rfl⟩ := digits_cancel hr hs h
    exact ⟨by omega,rfl⟩
  · exact absurd h.symm digits_ne_minus
  · exact absurd h digits_ne_minus
  · obtain ⟨habs,rfl⟩ := digits_cancel hr hs h
    exact ⟨by omega,rfl⟩

/-- Only a value of the same kind can be written with the same first character. -/
lemma tells_of_kind {v : Value} (h : ∀ {w p q r s}, w.IsLegible → w.kind = v.kind →
    v.rendered = .ok p → w.rendered = .ok q → Ends r → Ends s → p ++ r = q ++ s → v = w ∧ r = s) :
    Tells Shows v := by
  intro w p q r s hp hq hr hs heq
  refine h hq.1 ?_ hp.2 hq.2 hr hs heq
  obtain ⟨c,rest,rfl,hv⟩ := hp.begins
  obtain ⟨d,rest',rfl,hw⟩ := hq.begins
  obtain rfl := (List.cons.inj heq).1
  exact hw.symm.trans hv

lemma exists_int_of_kind {v : Value} (h : v.kind = .number) : ∃ n, v = .int n := by
  cases v with
  | int n => exact ⟨n,rfl⟩
  | _ => contradiction

/-- Values of which only one is of their kind are written in one way. -/
lemma eq_of_rendered {v : Value} {p q r s : List Char} (hp : v.rendered = .ok p)
    (hq : v.rendered = .ok q) (heq : p ++ r = q ++ s) : r = s := by
  rw [hp] at hq
  obtain rfl := Except.ok.inj hq
  exact List.append_cancel_left heq

lemma rendered_tuple {xs : List Value} {p : List Char} (h : (Value.tuple xs).rendered = .ok p) :
    ∃ ps, allRendered xs = .ok ps ∧ p = '(' :: tupled ps := by
  obtain ⟨ps,hps,rfl⟩ := map_eq_ok.mp h
  refine ⟨ps,hps,?_⟩
  split
  · rfl
  · rename_i hmany
    cases ps with
    | nil => rfl
    | cons p ps =>
      cases ps with
      | nil => exact absurd rfl (hmany p)
      | cons p' ps =>
        rw [separated_cons,tupled,behindFirst,← List.append_assoc]
        rfl

lemma tells_entry {e : Value × Value} (hk : Tells Shows e.1) (hv : Tells Shows e.2) :
    Tells ShowsEntry e := by
  rintro ⟨k',v'⟩ p q r s ⟨k,v,hk1,hv1,rfl⟩ ⟨k2,v2,hk2,hv2,rfl⟩ hr hs h
  simp only [List.append_assoc,List.cons_append] at h
  obtain ⟨hkey,hrest⟩ := hk hk1 hk2 (ends_cons (by decide)) (ends_cons (by decide)) h
  simp only [List.cons.injEq,true_and] at hrest
  obtain ⟨hvalue,rfl⟩ := hv hv1 hv2 hr hs hrest
  exact ⟨Prod.ext hkey hvalue,rfl⟩

/-- What is written for legible data tells it, and where it ends. -/
theorem IsLegible.tells {v : Value} (h : v.IsLegible) : Tells Shows v := by
  induction h with
  | none =>
    refine tells_of_kind fun hw hkind hp hq _ _ heq => ?_
    cases hw with
    | none => exact ⟨rfl,eq_of_rendered hp hq heq⟩
    | _ => contradiction
  | bool b =>
    refine tells_of_kind fun hw hkind hp hq _ _ heq => ?_
    cases hw with
    | bool b' =>
      obtain rfl := Kind.truth.inj hkind
      exact ⟨rfl,eq_of_rendered hp hq heq⟩
    | _ => contradiction
  | int n =>
    refine tells_of_kind fun _ hkind hp hq hr hs heq => ?_
    obtain ⟨m,rfl⟩ := exists_int_of_kind hkind
    rw [rendered_int hp,rendered_int hq] at heq
    obtain ⟨rfl,hrest⟩ := intText_cancel hr hs heq
    exact ⟨rfl,hrest⟩
  | text t =>
    refine tells_of_kind fun hw hkind hp hq _ _ heq => ?_
    cases hw with
    | text u =>
      obtain rfl := Except.ok.inj hp
      obtain rfl := Except.ok.inj hq
      obtain ⟨htext,hrest⟩ := quoted_cancel heq
      exact ⟨congrArg _ (String.toList_inj.mp htext),hrest⟩
    | _ => contradiction
  | bytes bs =>
    refine tells_of_kind fun hw hkind hp hq _ _ heq => ?_
    cases hw with
    | bytes cs =>
      obtain rfl := Except.ok.inj hp
      obtain rfl := Except.ok.inj hq
      obtain ⟨rfl,hrest⟩ := quotedBytes_cancel heq
      exact ⟨rfl,hrest⟩
    | _ => contradiction
  | list hxs ih =>
    refine tells_of_kind fun hw hkind hp hq _ _ heq => ?_
    cases hw with
    | list hys =>
      obtain ⟨ps,hps,rfl⟩ := map_eq_ok.mp hp
      obtain ⟨qs,hqs,rfl⟩ := map_eq_ok.mp hq
      simp only [List.cons_append,List.append_assoc,List.nil_append,List.cons.injEq,true_and] at heq
      obtain ⟨rfl,rfl⟩ := row_cancel (by decide) (by decide) (fun y q hy => hy.begins_apart rfl) ih
        (showsAll hxs hps) (showsAll hys hqs) heq
      exact ⟨rfl,rfl⟩
    | _ => contradiction
  | tuple hxs ih =>
    refine tells_of_kind fun hw hkind hp hq _ _ heq => ?_
    cases hw with
    | tuple hys =>
      obtain ⟨ps,hps,rfl⟩ := rendered_tuple hp
      obtain ⟨qs,hqs,rfl⟩ := rendered_tuple hq
      obtain ⟨rfl,rfl⟩ := tupled_cancel (fun y q hy => hy.begins_apart rfl) ih (showsAll hxs hps)
        (showsAll hys hqs) (List.cons.inj heq).2
      exact ⟨rfl,rfl⟩
    | _ => contradiction
  | dict hkeys hvalues _ ihk ihv =>
    refine tells_of_kind fun hw hkind hp hq _ _ heq => ?_
    cases hw with
    | dict hkeys' hvalues' _ =>
      obtain ⟨ps,hps,rfl⟩ := map_eq_ok.mp hp
      obtain ⟨qs,hqs,rfl⟩ := map_eq_ok.mp hq
      simp only [List.cons_append,List.append_assoc,List.nil_append,List.cons.injEq,true_and] at heq
      obtain ⟨rfl,rfl⟩ := row_cancel (by decide) (by decide) (fun e q he => he.begins_apart)
        (fun e he => tells_entry (ihk e he) (ihv e he)) (showsEntries hkeys hvalues hps)
        (showsEntries hkeys' hvalues' hqs) heq
      exact ⟨rfl,rfl⟩
    | _ => contradiction

/-- Legible data that is written alike is the same. -/
theorem IsLegible.eq_of_rendered {v w : Value} {p : List Char} (hv : v.IsLegible) (hw : w.IsLegible)
    (h : v.rendered = .ok p) (h' : w.rendered = .ok p) : v = w :=
  (hv.tells ⟨hv,h⟩ ⟨hw,h'⟩ ends_nil ends_nil rfl).1

end Value
end TestBench
