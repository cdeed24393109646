import Mathlib.Tactic.Common
import TestBench.Text.Quoted

/-! Quoted text is read back in one way only, and shows as it is. The first characters of what is left
tell how the next character is written, or that the closing quote is reached; and whatever is quoted,
only printable characters are written for it. -/
namespace TestBench.Text

/-- A character that text may stand between. -/
def IsQuote (q : Char) : Prop := q = '\'' ∨ q = '"'

/-- The letter behind a backslash that stands for a character, where there is one. -/
inductive Mark (q : Char) : Char → Char → Prop
  | own {c : Char} (h : c = q ∨ c = '\\') : Mark q c c
  | newline : Mark q '\n' 'n'
  | return : Mark q '\r' 'r'
  | tab : Mark q '\t' 't'

/-- The ways to write a character between quotes. -/
inductive Escape (q c : Char) : List Char → Prop
  | mark {m : Char} (h : Mark q c m) : Escape q c ['\\',m]
  | itself (hq : c ≠ q) (hback : c ≠ '\\') (h : isPrintable c = true) : Escape q c [c]
  | code : Escape q c (codeEscape c.toNat)

variable {q c d : Char} {p p' r s cs ds : List Char} {m n width : ℕ}

lemma isQuote_quoteOf (cs : List Char) : IsQuote (quoteOf cs) := by
  unfold quoteOf
  split
  · exact .inr rfl
  · exact .inl rfl

lemma toNat_ofNat_byte (b : UInt8) : (Char.ofNat b.toNat).toNat = b.toNat := by
  have hb : b.toNat < 256 := b.toNat_lt
  rw [Char.ofNat,dif_pos (.inl (by omega))]
  rfl

/-- Whatever ASCII has between the space and the tilde shows as itself. -/
lemma isPrintable_of_ascii (h : 32 ≤ c.toNat) (h' : c.toNat ≤ 126) : isPrintable c = true := by
  rw [isPrintable,unprintableRanges,inRanges_cons,inRanges_cons,if_neg (by omega),if_neg (by omega),
    if_pos (by omega)]
  rfl

lemma isPrintable_of_isDigit (h : c.isDigit = true) : isPrintable c = true := by
  have hdigit : 48 ≤ c.toNat ∧ c.toNat ≤ 57 := Char.isDigit_iff_toNat.mp h
  exact isPrintable_of_ascii (by omega) (by omega)

lemma IsQuote.isPrintable (h : IsQuote q) : isPrintable q = true := by
  obtain rfl | rfl := h <;> exact isPrintable_of_ascii (by decide) (by decide)

lemma escape_escapeChar (q c : Char) : Escape q c (escapeChar q c) := by
  unfold escapeChar
  split_ifs with hown hn hr ht hp
  · exact .mark (.own hown)
  · subst hn
    exact .mark .newline
  · subst hr
    exact .mark .return
  · subst ht
    exact .mark .tab
  · exact .itself (fun h => hown (.inl h)) (fun h => hown (.inr h)) hp
  · exact .code

lemma escape_escapeByte (q : Char) (b : UInt8) : Escape q (Char.ofNat b.toNat) (escapeByte q b) := by
  have hcode := toNat_ofNat_byte b
  unfold escapeByte
  generalize hc : Char.ofNat b.toNat = c at hcode ⊢
  dsimp only
  rw [← hcode]
  split_ifs with hown hn hr ht hp
  · exact .mark (.own hown)
  · subst hn
    exact .mark .newline
  · subst hr
    exact .mark .return
  · subst ht
    exact .mark .tab
  · exact .itself (fun h => hown (.inl h)) (fun h => hown (.inr h)) (isPrintable_of_ascii hp.1 hp.2)
  · exact .code

section ReadingBack

lemma length_hexDigits (width n : ℕ) : (hexDigits width n).length = width := by
  induction width generalizing n with
  | zero => rfl
  | succ width ih => rw [hexDigits,List.length_append,ih,List.length_singleton]

lemma digitChar_injective : ∀ m < 16, ∀ n < 16, Nat.digitChar m = Nat.digitChar n → m = n := by decide

/-- As many digits as a number needs tell it, and where they end. -/
lemma hexDigits_cancel (hm : m < Nat.pow 16 width) (hn : n < Nat.pow 16 width)
    (h : hexDigits width m ++ r = hexDigits width n ++ s) : m = n ∧ r = s := by
  obtain ⟨hdigits,rfl⟩ := List.append_inj h (by rw [length_hexDigits,length_hexDigits])
  refine ⟨?_,rfl⟩
  clear h
  induction width generalizing m n with
  | zero =>
    have hm : m < 1 := hm
    have hn : n < 1 := hn
    omega
  | succ width ih =>
    rw [hexDigits,hexDigits] at hdigits
    obtain ⟨hfront,hlast⟩ := List.append_inj' hdigits rfl
    have hfits {k : ℕ} (hk : k < Nat.pow 16 width * 16) : k / 16 < Nat.pow 16 width :=
      (Nat.div_lt_iff_lt_mul (by decide)).mpr hk
    have hquotient : m / 16 = n / 16 := ih (hfits hm) (hfits hn) hfront
    have hrest : m % 16 = n % 16 :=
      digitChar_injective _ (Nat.mod_lt _ (by decide)) _ (Nat.mod_lt _ (by decide))
        (List.cons.inj hlast).1
    omega

/-- The mark of a code tells how many digits stand behind it. -/
lemma codeEscape_cancel (hm : m < Nat.pow 16 8) (hn : n < Nat.pow 16 8)
    (h : codeEscape m ++ r = codeEscape n ++ s) : m = n ∧ r = s := by
  have hdigits {mark : Char} {width : ℕ} (hm : m < Nat.pow 16 width) (hn : n < Nat.pow 16 width)
      (h : '\\' :: mark :: hexDigits width m ++ r = '\\' :: mark :: hexDigits width n ++ s) :
      m = n ∧ r = s :=
    hexDigits_cancel hm hn (List.cons.inj (List.cons.inj h).2).2
  unfold codeEscape at h
  split_ifs at h
  · exact hdigits (by omega) (by omega) h
  · simp at h
  · simp at h
  · simp at h
  · exact hdigits (by omega) (by omega) h
  · simp at h
  · simp at h
  · simp at h
  · exact hdigits hm hn h

lemma codeEscape_eq (n : ℕ) : ∃ mark digits, codeEscape n = '\\' :: mark :: digits ∧
    (mark = 'x' ∨ mark = 'u' ∨ mark = 'U') := by
  unfold codeEscape
  split_ifs
  · exact ⟨_,_,rfl,.inl rfl⟩
  · exact ⟨_,_,rfl,.inr (.inl rfl)⟩
  · exact ⟨_,_,rfl,.inr (.inr rfl)⟩

lemma IsQuote.ne_backslash (h : IsQuote q) : '\\' ≠ q := by
  obtain rfl | rfl := h <;> decide

lemma Mark.unique {m : Char} (hq : IsQuote q) (h : Mark q c m) (h' : Mark q d m) : c = d := by
  have hown : m = q ∨ m = '\\' → m ≠ 'n' ∧ m ≠ 'r' ∧ m ≠ 't' := by
    rintro (rfl | rfl)
    · obtain rfl | rfl := hq <;> decide
    · decide
  cases h <;> cases h' <;> simp_all

/-- No mark is the letter of a code. -/
lemma Mark.ne_code {m : Char} (hq : IsQuote q) (h : Mark q c m) : ¬(m = 'x' ∨ m = 'u' ∨ m = 'U') := by
  cases h with
  | own h =>
    obtain rfl | rfl := h
    · obtain rfl | rfl := hq <;> decide
    · decide
  | _ => decide

namespace Escape

lemma head_ne_quote (hq : IsQuote q) (h : Escape q c p) : ∃ x rest, p = x :: rest ∧ x ≠ q := by
  cases h with
  | mark _ => exact ⟨'\\',_,rfl,hq.ne_backslash⟩
  | itself hc _ _ => exact ⟨c,[],rfl,hc⟩
  | code =>
    obtain ⟨mark,digits,hcode,-⟩ := codeEscape_eq c.toNat
    exact ⟨'\\',_,hcode,hq.ne_backslash⟩

/-- What is written for a character tells it, and where it ends. -/
theorem cancel (hq : IsQuote q) (h : Escape q c p) (h' : Escape q d p') (heq : p ++ r = p' ++ s) :
    c = d ∧ r = s := by
  have hcode (c : Char) : c.toNat < Nat.pow 16 8 := c.val.toNat_lt
  obtain ⟨mark,digits,hc,hmark⟩ := codeEscape_eq c.toNat
  obtain ⟨mark',digits',hd,hmark'⟩ := codeEscape_eq d.toNat
  cases h with
  | mark hm =>
    cases h' with
    | mark hm' =>
      simp only [List.cons_append,List.nil_append,List.cons.injEq,true_and] at heq
      obtain ⟨rfl,rfl⟩ := heq
      exact ⟨hm.unique hq hm',rfl⟩
    | itself _ hback _ => exact absurd (List.cons.inj heq).1.symm hback
    | code =>
      rw [hd] at heq
      simp only [List.cons_append,List.nil_append,List.cons.injEq,true_and] at heq
      exact absurd (heq.1 ▸ hmark') (hm.ne_code hq)
  | itself _ hback _ =>
    cases h' with
    | mark hm' => exact absurd (List.cons.inj heq).1 hback
    | itself _ _ _ =>
      obtain ⟨rfl,rfl⟩ := List.cons.inj heq
      exact ⟨rfl,rfl⟩
    | code =>
      rw [hd] at heq
      exact absurd (List.cons.inj heq).1 hback
  | code =>
    cases h' with
    | mark hm' =>
      rw [hc] at heq
      simp only [List.cons_append,List.nil_append,List.cons.injEq,true_and] at heq
      exact absurd (heq.1 ▸ hmark) (hm'.ne_code hq)
    | itself _ hback _ =>
      rw [hc] at heq
      exact absurd (List.cons.inj heq).1.symm hback
    | code =>
      obtain ⟨hnat,rfl⟩ := codeEscape_cancel (hcode c) (hcode d) heq
      exact ⟨Char.toNat_inj.mp hnat,rfl⟩

end Escape

/-- Up to the closing quote, what is written for a row of things tells them. -/
lemma flatMap_cancel {α : Type} {code : α → Char} {write : α → List Char} {xs ys : List α}
    (hq : IsQuote q) (hcode : Function.Injective code) (hwrite : ∀ x, Escape q (code x) (write x))
    (h : xs.flatMap write ++ q :: r = ys.flatMap write ++ q :: s) : xs = ys ∧ r = s := by
  induction xs generalizing ys with
  | nil =>
    cases ys with
    | nil => exact ⟨rfl,(List.cons.inj h).2⟩
    | cons y ys =>
      obtain ⟨x,rest,hy,hx⟩ := (hwrite y).head_ne_quote hq
      rw [List.flatMap_cons,hy] at h
      exact absurd (List.cons.inj h).1.symm hx
  | cons x xs ih =>
    cases ys with
    | nil =>
      obtain ⟨y,rest,hx,hy⟩ := (hwrite x).head_ne_quote hq
      rw [List.flatMap_cons,hx] at h
      exact absurd (List.cons.inj h).1 hy
    | cons y ys =>
      rw [List.flatMap_cons,List.flatMap_cons,List.append_assoc,List.append_assoc] at h
      obtain ⟨hxy,hrest⟩ := (hwrite x).cancel hq (hwrite y) h
      obtain ⟨rfl,rfl⟩ := ih hrest
      exact ⟨congrArg (· :: xs) (hcode hxy),rfl⟩

/-- Quoted text tells the text, and where it ends. -/
theorem quoted_cancel (h : quoted cs ++ r = quoted ds ++ s) : cs = ds ∧ r = s := by
  simp only [quoted,List.cons_append,List.append_assoc,List.nil_append] at h
  obtain ⟨hquote,h⟩ := List.cons.inj h
  rw [← hquote] at h
  exact flatMap_cancel (isQuote_quoteOf cs) Function.injective_id (escape_escapeChar _) h

/-- Quoted bytes tell the bytes, and where they end. -/
theorem quotedBytes_cancel {as bs : List UInt8} (h : quotedBytes as ++ r = quotedBytes bs ++ s) :
    as = bs ∧ r = s := by
  simp only [quotedBytes,List.cons_append,List.append_assoc,List.nil_append,List.cons.injEq,
    true_and] at h
  obtain ⟨hquote,h⟩ := h
  rw [← hquote] at h
  have hcode : Function.Injective fun b : UInt8 => Char.ofNat b.toNat := fun a b hab => by
    have hnat := congrArg Char.toNat hab
    rwa [toNat_ofNat_byte,toNat_ofNat_byte,UInt8.toNat_inj] at hnat
  exact flatMap_cancel (isQuote_quoteOf _) hcode (escape_escapeByte _) h

end ReadingBack

section Showing

/-- Does a text hold nothing but printable characters? -/
def Clear (cs : List Char) : Prop := ∀ c ∈ cs, isPrintable c = true

@[simp] lemma clear_nil : Clear [] := nofun

@[simp] lemma clear_cons : Clear (c :: cs) ↔ isPrintable c = true ∧ Clear cs := List.forall_mem_cons

@[simp] lemma clear_append : Clear (cs ++ ds) ↔ Clear cs ∧ Clear ds := List.forall_mem_append

/-- A text with nothing but what ASCII has between the space and the tilde is clear. -/
lemma clear_of_ascii (h : cs.all fun c => 32 ≤ c.toNat && c.toNat ≤ 126) : Clear cs := by
  intro c hc
  have hascii := List.all_eq_true.mp h c hc
  simp only [Bool.and_eq_true,decide_eq_true_eq] at hascii
  exact isPrintable_of_ascii hascii.1 hascii.2

lemma clear_hexDigits (width n : ℕ) : Clear (hexDigits width n) := by
  have hascii : ∀ m < 16, 32 ≤ (Nat.digitChar m).toNat ∧ (Nat.digitChar m).toNat ≤ 126 := by decide
  have hdigit (m : ℕ) (hm : m < 16) : isPrintable (Nat.digitChar m) = true :=
    isPrintable_of_ascii (hascii m hm).1 (hascii m hm).2
  induction width generalizing n with
  | zero => exact clear_nil
  | succ width ih => simp [hexDigits,ih,hdigit _ (Nat.mod_lt n (by decide : 16 > 0))]

lemma Escape.clear (hq : IsQuote q) (h : Escape q c p) : Clear p := by
  have hback : isPrintable '\\' = true := isPrintable_of_ascii (by decide) (by decide)
  have hletter : ∀ m ∈ ['n','r','t','x','u','U'], isPrintable m = true := clear_of_ascii rfl
  cases h with
  | mark hm =>
    rename_i m
    have hmark : isPrintable m = true := by
      cases hm with
      | own hown => obtain rfl | rfl := hown <;> [exact hq.isPrintable; exact hback]
      | _ => exact hletter _ (by decide)
    simp [hback,hmark]
  | itself _ _ hc => simp [hc]
  | code =>
    unfold codeEscape
    split_ifs <;> simp [hback,clear_hexDigits,hletter]

lemma clear_flatMap {α : Type} {write : α → List Char} {xs : List α} (h : ∀ x, Clear (write x)) :
    Clear (xs.flatMap write) := by
  intro c hc
  obtain ⟨x,-,hx⟩ := List.mem_flatMap.mp hc
  exact h x c hx

/-- Quoted text shows as it is. -/
theorem clear_quoted (cs : List Char) : Clear (quoted cs) := by
  have hq := isQuote_quoteOf cs
  simp [quoted,hq.isPrintable,clear_flatMap fun c => (escape_escapeChar (quoteOf cs) c).clear hq]

/-- Quoted bytes show as they are. -/
theorem clear_quotedBytes (bs : List UInt8) : Clear (quotedBytes bs) := by
  have hq := isQuote_quoteOf (bs.map fun b => Char.ofNat b.toNat)
  have hmark : isPrintable 'b' = true := isPrintable_of_ascii (by decide) (by decide)
  simp [quotedBytes,hmark,hq.isPrintable,clear_flatMap fun b => (escape_escapeByte _ b).clear hq]

end Showing

end TestBench.Text
