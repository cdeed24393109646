import Mathlib.Tactic.Common
import TestBench.Yaml.Token

/-! What can go wrong while a YAML text is read character by character. Whoever reads gets on to a place
from which the same fault stands ahead, or stops with a fault of one of a few kinds, which says in words
what is wrong. -/
namespace TestBench

/-- Something that may fail: its result has one property, and its fault another. -/
def Yields {ε α : Type} (K : ε → Prop) (P : α → Prop) : Except ε α → Prop
  | .ok a => P a
  | .error e => K e

namespace Yields

variable {ε α β : Type} {K : ε → Prop} {P : α → Prop} {R : β → Prop} {x : Except ε α}

lemma bind {f : α → Except ε β} (hx : Yields K P x) (hf : ∀ a, P a → Yields K R (f a)) :
    Yields K R (x >>= f) := by
  cases x with
  | error e => exact hx
  | ok a => exact hf a hx

lemma map {f : α → β} (hx : Yields K P x) (hf : ∀ a, P a → R (f a)) : Yields K R (x.map f) := by
  cases x with
  | error e => exact hx
  | ok a => exact hf a hx

lemma ite {p : Prop} [Decidable p] {y : Except ε α} (hx : Yields K P x) (hy : Yields K P y) :
    Yields K P (if p then x else y) := by
  split
  · exact hx
  · exact hy

lemma mapM {f : α → Except ε β} (hf : ∀ a, Yields K (fun _ => True) (f a)) (as : List α) :
    Yields K (fun _ => True) (as.mapM f) := by
  induction as with
  | nil => exact trivial
  | cons a as ih =>
    rw [List.mapM_cons]
    exact (hf a).bind fun _ _ => ih.bind fun _ _ => trivial

lemma of_error {e : ε} (hx : Yields K P x) (h : x = .error e) : K e := by
  subst h
  exact hx

end Yields

namespace Yaml

/-- The kinds of faults that values of a document have. -/
def faultKinds : List String := [
  "ValueError","TypeError","KeyError","IndexError","AttributeError","OverflowError","RecursionError"]

/-- A fault of a text that is no document, or one that says in words what is wrong with a value. -/
def Fault.IsKnown : Fault → Prop
  | .value f => ∃ kind ∈ faultKinds, ∃ message, f = .say kind message
  | _ => True

/-- The kinds of faults that documents have. -/
def documentKinds : List String := [
  "UnicodeDecodeError","ReaderError","ScannerError","ParserError","ComposerError",
  "ConstructorError"] ++ faultKinds

lemma Fault.IsKnown.kind_mem {f : Fault} (h : f.IsKnown) : f.kind ∈ documentKinds := by
  cases f with
  | value f =>
    obtain ⟨kind,hkind,message,rfl⟩ := h
    exact List.mem_append_right _ hkind
  | undecodable m => exact List.mem_cons_self
  | _ => decide

lemma known_say {kind : String} (h : kind ∈ faultKinds) (message : String) :
    (Fault.value (.say kind message)).IsKnown := ⟨kind,h,message,rfl⟩

namespace Cursor

/-- The fault that stands ahead, if there is one, is known. -/
def Sound (c : Cursor) : Prop := ∀ e ∈ c.limit, e.2.IsKnown

variable {c : Cursor}

@[simp] lemma limit_step : c.step.limit = c.limit := by
  unfold step
  split
  · rfl
  · split <;> rfl

@[simp] lemma sound_step : c.step.Sound ↔ c.Sound := by simp [Sound]

@[simp] lemma sound_moved (n : ℕ) : (c.moved n).Sound ↔ c.Sound := by
  induction n generalizing c with
  | zero => rfl
  | succ n ih => rw [moved,ih,sound_step]

@[simp] lemma sound_asking (n : ℕ) : (c.asking n).Sound ↔ c.Sound := Iff.rfl

@[simp] lemma sound_askingSeparator : c.askingSeparator.Sound ↔ c.Sound := Iff.rfl

@[simp] lemma sound_span (p : Char → Bool) : (c.span p).2.Sound ↔ c.Sound := sound_moved _

@[simp] lemma sound_skip (p : Char → Bool) : (c.skip p).Sound ↔ c.Sound := sound_moved _

@[simp] lemma sound_lineBreak : c.lineBreak.2.Sound ↔ c.Sound := by
  unfold lineBreak
  split
  · exact sound_step
  · rfl

@[simp] lemma sound_skipComment : c.skipComment.Sound ↔ c.Sound := by
  unfold skipComment
  split
  · exact sound_skip _
  · rfl

lemma Sound.fault (h : c.Sound) {f : Fault} (hf : f.IsKnown) : (c.fault f).IsKnown := by
  unfold Cursor.fault overrun?
  cases hl : c.limit with
  | none => exact hf
  | some e =>
    obtain ⟨size,g⟩ := e
    dsimp only
    split
    · exact h _ hl
    · exact hf

lemma Sound.overrun (h : c.Sound) {f : Fault} (hf : c.overrun? = some f) : f.IsKnown := by
  unfold overrun? at hf
  split at hf
  · rename_i hl
    split at hf
    · obtain rfl := Option.some.inj hf
      exact h _ hl
    · cases hf
  · cases hf

/-- Whoever cannot read on here stops with a known fault. -/
lemma Sound.refuse (h : c.Sound) {α : Type} (P : α → Prop) :
    Yields Fault.IsKnown P (c.refuse : Except Fault α) := h.fault trivial

lemma Sound.blankLine (h : c.Sound) : Yields Fault.IsKnown Sound c.blankLine := by
  have hc : ((c.skip (· == ' ')).skipComment).Sound := by simpa using h
  unfold Cursor.blankLine
  dsimp only
  split
  · exact sound_lineBreak.mpr hc
  · exact hc.refuse _

end Cursor

/-- Reading goes well and gets on to a place with the same fault ahead, or stops with a known fault. -/
def Reads {α : Type} (x : Except Fault (α × Cursor)) : Prop :=
  Yields Fault.IsKnown (fun r => r.2.Sound) x

section Reads

variable {α β : Type} {x : Except Fault (α × Cursor)} {c : Cursor}

lemma reads_ok {a : α} (h : c.Sound) : Reads (.ok (a,c)) := h

lemma reads_refuse (h : c.Sound) : Reads (c.refuse : Except Fault (α × Cursor)) := h.refuse _

lemma Reads.bind {f : α × Cursor → Except Fault (β × Cursor)} (hx : Reads x)
    (hf : ∀ a c, c.Sound → Reads (f (a,c))) : Reads (x >>= f) :=
  Yields.bind hx fun r hr => hf r.1 r.2 hr

/-- Behind what is read here a space, a line break or the end must stand. -/
lemma reads_closed (a : α) (h : c.Sound) :
    Reads (if isSpaceOrEnd c.peek then pure (a,c) else c.refuse) := by
  split
  · exact reads_ok h
  · exact reads_refuse h

end Reads

namespace QuotedScalar

variable {c : Cursor}

lemma reads_breaks (n : ℕ) (h : c.Sound) : Reads (breaks n c) := by
  induction n generalizing c with
  | zero => exact reads_ok h
  | succ n ih =>
    rw [breaks]
    dsimp only
    split
    · exact reads_refuse (by simpa using h)
    · split
      · refine (ih (by simpa using h)).bind fun bs c hc => ?_
        exact reads_ok hc
      · exact reads_ok (by simpa using h)

lemma reads_space (h : c.Sound) : Reads (space c) := by
  unfold space
  dsimp only
  split
  · exact reads_refuse (by simpa using h)
  · split
    · refine (reads_breaks _ (by simpa using h)).bind fun bs c hc => ?_
      exact reads_ok hc
    · exact reads_ok (by simpa using h)

lemma charOfCode_known (n : ℕ) : Yields Fault.IsKnown (fun _ => True) (charOfCode n) := by
  unfold charOfCode
  split_ifs
  · exact trivial
  · exact known_say (by decide) _
  · exact known_say (by decide) _

@[simp] lemma sound_askingHex (n : ℕ) : (askingHex n c).Sound ↔ c.Sound := Iff.rfl

lemma reads_escape (h : c.Sound) : Reads (escape c) := by
  unfold escape
  split
  · exact reads_ok (by simpa using h)
  · split
    · dsimp only
      split
      · split
        · exact reads_ok (by simpa using h)
        · rename_i hcode
          exact Cursor.Sound.fault (by simpa using h) ((charOfCode_known _).of_error hcode)
      · exact reads_refuse (by simpa using h)
    · split
      · dsimp only
        exact reads_breaks _ (by simpa using h)
      · exact reads_refuse h

lemma reads_word (double : Bool) (n : ℕ) (h : c.Sound) : Reads (word double n c) := by
  induction n generalizing c with
  | zero => exact reads_ok h
  | succ n ih =>
    rw [word]
    dsimp only
    split
    · refine (ih (by simpa using h)).bind fun more c hc => ?_
      exact reads_ok hc
    · split
      · refine (ih (by simpa using h)).bind fun more c hc => ?_
        exact reads_ok hc
      · split
        · refine (reads_escape (by simpa using h)).bind fun one c hc => ?_
          refine (ih hc).bind fun more c hc => ?_
          exact reads_ok hc
        · exact reads_ok (by simpa using h)

lemma reads_words (double : Bool) (quote : Char) (n : ℕ) (h : c.Sound) :
    Reads (words double quote n c) := by
  induction n generalizing c with
  | zero => exact reads_refuse h
  | succ n ih =>
    rw [words]
    refine (reads_word double _ h).bind fun text c hc => ?_
    dsimp only
    split
    · exact reads_ok (by simpa using hc)
    · refine (reads_space hc).bind fun between c hc => ?_
      refine (ih hc).bind fun more c hc => ?_
      exact reads_ok hc

lemma reads_read (double : Bool) (h : c.Sound) : Reads (read double c) :=
  reads_words _ _ _ (by simpa using h)

end QuotedScalar

namespace BlockScalar

variable {c : Cursor}

lemma reads_increment (h : c.Sound) : Reads (increment? c) := by
  unfold increment?
  dsimp only
  split
  · split
    · exact reads_refuse h
    · exact reads_ok (by simpa using h)
  · exact reads_ok h

lemma reads_header (h : c.Sound) : Reads (header c) := by
  unfold header
  dsimp only
  split
  · refine (reads_increment (by simpa using h)).bind fun increment c hc => ?_
    exact reads_closed _ hc
  · refine (reads_increment h).bind fun increment c hc => ?_
    dsimp only
    split
    · exact reads_closed _ (by simpa using hc)
    · exact reads_closed _ hc

@[simp] lemma sound_leading (n deepest : ℕ) : (leading n deepest c).2.2.Sound ↔ c.Sound := by
  induction n generalizing deepest c with
  | zero => rfl
  | succ n ih =>
    rw [leading]
    split
    · rw [ih,Cursor.sound_step]
    · split
      · dsimp only
        rw [ih,Cursor.sound_lineBreak]
      · rfl

@[simp] lemma sound_indented (n : ℕ) : (indented n c).Sound ↔ c.Sound := Cursor.sound_moved _

@[simp] lemma sound_breaks (indent n : ℕ) : (breaks indent n c).2.Sound ↔ c.Sound := by
  induction n generalizing c with
  | zero => rfl
  | succ n ih =>
    rw [breaks]
    dsimp only
    split
    · rw [ih,Cursor.sound_lineBreak,sound_indented]
    · exact sound_indented indent

@[simp] lemma sound_lines (isFolded : Bool) (indent n : ℕ) (before : List Char) :
    (lines isFolded indent n before c).2.Sound ↔ c.Sound := by
  induction n generalizing before c with
  | zero => rfl
  | succ n ih =>
    rw [lines]
    dsimp only
    split
    · rw [ih]
      simp
    · simp

lemma reads_read (isFolded : Bool) (least : ℕ) (h : c.Sound) : Reads (read isFolded least c) := by
  unfold read
  refine (reads_header (by simpa using h)).bind fun h c hc => ?_
  refine Yields.bind hc.blankLine fun c hc => ?_
  dsimp only
  split
  · split
    · exact reads_ok (by simpa using hc)
    · exact reads_ok (by simpa using hc)
  · split
    · exact reads_ok (by simpa using hc)
    · exact reads_ok (by simpa using hc)

end BlockScalar

namespace Plain

variable {c : Cursor}

@[simp] lemma sound_breaks (n : ℕ) : (breaks n c).2.Sound ↔ c.Sound := by
  induction n generalizing c with
  | zero => rfl
  | succ n ih =>
    rw [breaks]
    split
    · rw [ih,Cursor.sound_step]
    · split
      · dsimp only
        split
        · simp
        · dsimp only
          rw [ih]
          simp
      · rfl

lemma sound_space (h : c.Sound) : (space c).2.1.Sound := by
  unfold space
  dsimp only
  split
  · split
    · simpa using h
    · -- the line breaks behind may end in a separator or not
      split
      all_goals
        rename_i hb
        have hc := congrArg (fun r => r.2.Sound) hb
        simpa [h] using hc
  · simpa using h

@[simp] lemma sound_askingColon : (askingColon c).Sound ↔ c.Sound := by
  unfold askingColon
  split <;> rfl

lemma sound_words (flow : Bool) (indent : Int) (n : ℕ) (before : List Char) (ended : Bool)
    (h : c.Sound) : (words flow indent n before ended c).2.1.Sound := by
  induction n generalizing before ended c with
  | zero => exact h
  | succ n ih =>
    rw [words]
    dsimp only
    have hspace : (space (askingColon (c.moved (wordLength flow c.rest)))).2.1.Sound :=
      sound_space (by simpa using h)
    split
    · exact h
    · split
      · simpa using h
      · split
        · exact hspace
        · exact ih _ _ hspace

lemma sound_read (flow : Bool) (indent : Int) (h : c.Sound) : (read flow indent c).2.1.Sound :=
  sound_words _ _ _ _ _ h

end Plain

namespace Token

variable {c : Cursor}

lemma reads_name (h : c.Sound) : Reads (name c) := by
  unfold name
  dsimp only
  split
  · exact reads_refuse (by simpa using h)
  · exact reads_ok (by simpa using h)

lemma reads_anchorName (h : c.Sound) : Reads (anchorName c) := by
  unfold anchorName
  refine (reads_name (by simpa using h)).bind fun text c hc => ?_
  dsimp only
  split
  · exact reads_ok hc
  · exact reads_refuse hc

lemma reads_escapedBytes (n : ℕ) (h : c.Sound) : Reads (escapedBytes n c) := by
  induction n generalizing c with
  | zero => exact reads_ok h
  | succ n ih =>
    rw [escapedBytes]
    dsimp only
    split
    · split
      · exact reads_refuse (by simpa using h)
      · refine (ih (by simpa using h)).bind fun bs c hc => ?_
        exact reads_ok hc
    · exact reads_ok h

lemma reads_tagText (n : ℕ) (h : c.Sound) : Reads (tagText n c) := by
  induction n generalizing c with
  | zero => exact reads_ok h
  | succ n ih =>
    rw [tagText]
    dsimp only
    split
    · refine (reads_escapedBytes _ (by simpa using h)).bind fun bs c hc => ?_
      dsimp only
      split
      · exact reads_refuse hc
      · refine (ih hc).bind fun more c hc => ?_
        exact reads_ok hc
    · exact reads_ok (by simpa using h)

lemma reads_tagSuffix (h : c.Sound) : Reads (tagSuffix c) := by
  unfold tagSuffix
  refine (reads_tagText _ h).bind fun cs after hc => ?_
  dsimp only
  split
  · exact reads_refuse hc
  · exact reads_ok hc

lemma reads_tagHandle (h : c.Sound) : Reads (tagHandle c) := by
  unfold tagHandle
  split
  · exact reads_refuse h
  · split
    · exact reads_ok (by simpa using h)
    · dsimp only
      split
      · exact reads_ok (by simpa using h)
      · exact reads_refuse (by simpa using h)

lemma reads_tag (h : c.Sound) : Reads (readTag c) := by
  unfold readTag
  dsimp only
  split
  · refine (reads_tagSuffix (by simpa using h)).bind fun suffix c hc => ?_
    dsimp only
    split
    · exact reads_closed _ (by simpa using hc)
    · exact reads_refuse hc
  · split
    · exact reads_closed _ (by simpa using h)
    · split
      · refine (reads_tagHandle (by simpa using h)).bind fun handle c hc => ?_
        refine (reads_tagSuffix hc).bind fun suffix c hc => ?_
        exact reads_closed _ hc
      · refine (reads_tagSuffix (by simpa using h)).bind fun suffix c hc => ?_
        exact reads_closed _ hc

lemma reads_versionNumber (h : c.Sound) : Reads (versionNumber c) := by
  unfold versionNumber
  dsimp only
  split
  · exact reads_refuse (by simpa using h)
  · split
    · exact reads_ok (by simpa using h)
    · exact Cursor.Sound.fault (by simpa using h) (known_say (by decide) _)

lemma reads_version (h : c.Sound) : Reads (version c) := by
  unfold version
  refine (reads_versionNumber (by simpa using h)).bind fun major c hc => ?_
  dsimp only
  split
  · exact reads_refuse hc
  · refine (reads_versionNumber (by simpa using hc)).bind fun minor c hc => ?_
    exact reads_closed _ hc

lemma reads_handle (h : c.Sound) : Reads (handle c) := by
  unfold handle
  refine (reads_tagHandle (by simpa using h)).bind fun name c hc => ?_
  dsimp only
  split
  · exact reads_refuse hc
  · refine (reads_tagSuffix (by simpa using hc)).bind fun replacement c hc => ?_
    exact reads_closed _ hc

lemma reads_directiveEnd (d : Directive) (h : c.Sound) :
    Reads (do return (Token.directive d,← c.blankLine)) :=
  h.blankLine.bind fun _ hc => reads_ok hc

lemma reads_directive (h : c.Sound) : Reads (readDirective c) := by
  unfold readDirective
  refine (reads_name (by simpa using h)).bind fun text c hc => ?_
  dsimp only
  split
  · exact reads_refuse hc
  · split
    · refine (reads_version hc).bind fun d c hc => ?_
      exact reads_directiveEnd d hc
    · split
      · refine (reads_handle hc).bind fun d c hc => ?_
        exact reads_directiveEnd d hc
      · exact reads_directiveEnd _ (by simpa using hc)

end Token
end Yaml
end TestBench
