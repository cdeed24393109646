import TestBench.Proofs.Yaml.Reading
import TestBench.Yaml.Cell

/-! What can go wrong when a YAML file is loaded. A text that is no document is one for one of a few
reasons; a value that cannot be made has a fault of one of a few kinds, which says in words what is
wrong. -/
namespace TestBench.Yaml

/-- A text that is cut into tokens goes on to be cut, or is refused with a known fault. -/
def Cuts (x : Except Fault Lexer) : Prop := Yields Fault.IsKnown (fun l => l.cursor.Sound) x

namespace Lexer

variable {l : Lexer}

lemma cuts_ok (h : l.cursor.Sound) : Cuts (.ok l) := h

lemma cuts_ite {p : Prop} [Decidable p] {x y : Except Fault Lexer} (hx : Cuts x) (hy : Cuts y) :
    Cuts (if p then x else y) := Yields.ite hx hy

lemma cuts_refuse {c : Cursor} (h : c.Sound) : Cuts c.refuse := h.refuse _

lemma cuts_dropCandidate (h : l.cursor.Sound) : Cuts l.dropCandidate := by
  unfold dropCandidate
  split
  · exact cuts_ok h
  · split
    · exact cuts_refuse h
    · exact cuts_ok h

lemma cuts_dropStale (h : l.cursor.Sound) : Cuts l.dropStale := by
  unfold dropStale
  split
  · exact cuts_refuse h
  · exact cuts_ok h

lemma cuts_saveCandidate (h : l.cursor.Sound) : Cuts l.saveCandidate := by
  unfold saveCandidate
  split
  · exact Yields.bind (cuts_dropCandidate h) fun l hl => hl
  · exact cuts_ok h

@[simp] lemma unwind_cursor (column : Int) : (l.unwind column).cursor = l.cursor := by
  unfold unwind
  split <;> rfl

lemma cuts_atEnd (h : l.cursor.Sound) : Cuts l.atEnd :=
  Yields.bind (cuts_dropCandidate (by simpa using h)) fun _ hl => hl

lemma cuts_atDirective (h : l.cursor.Sound) : Cuts l.atDirective := by
  unfold atDirective
  refine Yields.bind (cuts_dropCandidate (by simpa using h)) fun l hl => ?_
  exact Yields.bind (Token.reads_directive hl) fun r hr => hr

lemma cuts_atMarker (t : Token) (h : l.cursor.Sound) : Cuts (l.atMarker t) :=
  Yields.bind (cuts_dropCandidate (by simpa using h)) fun l hl => (Cursor.sound_moved 3).mpr hl

lemma cuts_atOpening (t : Token) (h : l.cursor.Sound) : Cuts (l.atOpening t) :=
  Yields.bind (cuts_saveCandidate h) fun _ hl => (Cursor.sound_moved 1).mpr hl

lemma cuts_atClosing (t : Token) (h : l.cursor.Sound) : Cuts (l.atClosing t) :=
  Yields.bind (cuts_dropCandidate h) fun _ hl => (Cursor.sound_moved 1).mpr hl

lemma cuts_atComma (h : l.cursor.Sound) : Cuts l.atComma :=
  Yields.bind (cuts_dropCandidate h) fun _ hl => (Cursor.sound_moved 1).mpr hl

lemma cuts_begin (t : Token) (h : l.cursor.Sound) : Cuts (l.begin t) := by
  unfold begin
  split
  · exact cuts_ok h
  · split
    · exact cuts_refuse h
    · split
      · exact cuts_ok h
      · exact cuts_ok h

/-- Where a collection is begun, what stood there is no key. -/
lemma cuts_begun (t : Token) {f : Lexer → Except Fault Lexer}
    (hf : ∀ l : Lexer, l.cursor.Sound → Cuts (f l)) (h : l.cursor.Sound) :
    Cuts (do f (← (← l.begin t).dropCandidate)) := by
  refine Yields.bind (cuts_begin t h) fun l hl => ?_
  exact Yields.bind (cuts_dropCandidate hl) hf

lemma cuts_atEntry (h : l.cursor.Sound) : Cuts l.atEntry :=
  cuts_begun _ (fun _ hl => (Cursor.sound_moved 1).mpr hl) h

lemma cuts_atKey (h : l.cursor.Sound) : Cuts l.atKey :=
  cuts_begun _ (fun _ hl => (Cursor.sound_moved 1).mpr hl) h

@[simp] lemma confirm_cursor (k : Candidate) : (l.confirm k).cursor = l.cursor := by
  unfold confirm
  dsimp only
  split <;> rfl

lemma cuts_atColon (h : l.cursor.Sound) : Cuts l.atColon := by
  unfold atColon
  dsimp only
  split
  · exact (Cursor.sound_moved 1).mpr (by simpa [push] using h)
  · exact cuts_begun _ (fun _ hl => (Cursor.sound_moved 1).mpr hl) h

lemma cuts_atCandidate {read : Cursor → Except Fault (Token × Cursor)}
    (hread : ∀ c, c.Sound → Reads (read c)) (h : l.cursor.Sound) : Cuts (l.atCandidate read) := by
  unfold atCandidate
  refine Yields.bind (cuts_saveCandidate h) fun l hl => ?_
  exact Yields.bind (hread _ hl) fun r hr => hr

lemma cuts_atQuote (double : Bool) (h : l.cursor.Sound) : Cuts (atQuote double l) :=
  cuts_atCandidate (fun _ hc => Yields.map (QuotedScalar.reads_read double hc) fun _ hr => hr) h

lemma cuts_atBlock (isFolded : Bool) (h : l.cursor.Sound) : Cuts (l.atBlock isFolded) := by
  unfold atBlock
  refine Yields.bind (cuts_dropCandidate h) fun l hl => ?_
  exact Yields.bind (BlockScalar.reads_read _ _ hl) fun r hr => hr

lemma cuts_atPlain (h : l.cursor.Sound) : Cuts l.atPlain := by
  unfold atPlain
  refine Yields.bind (cuts_saveCandidate h) fun l hl => ?_
  exact Plain.sound_read _ _ hl

@[simp] lemma sound_asking : l.asking.cursor.Sound ↔ l.cursor.Sound := by
  unfold asking
  dsimp only
  split <;> split <;> rfl

lemma cuts_anchorName (f : String → Token) (h : l.cursor.Sound) :
    Cuts (l.atCandidate fun c => (Token.anchorName c).map fun r => (f r.1,r.2)) :=
  cuts_atCandidate (fun _ hc => Yields.map (Token.reads_anchorName hc) fun _ hr => hr) h

lemma cuts_dispatch (h : l.cursor.Sound) : Cuts l.dispatch := by
  unfold dispatch
  dsimp only
  have hl : l.asking.cursor.Sound := sound_asking.mpr h
  generalize l.asking = l at hl ⊢
  refine cuts_ite (cuts_atEnd hl) <| cuts_ite (cuts_atDirective hl) <| cuts_ite (cuts_atMarker _ hl) ?_
  refine cuts_ite (cuts_atMarker _ hl) <| cuts_ite (cuts_atOpening _ hl) <| cuts_ite (cuts_atOpening _ hl) ?_
  refine cuts_ite (cuts_atClosing _ hl) <| cuts_ite (cuts_atClosing _ hl) <| cuts_ite (cuts_atComma hl) ?_
  refine cuts_ite (cuts_atEntry hl) <| cuts_ite (cuts_atKey hl) <| cuts_ite (cuts_atColon hl) ?_
  refine cuts_ite (cuts_anchorName _ hl) <| cuts_ite (cuts_anchorName _ hl) ?_
  refine cuts_ite (cuts_atCandidate (fun _ hc => Token.reads_tag hc) hl) ?_
  refine cuts_ite (cuts_atBlock _ hl) <| cuts_ite (cuts_atBlock _ hl) ?_
  refine cuts_ite (cuts_atQuote _ hl) <| cuts_ite (cuts_atQuote _ hl) ?_
  exact cuts_ite (cuts_atPlain hl) (cuts_refuse hl)

lemma sound_toNext (n : ℕ) (h : l.cursor.Sound) : (toNext n l).cursor.Sound := by
  induction n generalizing l with
  | zero => exact h
  | succ n ih =>
    rw [toNext]
    split
    · exact ih (by simpa using h)
    · simpa using h

lemma sound_overMark (h : l.cursor.Sound) : l.overMark.cursor.Sound := by
  unfold overMark
  split
  · exact (Cursor.sound_moved 1).mpr h
  · exact h

lemma cuts_fetch (h : l.cursor.Sound) : Cuts l.fetch := by
  unfold fetch
  refine Yields.bind (cuts_dropStale (sound_toNext _ (sound_overMark h))) fun l hl => ?_
  exact cuts_dispatch (by simpa using hl)

lemma sound_release (n : ℕ) (h : l.cursor.Sound) : (release n l).2.cursor.Sound := by
  induction n generalizing l with
  | zero => exact h
  | succ n ih =>
    rw [release]
    split
    · split
      · exact h
      · exact ih h
    · exact h

/-- What stands behind the tokens of a text is a known fault, if it is one. -/
lemma run_fault (n : ℕ) (h : l.cursor.Sound) : ∀ f, (run n l).fault = some f → f.IsKnown := by
  induction n generalizing l with
  | zero =>
    intro f hf
    cases hf
  | succ n ih =>
    have hready : Cuts (if l.isDone || l.waiting.isEmpty then .ok l else l.dropStale) :=
      cuts_ite (cuts_ok h) (cuts_dropStale h)
    intro f hf
    rw [run] at hf
    dsimp only at hf
    split at hf
    · rename_i hl
      obtain rfl := Option.some.inj hf
      exact hready.of_error hl
    · rename_i l' hl
      rw [hl] at hready
      have hreleased := sound_release l'.waiting.length hready
      split at hf
      · cases hf
      · have hfetch := cuts_fetch hreleased
        split at hf
        · rename_i hl
          obtain rfl := Option.some.inj hf
          exact hfetch.of_error hl
        · rename_i l'' hl
          rw [hl] at hfetch
          split at hf
          · rename_i hover
            obtain rfl := Option.some.inj hf
            exact Cursor.Sound.overrun hfetch hover
          · exact ih hfetch f hf

end Lexer

lemma join_beyond {fault : Option Fault} (h : ∀ f, fault = some f → f.IsKnown)
    (pieces : List (List Char)) : ∀ f, (Source.join fault pieces).beyond = some f → f.IsKnown := by
  induction pieces with
  | nil => exact h
  | cons piece pieces ih =>
    rw [Source.join]
    split
    · exact ih
    · intro f hf
      obtain rfl := Option.some.inj hf
      trivial

/-- What stands behind the text of a file is a known fault, if it is one. -/
lemma ofBytes_beyond (bytes : List UInt8) :
    ∀ f, (Source.ofBytes bytes).beyond = some f → f.IsKnown := by
  have hfault : ∀ p : Text.Pieces, ∀ f, p.fault.map Fault.undecodable = some f → f.IsKnown := by
    intro p f hf
    obtain ⟨m,-,rfl⟩ := Option.map_eq_some_iff.mp hf
    trivial
  unfold Source.ofBytes Source.ofPieces
  dsimp only
  split
  · exact join_beyond (hfault _) _
  · split
    · exact hfault _
    · exact join_beyond (fun _ hf => by cases hf) _

lemma tokens_fault {s : Source} (h : ∀ f, s.beyond = some f → f.IsKnown) :
    ∀ f, (Lexer.tokens s).fault = some f → f.IsKnown := by
  refine Lexer.run_fault _ ?_
  intro e he
  obtain ⟨f,hf,rfl⟩ := Option.map_eq_some_iff.mp he
  exact h f hf

/-- A step that needs something may find nothing left, and stops without a fault of its own. -/
def IsKnownOrNone (e : Option Fault) : Prop := ∀ f, e = some f → f.IsKnown

/-- A step of reading events goes well, or stops with a known fault or none of its own. -/
def Steps {α : Type} (x : Except (Option Fault) α) : Prop := Yields IsKnownOrNone (fun _ => True) x

section Steps

variable {α β : Type}

lemma steps_ok (a : α) : Steps (.ok a) := trivial

lemma steps_none : Steps (.error none : Except (Option Fault) α) := fun _ h => by cases h

lemma steps_some {f : Fault} (h : f.IsKnown) : Steps (.error (some f) : Except (Option Fault) α) :=
  fun _ hf => Option.some.inj hf ▸ h

lemma steps_bind {x : Except (Option Fault) α} {f : α → Except (Option Fault) β} (hx : Steps x)
    (hf : ∀ a, Steps (f a)) : Steps (x >>= f) := Yields.bind hx fun a _ => hf a

lemma steps_ite {p : Prop} [Decidable p] {x y : Except (Option Fault) α} (hx : Steps x)
    (hy : Steps y) : Steps (if p then x else y) := Yields.ite hx hy

end Steps

namespace Grammar

variable {g : Grammar}

lemma steps_ungrammatical {α : Type} : Steps (ungrammatical : Except (Option Fault) α) :=
  steps_some trivial

lemma steps_look : Steps g.look := by
  unfold look
  split
  · exact steps_none
  · exact steps_ok _

lemma steps_directives (ts : List Token) (d : Directives) : Steps (directives ts d) := by
  induction ts generalizing d with
  | nil => exact steps_none
  | cons t ts ih =>
    cases t with
    | directive one =>
      cases one with
      | version major minor =>
        rw [directives]
        split
        · exact steps_ungrammatical
        · exact ih _
      | handle name replacement =>
        rw [directives]
        split
        · exact steps_ungrammatical
        · exact ih _
      | reserved => exact ih d
    | _ => exact steps_ok _

lemma steps_afterEnds (ts : List Token) : Steps (afterEnds ts) := by
  induction ts with
  | nil => exact steps_none
  | cons t ts ih =>
    cases t with
    | documentEnd => exact ih
    | _ => exact steps_ok _

lemma steps_document : Steps g.document := by
  unfold document
  refine steps_bind (steps_afterEnds _) fun ts => ?_
  split
  · exact steps_ok _
  · refine steps_bind (steps_directives _ _) fun d => ?_
    split
    split
    · exact steps_ok _
    · exact steps_ungrammatical

lemma steps_firstDocument : Steps g.firstDocument := by
  unfold firstDocument
  refine steps_bind steps_look fun t => ?_
  split
  · exact steps_document
  · exact steps_document
  · exact steps_document
  · exact steps_ok _

lemma steps_documentEnd : Steps g.documentEnd := by
  unfold documentEnd
  refine steps_bind steps_look fun t => ?_
  split
  · exact steps_ok _
  · exact steps_ok _

lemma steps_wholeTag (tag : Option (Option String × String)) : Steps (g.wholeTag tag) := by
  unfold wholeTag
  split
  · exact steps_ok _
  · exact steps_ok _
  · split
    · exact steps_ok _
    · exact steps_ungrammatical

lemma steps_node (style : Style) : Steps (g.node style) := by
  unfold node
  refine steps_bind steps_look fun t => ?_
  split
  · exact steps_ok _
  · dsimp only
    refine steps_ite steps_none ?_
    refine steps_bind (steps_wholeTag _) fun tag => ?_
    refine steps_bind steps_look fun t => ?_
    split
    · exact steps_ok _
    · exact steps_ok _
    · exact steps_ok _
    · exact steps_ok _
    · exact steps_ite (steps_ok _) (steps_ite (steps_ok _) steps_ungrammatical)
    · exact steps_ite (steps_ok _) (steps_ite (steps_ok _) steps_ungrammatical)
    · exact steps_ite (steps_ok _) steps_ungrammatical

lemma steps_nodeUnless (style : Style) (stops : Token → Bool) (after : Expectation) :
    Steps (g.nodeUnless style stops after) := by
  unfold nodeUnless
  refine steps_bind steps_look fun t => ?_
  exact steps_ite (steps_ok _) (steps_node style)

lemma steps_content : Steps g.content := by
  unfold content
  refine steps_bind steps_look fun t => ?_
  split
  · exact steps_ok _
  · exact steps_ok _
  · exact steps_ok _
  · exact steps_ok _
  · exact steps_node _

lemma steps_blockEntry : Steps g.blockEntry := by
  unfold blockEntry
  refine steps_bind steps_look fun t => ?_
  split
  · exact steps_nodeUnless ..
  · exact steps_ok _
  · exact steps_ungrammatical

lemma steps_looseEntry : Steps g.looseEntry := by
  unfold looseEntry
  refine steps_bind steps_look fun t => ?_
  split
  · exact steps_nodeUnless ..
  · exact steps_ok _

lemma steps_blockKey : Steps g.blockKey := by
  unfold blockKey
  refine steps_bind steps_look fun t => ?_
  split
  · exact steps_nodeUnless ..
  · exact steps_ok _
  · exact steps_ungrammatical

lemma steps_blockValue : Steps g.blockValue := by
  unfold blockValue
  refine steps_bind steps_look fun t => ?_
  split
  · exact steps_nodeUnless ..
  · exact steps_ok _

lemma steps_afterComma (isFirst : Bool) : Steps (g.afterComma isFirst) := by
  unfold afterComma
  refine steps_ite (steps_ok _) ?_
  split
  · exact steps_ok _
  · exact steps_ungrammatical

lemma steps_flowEntry (isFirst : Bool) : Steps (g.flowEntry isFirst) := by
  unfold flowEntry
  refine steps_bind steps_look fun t => ?_
  split
  · exact steps_ok _
  · refine steps_bind (steps_afterComma isFirst) fun g => ?_
    refine steps_bind steps_look fun t => ?_
    split
    · exact steps_ok _
    · exact steps_ok _
    · exact steps_node _

lemma steps_pairKey : Steps g.pairKey := by
  unfold pairKey
  exact steps_bind steps_look fun t => steps_nodeUnless ..

lemma steps_pairValue : Steps g.pairValue := by
  unfold pairValue
  refine steps_bind steps_look fun t => ?_
  split
  · exact steps_nodeUnless ..
  · exact steps_ok _

lemma steps_flowKey (isFirst : Bool) : Steps (g.flowKey isFirst) := by
  unfold flowKey
  refine steps_bind steps_look fun t => ?_
  split
  · exact steps_ok _
  · refine steps_bind (steps_afterComma isFirst) fun g => ?_
    refine steps_bind steps_look fun t => ?_
    split
    · exact steps_nodeUnless ..
    · exact steps_ok _
    · exact steps_node _

lemma steps_flowValue : Steps g.flowValue := by
  unfold flowValue
  refine steps_bind steps_look fun t => ?_
  split
  · exact steps_nodeUnless ..
  · exact steps_ok _

/-- A step of the grammar reads an event, or finds that none can come. -/
lemma steps_step : Steps g.step := by
  unfold step
  cases g.next with
  | firstDocument => exact steps_firstDocument
  | document => exact steps_document
  | documentEnd => exact steps_documentEnd
  | content => exact steps_content
  | blockNode => exact steps_node _
  | blockEntry => exact steps_blockEntry
  | looseEntry => exact steps_looseEntry
  | blockKey => exact steps_blockKey
  | blockValue => exact steps_blockValue
  | flowFirst => exact steps_flowEntry _
  | flowEntry => exact steps_flowEntry _
  | pairKey => exact steps_pairKey
  | pairValue => exact steps_pairValue
  | pairEnd => exact steps_bind steps_look fun _ => steps_ok _
  | flowFirstKey => exact steps_flowKey _
  | flowKey => exact steps_flowKey _
  | flowValue => exact steps_flowValue
  | flowNoValue => exact steps_bind steps_look fun _ => steps_ok _
  | nothing => exact steps_none

end Grammar

lemma events_fault {behind : Option Fault} (h : ∀ f, behind = some f → f.IsKnown) (n : ℕ)
    (g : Grammar) : ∀ f, (Event.run behind n g).fault = some f → f.IsKnown := by
  induction n generalizing g with
  | zero =>
    intro f hf
    cases hf
  | succ n ih =>
    intro f hf
    rw [Event.run] at hf
    split at hf
    · rename_i hstep
      obtain rfl := Option.some.inj hf
      exact Grammar.steps_step.of_error hstep _ rfl
    · exact h f hf
    · exact ih _ f hf

namespace Assembly

variable {a : Assembly}

lemma steps_take : Steps a.take := by
  unfold take
  split
  · exact steps_none
  · exact steps_ok _

lemma steps_look : Steps a.look := by
  unfold look
  split
  · exact steps_none
  · exact steps_ok _

lemma steps_checkAnchor (anchor : Option String) : Steps (a.checkAnchor anchor) := by
  unfold checkAnchor
  split
  · exact steps_ok _
  · exact steps_ite (steps_some trivial) (steps_ok _)

lemma tooDeep_known : tooDeep.IsKnown := known_say (by decide) _

/-- Putting a node together goes well, or stops with a known fault; so do its items and entries. -/
lemma steps_parts (depth : ℕ) : ∀ (level : ℕ) (a : Assembly), Steps (node level depth a) ∧
    Steps (items level depth a) ∧ Steps (entries level depth a) := by
  induction depth with
  | zero => exact fun _ _ => ⟨steps_none,steps_none,steps_none⟩
  | succ depth ih =>
    intro level a
    refine ⟨?_,?_,?_⟩
    · rw [node]
      refine steps_ite (steps_some tooDeep_known) ?_
      refine steps_bind steps_take fun e => ?_
      split
      split
      · split
        · exact steps_ok _
        · exact steps_some trivial
      · exact steps_bind (steps_checkAnchor _) fun _ => steps_ok _
      · refine steps_bind (steps_checkAnchor _) fun _ => ?_
        exact steps_bind (ih _ _).2.1 fun _ => steps_ok _
      · refine steps_bind (steps_checkAnchor _) fun _ => ?_
        exact steps_bind (ih _ _).2.2 fun _ => steps_ok _
      · exact steps_none
    · rw [items]
      refine steps_bind steps_look fun e => ?_
      split
      · exact steps_bind steps_take fun _ => steps_ok _
      · refine steps_bind (ih _ _).1 fun n => ?_
        exact steps_bind (ih _ _).2.1 fun _ => steps_ok _
    · rw [entries]
      refine steps_bind steps_look fun e => ?_
      split
      · exact steps_bind steps_take fun _ => steps_ok _
      · refine steps_bind (ih _ _).1 fun k => ?_
        refine steps_bind (ih _ _).1 fun v => ?_
        exact steps_bind (ih _ _).2.2 fun _ => steps_ok _

lemma steps_document : Steps a.document := by
  unfold document
  refine steps_bind steps_look fun e => ?_
  split
  · exact steps_ok _
  · refine steps_bind steps_take fun _ => ?_
    refine steps_bind (steps_parts _ _ _).1 fun n => ?_
    refine steps_bind steps_take fun _ => ?_
    refine steps_bind steps_look fun e => ?_
    split
    · exact steps_ok _
    · exact steps_some trivial

end Assembly

/-- Something goes well, or stops with a known fault. -/
def Goes {α : Type} (x : Except Fault α) : Prop := Yields Fault.IsKnown (fun _ => True) x

section Goes

variable {α β : Type}

lemma goes_ok (a : α) : Goes (.ok a) := trivial

lemma goes_content : Goes (.error .content : Except Fault α) := trivial

lemma goes_say {kind : String} (h : kind ∈ faultKinds) (message : String) :
    Goes (.error (.value (.say kind message)) : Except Fault α) := known_say h message

lemma goes_bind {x : Except Fault α} {f : α → Except Fault β} (hx : Goes x) (hf : ∀ a, Goes (f a)) :
    Goes (x >>= f) := Yields.bind hx fun a _ => hf a

lemma goes_map {x : Except Fault α} {f : α → β} (hx : Goes x) : Goes (x.map f) :=
  Yields.map hx fun _ _ => trivial

lemma goes_ite {p : Prop} [Decidable p] {x y : Except Fault α} (hx : Goes x) (hy : Goes y) :
    Goes (if p then x else y) := Yields.ite hx hy

lemma goes_mapM {f : α → Except Fault β} (hf : ∀ a, Goes (f a)) (as : List α) : Goes (as.mapM f) :=
  Yields.mapM hf as

end Goes

namespace Graph

variable {g : Graph}

lemma goes_ofSource {s : Source} (h : ∀ f, s.beyond = some f → f.IsKnown) : Goes (ofSource s) := by
  have hbehind := events_fault (tokens_fault h) (4 * (Lexer.tokens s).tokens.length + 8)
    ⟨.firstDocument,[],[],(Lexer.tokens s).tokens.drop 1⟩
  unfold ofSource
  dsimp only
  split
  · exact goes_ok _
  · rename_i f hf
    exact Assembly.steps_document.of_error hf f rfl
  · cases hb : (Event.ofTokens (Lexer.tokens s)).fault with
    | none => trivial
    | some f => exact hbehind f hb

lemma goes_mergeAll {flatten : ℕ → Graph → Except Fault Graph} (hf : ∀ n g, Goes (flatten n g))
    (ns : List ℕ) (g : Graph) : Goes (mergeAll flatten ns g) := by
  induction ns generalizing g with
  | nil => exact goes_ok _
  | cons n ns ih =>
    rw [mergeAll]
    refine goes_ite (goes_bind (hf n g) fun g => ?_) goes_content
    exact goes_bind (ih g) fun _ => goes_ok _

lemma goes_mergedOf {flatten : ℕ → Graph → Except Fault Graph} (hf : ∀ n g, Goes (flatten n g))
    (value : ℕ) (g : Graph) : Goes (mergedOf flatten value g) := by
  unfold mergedOf
  split
  · exact goes_bind (hf _ _) fun _ => goes_ok _
  · exact goes_mergeAll hf _ _
  · exact goes_content

lemma goes_flattenFrom {flatten : ℕ → Graph → Except Fault Graph} (hf : ∀ n g, Goes (flatten n g))
    (n more index : ℕ) (merged : List (ℕ × ℕ)) (g : Graph) :
    Goes (flattenFrom flatten n more index merged g) := by
  induction more generalizing index merged g with
  | zero => exact goes_ok _
  | succ more ih =>
    rw [flattenFrom]
    split
    · exact ih ..
    · refine goes_ite (goes_bind (goes_mergedOf hf _ _) fun _ => ih ..) ?_
      exact goes_ite (ih ..) (ih ..)

lemma goes_flattenUpTo (depth n : ℕ) (g : Graph) : Goes (flattenUpTo depth n g) := by
  induction depth generalizing n g with
  | zero => exact goes_ok _
  | succ depth ih => exact goes_flattenFrom ih ..

lemma goes_textOf (depth n : ℕ) : Goes (g.textOf depth n) := by
  induction depth generalizing n with
  | zero => exact goes_say (by decide) _
  | succ depth ih =>
    rw [textOf]
    split
    · exact goes_ok _
    · exact goes_content
    · split
      · exact ih _
      · exact goes_content

end Graph

namespace Number

lemma goes_readInt (base : ℕ) (cs : List Char) : Goes (readInt base cs) := by
  unfold readInt
  split
  · exact goes_ok _
  · exact goes_say (by decide) _

lemma goes_readDouble (cs : List Char) : Goes (readDouble cs) := by
  unfold readDouble
  split
  · exact goes_ok _
  · exact goes_say (by decide) _

lemma goes_noCharacter {α : Type} : Goes (.error noCharacter : Except Fault α) :=
  goes_say (by decide) _

lemma goes_signed (cs : List Char) : Goes (signed cs) := by
  unfold signed
  split
  · exact goes_noCharacter
  · exact goes_ok _
  · exact goes_ok _
  · exact goes_ok _

lemma goes_magnitude (cs : List Char) : Goes (magnitude cs) := by
  unfold magnitude
  split
  · exact goes_noCharacter
  · exact goes_ok _
  · exact goes_readInt _ _
  · exact goes_readInt _ _
  · exact goes_readInt _ _
  · refine goes_ite (goes_bind (goes_mapM (goes_readInt 10) _) fun _ => goes_ok _) ?_
    exact goes_readInt _ _

lemma goes_toInt (cs : List Char) : Goes (toInt cs) := by
  unfold toInt
  refine goes_bind (goes_signed _) fun _ => ?_
  exact goes_bind (goes_magnitude _) fun _ => goes_ok _

lemma goes_sixties (base : ℕ) (xs : List Double) (sum : Double) : Goes (sixties base xs sum) := by
  induction xs generalizing base sum with
  | nil => exact goes_ok _
  | cons x xs ih =>
    rw [sixties]
    split
    · exact goes_say (by decide) _
    · exact ih ..

lemma goes_toDouble (cs : List Char) : Goes (toDouble cs) := by
  unfold toDouble
  refine goes_bind (goes_signed _) fun _ => ?_
  refine goes_ite (goes_ok _) <| goes_ite (goes_ok _) <| goes_ite ?_ ?_
  · refine goes_bind (goes_mapM goes_readDouble _) fun _ => ?_
    exact goes_bind (goes_sixties ..) fun _ => goes_ok _
  · exact goes_bind (goes_readDouble _) fun _ => goes_ok _

end Number

namespace Stamp

variable {s : Stamp}

lemma goes_wrong {α : Type} (text : String) : Goes (wrong text : Except Fault α) :=
  goes_say (by decide) _

lemma goes_date : Goes s.date := by
  unfold date
  refine goes_ite (goes_wrong _) <| goes_ite (goes_wrong _) <| goes_ite (goes_wrong _) (goes_ok _)

lemma goes_checkOffset (offset : Option Int) : Goes (checkOffset offset) := by
  unfold checkOffset
  split
  · exact goes_ok _
  · exact goes_ite (goes_ok _) (goes_wrong _)

lemma goes_checkTime (hour minute second : ℕ) : Goes (checkTime hour minute second) := by
  unfold checkTime
  exact goes_ite (goes_wrong _) <| goes_ite (goes_wrong _) <| goes_ite (goes_wrong _) (goes_ok _)

lemma goes_value : Goes s.value := by
  unfold value
  split
  · exact goes_map goes_date
  · refine goes_bind (goes_checkOffset _) fun _ => ?_
    refine goes_bind goes_date fun _ => ?_
    exact goes_bind (goes_checkTime ..) fun _ => goes_ok _

end Stamp

namespace Cell

lemma goes_truthOf (cs : List Char) : Goes (truthOf cs) := by
  unfold truthOf
  exact goes_ite (goes_ok _) <| goes_ite (goes_ok _) (goes_say (by decide) _)

lemma goes_bytesOf (cs : List Char) : Goes (bytesOf cs) := by
  unfold bytesOf
  refine goes_ite ?_ goes_content
  split
  · exact goes_ok _
  · exact goes_content

lemma goes_stampOf (content : Content) : Goes (stampOf content) := by
  unfold stampOf
  split
  · split
    · exact Stamp.goes_value
    · exact goes_say (by decide) _
  · exact goes_say (by decide) _

/-- The cell of a node is made at once, or its text is not what its tag says. -/
lemma goes_first (g : Graph) (n : ℕ) : Goes (first g n) := by
  have htext : Goes (g.textOf (g.nodes.size+1) n) := g.goes_textOf _ _
  unfold first
  dsimp only
  cases (g.get n).tag with
  | null => exact goes_bind htext fun _ => goes_ok _
  | bool => exact goes_bind htext fun _ => goes_bind (goes_truthOf _) fun _ => goes_ok _
  | int => exact goes_bind htext fun _ => goes_bind (Number.goes_toInt _) fun _ => goes_ok _
  | float => exact goes_bind htext fun _ => goes_bind (Number.goes_toDouble _) fun _ => goes_ok _
  | binary => exact goes_bind htext fun _ => goes_bind (goes_bytesOf _) fun _ => goes_ok _
  | timestamp => exact goes_bind htext fun _ => goes_bind (goes_stampOf _) fun _ => goes_ok _
  | text => exact goes_bind htext fun _ => goes_ok _
  | sequence => exact goes_ok _
  | orderedMap => exact goes_ok _
  | pairs => exact goes_ok _
  | mapping => exact goes_ok _
  | set => exact goes_ok _
  | merge => exact goes_content
  | value => exact goes_content
  | unknown => exact goes_content

end Cell

namespace Cells

variable {s : Cells}

lemma goes_make (n : ℕ) : Goes (s.make n) := by
  unfold make
  split
  · exact goes_ok _
  · exact goes_bind (Cell.goes_first _ _) fun _ => goes_ok _

lemma goes_makeAll (ns : List ℕ) (s : Cells) : Goes (s.makeAll ns) := by
  induction ns generalizing s with
  | nil => exact goes_ok _
  | cons n ns ih => exact goes_bind (goes_make n) fun _ => ih _

lemma goes_makeEntries (es : List (ℕ × ℕ)) (done : List (Key × ℕ)) (s : Cells) :
    Goes (s.makeEntries es done) := by
  induction es generalizing done s with
  | nil => exact goes_ok _
  | cons e es ih =>
    rw [makeEntries]
    refine goes_bind (goes_make _) fun s => ?_
    split
    · exact goes_bind (goes_make _) fun _ => ih ..
    · exact goes_content

lemma goes_mappingOf (n : ℕ) : Goes (s.mappingOf n) := by
  unfold mappingOf
  refine goes_ite (goes_bind (Graph.goes_flattenUpTo ..) fun _ => ?_) goes_content
  exact goes_bind (goes_makeEntries ..) fun _ => goes_ok _

lemma goes_singleOf (g : Graph) (n : ℕ) : Goes (singleOf g n) := by
  unfold singleOf
  split
  · exact goes_ok _
  · exact goes_content

lemma goes_makeSingles (ns : List ℕ) (s : Cells) : Goes (s.makeSingles ns) := by
  induction ns generalizing s with
  | nil => exact goes_ok _
  | cons n ns ih =>
    rw [makeSingles]
    refine goes_bind (goes_singleOf _ _) fun e => ?_
    refine goes_bind (goes_make _) fun s => ?_
    refine goes_bind (goes_make _) fun s => ?_
    exact goes_bind (ih _) fun _ => goes_ok _

lemma goes_fill (n : ℕ) : Goes (s.fill n) := by
  unfold fill
  split
  · exact goes_bind (goes_makeAll ..) fun _ => goes_ok _
  · exact goes_bind (goes_makeSingles ..) fun _ => goes_ok _
  · exact goes_bind (goes_mappingOf _) fun _ => goes_ok _
  · exact goes_bind (goes_mappingOf _) fun _ => goes_ok _
  · exact goes_content

lemma goes_fillAll (more : ℕ) (s : Cells) : Goes (fillAll more s) := by
  induction more generalizing s with
  | zero => exact goes_ok _
  | succ more ih =>
    rw [fillAll]
    split
    · exact goes_ok _
    · exact goes_bind (goes_fill _) fun _ => ih _

lemma goes_ofGraph (g : Graph) (n : ℕ) : Goes (ofGraph g n) :=
  goes_bind (goes_make n) fun _ => goes_fillAll ..

end Cells

lemma goes_load (bytes : List UInt8) : Goes (load (.ofBytes bytes)) := by
  unfold load
  refine goes_bind (Graph.goes_ofSource (ofBytes_beyond bytes)) fun found => ?_
  split
  · exact goes_ok _
  · exact goes_bind (Cells.goes_ofGraph ..) fun _ => goes_ok _

/-- Whatever the bytes of a file are, it can be loaded or there is a known fault. -/
theorem load_known {bytes : List UInt8} {f : Fault} (h : load (.ofBytes bytes) = .error f) :
    f.IsKnown := (goes_load bytes).of_error h

end TestBench.Yaml
