import TestBench.Proofs.AllOrNothing
import TestBench.Proofs.Equivalence
import TestBench.Proofs.Pass
import TestBench.Proofs.Value.Legible

/-! The two sides of an equation that does not hold, as they are told. They stand on a line each behind the
headline, in printable characters alone, so a stream that takes control sequences away leaves them as they
are; and sides that can be read back are never told alike. -/
namespace TestBench

open Text

/-- A control character: one below the space, or between the two halves of Latin-1. -/
def isControl (c : Char) : Bool := c.toNat < 32 || (127 ≤ c.toNat && c.toNat < 160)

/-- A character that ends a line. -/
def isLineBreak (c : Char) : Bool :=
  ['\n','\x0b','\x0c','\r','\x1c','\x1d','\x1e','\u0085','\u2028','\u2029'].contains c

/-- What a failed equation is told by in front of its sides. -/
def headline (message : String) : String :=
  "assertion failed:  " ++ if message = "" then "(left == right)" else message

/-- The lines behind the headline, with what is written for either side. -/
def valueLines (l r : List Char) : String :=
  "\n  left: " ++ String.ofList l ++ "\n right: " ++ String.ofList r

lemma isControl_of_isPrintable {c : Char} (h : isPrintable c = true) : isControl c = false := by
  have hlow : 32 ≤ c.toNat := le_toNat_of_isPrintable h
  by_contra hc
  simp only [isControl,Bool.not_eq_false,Bool.or_eq_true,Bool.and_eq_true,decide_eq_true_eq] at hc
  rw [isPrintable,unprintableRanges,inRanges_cons,inRanges_cons,if_neg (by omega),if_neg (by omega),
    if_neg (by omega),if_pos (by omega)] at h
  contradiction

/-- A line ends with a control character or with one of the two separators. -/
lemma isControl_of_isLineBreak {c : Char} (h : isLineBreak c = true) :
    isControl c = true ∨ c = '\u2028' ∨ c = '\u2029' := by
  rw [isLineBreak,List.contains_iff_mem] at h
  simp only [List.mem_cons,List.not_mem_nil,or_false] at h
  rcases h with rfl | rfl | rfl | rfl | rfl | rfl | rfl | rfl | hc
  all_goals first | exact .inl rfl | exact .inr hc

lemma isLineBreak_of_isPrintable {c : Char} (h : isPrintable c = true) : isLineBreak c = false := by
  by_contra hc
  rw [Bool.not_eq_false] at hc
  rcases isControl_of_isLineBreak hc with hc | rfl | rfl
  · rw [isControl_of_isPrintable h] at hc
    contradiction
  · exact absurd h (by decide +kernel)
  · exact absurd h (by decide +kernel)

lemma escape_not_mem_of_clear {cs : List Char} (h : Clear cs) : escape ∉ cs := fun hmem =>
  absurd (isControl_of_isPrintable (h escape hmem)) (by decide)

section Lines

variable {l r : List Char}

lemma valueLines_toList (l r : List Char) :
    (valueLines l r).toList = '\n' :: "  left: ".toList ++ l ++ '\n' :: " right: ".toList ++ r := by
  simp [valueLines]

lemma filter_isLineBreak_of_clear {cs : List Char} (h : Clear cs) : cs.filter isLineBreak = [] := by
  rw [List.filter_eq_nil_iff]
  intro c hc
  rw [isLineBreak_of_isPrintable (h c hc)]
  exact Bool.false_ne_true

/-- The value lines begin with a line break each and have no other. -/
lemma valueLines_breaks (hl : Clear l) (hr : Clear r) :
    (valueLines l r).toList.filter isLineBreak = ['\n','\n'] := by
  have hleft : ('\n' :: "  left: ".toList).filter isLineBreak = ['\n'] := by decide
  have hright : ('\n' :: " right: ".toList).filter isLineBreak = ['\n'] := by decide
  rw [valueLines_toList,List.filter_append,List.filter_append,List.filter_append,hleft,hright,
    filter_isLineBreak_of_clear hl,filter_isLineBreak_of_clear hr]
  rfl

lemma escape_not_mem_valueLines (hl : Clear l) (hr : Clear r) : escape ∉ (valueLines l r).toList := by
  have hleft : escape ∉ '\n' :: "  left: ".toList := by decide
  have hright : escape ∉ '\n' :: " right: ".toList := by decide
  simp only [valueLines_toList,List.mem_append,not_or]
  exact ⟨⟨⟨hleft,escape_not_mem_of_clear hl⟩,hright⟩,escape_not_mem_of_clear hr⟩

/-- The line break in front of the value lines ends what may be left of a control sequence. -/
lemma strip_append_valueLines (first : String) (hl : Clear l) (hr : Clear r) :
    strip (first ++ valueLines l r) = strip first ++ valueLines l r := by
  have hlines : ∃ rest, (valueLines l r).toList = '\n' :: rest := ⟨_,valueLines_toList l r⟩
  have hkept : stripped (valueLines l r).toList = (valueLines l r).toList :=
    stripped_of_escape_not_mem (escape_not_mem_valueLines hl hr)
  obtain ⟨rest,hrest⟩ := hlines
  rw [strip,strip,String.toList_append,hrest,stripped_append isApart_newline,← hrest,hkept,
    String.ofList_append,String.ofList_toList]

end Lines

section Failure

variable {left right : Value} {message : String}

lemma inequalityText_of_rendered {l r : List Char} (message : String) (hl : left.rendered = .ok l)
    (hr : right.rendered = .ok r) :
    Context.inequalityText left right message = .ok (headline message ++ valueLines l r) := by
  refine (Assertion.inequalityText_of_ok message hl hr).trans (congrArg _ ?_)
  unfold headline valueLines
  generalize (if message = "" then "(left == right)" else message) = shown
  simp only [String.append_assoc]

/-- The text for an equation is its headline and the value lines, unless a side cannot be written out. -/
lemma inequalityText_cases (left right : Value) (message : String) :
    (∃ l r, left.rendered = .ok l ∧ right.rendered = .ok r ∧
      Context.inequalityText left right message = .ok (headline message ++ valueLines l r)) ∨
    ∃ f, (left.rendered = .error f ∨ right.rendered = .error f) ∧
      Context.inequalityText left right message = .error f := by
  cases hl : left.rendered with
  | error f =>
    refine .inr ⟨f,.inl rfl,?_⟩
    rw [Context.inequalityText,hl]
    rfl
  | ok l =>
    cases hr : right.rendered with
    | error f =>
      refine .inr ⟨f,.inr rfl,?_⟩
      rw [Context.inequalityText,hl,hr]
      rfl
    | ok r => exact .inl ⟨l,r,rfl,rfl,inequalityText_of_rendered message hl hr⟩

end Failure

variable {c : Context} {left : Value} {right : Option Value} {message : String}

lemma assertEqual_eq_decided (c : Context) (left : Value) (right : Option Value) (message : String) :
    c.assertEqual left right message = c.decided (Context.holds left right)
      (Context.inequalityText left (right.getD left) message) := rfl

/-- An assertion that answers no has found its condition false, and tells of it. -/
lemma decided_result_no {found : Except Fault Bool} {text : Except Fault String}
    (h : (c.decided found text).result = .ok false) : found = .ok false ∧ ∃ t, text = .ok t ∧
      (c.decided found text).events = c.channel.blank ++ c.channel.error t := by
  rcases found with f | _ | _
  · contradiction
  · rcases text with f | t
    · contradiction
    · exact ⟨rfl,t,rfl,rfl⟩
  · cases Except.ok.inj h

lemma decided_result_error {found : Except Fault Bool} {text : Except Fault String} {f : Fault}
    (h : (c.decided found text).result = .error f) :
    found = .error f ∨ found = .ok false ∧ text = .error f := by
  rcases found with g | _ | _
  · exact .inl h
  · rcases text with g | t
    · exact .inr ⟨rfl,congrArg _ (Except.error.inj h)⟩
    · contradiction
  · contradiction

/-- An equation that is found false is told by its headline and the value lines. -/
lemma told_of_assertEqual (h : (c.assertEqual left right message).result = .ok false) :
    Context.holds left right = .ok false ∧ ∃ l r, left.rendered = .ok l ∧
      (right.getD left).rendered = .ok r ∧ (c.assertEqual left right message).events =
        c.channel.blank ++ c.channel.error (headline message ++ valueLines l r) := by
  rw [assertEqual_eq_decided] at h ⊢
  obtain ⟨hfound,text,htext,hevents⟩ := decided_result_no h
  obtain ⟨l,r,hl,hr,htold⟩ | ⟨f,-,htold⟩ := inequalityText_cases left (right.getD left) message
  · obtain rfl := Except.ok.inj (htext.symm.trans htold)
    exact ⟨hfound,l,r,hl,hr,hevents⟩
  · cases htext.symm.trans htold

namespace Value

lemma IsLegible.holdsNoObject {v : Value} (h : v.IsLegible) : v.HoldsNoObject :=
  fun _ _ _ hw => nomatch h.within hw

lemma HoldsNoObject.not_balks {v w : Value} {f : Fault} (hw : w.HoldsNoObject) (hv : Within v w) :
    ¬ v.Balks f := by
  rintro (_ | _) <;> exact hw _ _ _ hv

/-- The equality of what holds no object is decided. -/
lemma HoldsNoObject.decided {left : Value} {right : Option Value} (hleft : left.HoldsNoObject)
    (hright : ∀ v ∈ right, v.HoldsNoObject) (f : Fault) : Context.holds left right ≠ .error f := by
  intro h
  cases right with
  | none => exact hleft.not_balks (.self left) (balks_of_equalSelf h)
  | some right =>
    obtain ⟨v,hv | hv,hbalks⟩ := balksIn_of_equal h
    · exact hleft.not_balks hv hbalks
    · exact (hright right rfl).not_balks hv hbalks

/-- What holds no object can be written out, but for integers with too many digits. -/
lemma HoldsNoObject.hidden {v : Value} {f : Fault} (hv : v.HoldsNoObject) (h : v.rendered = .error f) :
    ∃ n, Within (.int n) v ∧ (Value.int n).Hides f := by
  obtain ⟨w,hw,hhides⟩ := hides_of_rendered h
  cases hhides with
  | object => exact absurd hw (hv _ _ _)
  | @number n hn => exact ⟨n,hw,.number hn⟩

end Value

lemma forall_mem_some {p : Value → Prop} {v : Value} : (∀ w ∈ some v, p w) ↔ p v := by
  simp

/-- What is true of both values that are given is true of the right side of the equation. -/
lemma forall_getD {p : Value → Prop} (hleft : p left) (hright : ∀ v ∈ right, p v) :
    p (right.getD left) := by
  cases right with
  | none => exact hleft
  | some right => exact hright right rfl

/-- If legible values are found to be unequal, what is written for one side in the text that tells of it
differs from what is written for the other. And if the same is written for both, they are the same value,
and the assertion passes. -/
theorem sides_told_apart (c : Context) (message : String) {left : Value} {right : Option Value}
    (hleft : left.IsLegible) (hright : ∀ v ∈ right, v.IsLegible) :
    let done := c.assertEqual left right message
    (done.result = .ok false → ∃ l r, left.rendered = .ok l ∧ (right.getD left).rendered = .ok r ∧
      l ≠ r ∧ c.channel.Got
        (fun terminal => "\n" ++ Event.lineText terminal (headline message ++ valueLines l r))
        (if c.channel.logs then [⟨.error,headline message ++ valueLines l r,none⟩] else [])
        done.events) ∧
    ∀ p, left.rendered = .ok p → (right.getD left).rendered = .ok p →
      right.getD left = left ∧ c.Passes left right message := by
  intro done
  have hsame {p : List Char} (hl : left.rendered = .ok p) (hr : (right.getD left).rendered = .ok p) :
      right.getD left = left ∧ c.Passes left right message := by
    have heq : right.getD left = left := (forall_getD hleft hright).eq_of_rendered hleft hr hl
    refine ⟨heq,(passes_iff c left right message).mpr ?_⟩
    cases right with
    | none =>
      refine (Value.equalSelf_of_isPlain hleft.isPlain).mpr ?_
      rintro rfl
      cases hleft
    | some right =>
      obtain rfl : right = left := heq
      rw [Context.holds,Value.equal_of_isPlain hleft.isPlain hleft.isPlain]
      exact congrArg _ hleft.alike_self
  refine ⟨fun h => ?_,fun p => hsame⟩
  obtain ⟨hfound,l,r,hl,hr,hevents⟩ := told_of_assertEqual h
  refine ⟨l,r,hl,hr,?_,hevents ▸ c.channel.got_failure _⟩
  rintro rfl
  have hpasses := (passes_iff c left right message).mp (hsame hl hr).2
  rw [hfound] at hpasses
  cases Except.ok.inj hpasses

/-- A comma between quotes looks like one between two texts, but not quite. -/
theorem sides_told_apart_comma :
    let c := Context.new .standard
    let left := Value.list [.text "a', 'b"]
    let right := Value.list [.text "a",.text "b"]
    left.IsLegible ∧ right.IsLegible ∧ (c.assertEqual left (some right) "").result = .ok false ∧
      (∃ l r, left.rendered = .ok l ∧ right.rendered = .ok r ∧ l ≠ r) ∧ c.Passes left (some left) "" := by
  intro c left right
  have hleft : left.IsLegible := .list (by simp [Value.IsLegible.text])
  have hright : right.IsLegible := .list (by simp [Value.IsLegible.text])
  have hfails : (c.assertEqual left (some right) "").result = .ok false := rfl
  obtain ⟨hapart,-⟩ := sides_told_apart c "" hleft (forall_mem_some.mpr hright)
  obtain ⟨-,hsame⟩ := sides_told_apart c "" hleft (forall_mem_some.mpr hleft)
  obtain ⟨l,r,hl,hr,hne,-⟩ := hapart hfails
  exact ⟨hleft,hright,hfails,⟨l,r,hl,hr,hne⟩,(hsame l hl hl).2⟩

/-- If values that hold no object are found to be unequal, what tells of it ends with two lines, with what is
written for either side, and these hold no control character and no line break but those in front of
them. A stream that is no terminal gets them as they stand in the log, whatever the message is; removing
control sequences makes the headline shorter at most. Nothing but an integer with too many digits stands
in the way of that. -/
theorem value_lines_intact (c : Context) (message : String) {left : Value} {right : Option Value}
    (hleft : left.HoldsNoObject) (hright : ∀ v ∈ right, v.HoldsNoObject) :
    let done := c.assertEqual left right message
    (done.result = .ok false → ∃ l r, left.rendered = .ok l ∧ (right.getD left).rendered = .ok r ∧
      (∀ x ∈ l ++ r, isControl x = false ∧ isLineBreak x = false) ∧
      (headline message ++ valueLines l r).toList.filter isLineBreak =
        (headline message).toList.filter isLineBreak ++ ['\n','\n'] ∧
      c.channel.Got
        (fun terminal => "\n" ++ Event.lineText terminal (headline message ++ valueLines l r))
        (if c.channel.logs then [⟨.error,headline message ++ valueLines l r,none⟩] else [])
        done.events ∧
      Event.lineText false (headline message ++ valueLines l r) =
        strip (headline message) ++ valueLines l r ++ "\n" ∧
      (strip (headline message)).toList.Sublist (headline message).toList) ∧
    ∀ f, done.result = .error f → Context.holds left right = .ok false ∧
      ∃ n, (Value.Within (.int n) left ∨ Value.Within (.int n) (right.getD left)) ∧
        (Value.int n).Hides f := by
  intro done
  have hsides : (right.getD left).HoldsNoObject := forall_getD hleft hright
  refine ⟨fun h => ?_,fun f h => ?_⟩
  · obtain ⟨-,l,r,hl,hr,hevents⟩ := told_of_assertEqual h
    have hclear : Clear l := Value.clear_rendered hleft hl
    have hclear' : Clear r := Value.clear_rendered hsides hr
    refine ⟨l,r,hl,hr,fun x hx => ?_,?_,hevents ▸ c.channel.got_failure _,?_,?_⟩
    · have hx : isPrintable x = true := clear_append.mpr ⟨hclear,hclear'⟩ x hx
      exact ⟨isControl_of_isPrintable hx,isLineBreak_of_isPrintable hx⟩
    · rw [String.toList_append,List.filter_append,valueLines_breaks hclear hclear']
    · rw [Event.lineText,if_neg Bool.false_ne_true,strip_styled,
        strip_append_valueLines _ hclear hclear']
    · rw [strip,String.toList_ofList]
      exact stripFrom_sublist 0 _
  · obtain hfound | ⟨hfound,htext⟩ := decided_result_error h
    · exact absurd hfound (hleft.decided hright f)
    · refine ⟨hfound,?_⟩
      obtain ⟨l,r,-,-,htold⟩ | ⟨g,hrendered,htold⟩ :=
        inequalityText_cases left (right.getD left) message
      · cases htext.symm.trans htold
      · obtain rfl := Except.error.inj (htext.symm.trans htold)
        obtain hl | hr := hrendered
        · obtain ⟨n,hn,hhides⟩ := hleft.hidden hl
          exact ⟨n,.inl hn,hhides⟩
        · obtain ⟨n,hn,hhides⟩ := hsides.hidden hr
          exact ⟨n,.inr hn,hhides⟩

/-- The message of an equation ends in the middle of a control sequence. -/
theorem value_lines_intact_unfinished :
    let c := Context.new ⟨.main,true⟩
    let left := Value.list [.text "0m\n\x1b[1m"]
    let right := Value.tuple [.bytes [27,91,109]]
    let message := "\x1b[31mred\x1b[3"
    let done := c.assertEqual left (some right) message
    left.HoldsNoObject ∧ right.HoldsNoObject ∧ done.result = .ok false ∧
      ∃ l r, left.rendered = .ok l ∧ right.rendered = .ok r ∧
        textOn false .main done.events =
          "\nassertion failed:  red\x1b[3" ++ valueLines l r ++ "\n" ∧
        recordsOf done.events =
          [⟨.error,"assertion failed:  \x1b[31mred\x1b[3" ++ valueLines l r,none⟩] := by
  intro c left right message done
  have hleft : left.HoldsNoObject := (Value.IsLegible.list (by simp [Value.IsLegible.text])).holdsNoObject
  have hright : right.HoldsNoObject :=
    (Value.IsLegible.tuple (by simp [Value.IsLegible.bytes])).holdsNoObject
  have hfails : done.result = .ok false := rfl
  obtain ⟨hno,-⟩ := value_lines_intact c message hleft (forall_mem_some.mpr hright)
  obtain ⟨l,r,hl,hr,-,-,⟨htext,hrecords⟩,hline,-⟩ := hno hfails
  have hfirst : strip (headline message) = "assertion failed:  red\x1b[3" := by decide +kernel
  have hshown : textOn false .main done.events =
      "\n" ++ Event.lineText false (headline message ++ valueLines l r) :=
    (htext false .main).trans (if_pos rfl)
  rw [hline,hfirst] at hshown
  exact ⟨hleft,hright,hfails,l,r,hl,hr,hshown,hrecords⟩

end TestBench
