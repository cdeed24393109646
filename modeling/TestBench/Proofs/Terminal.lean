import TestBench.Proofs.Operations
import TestBench.Proofs.Pass

/-! Terminals and other streams. Whether a stream is a terminal makes a difference to the text that it
gets and to nothing else; and one pass over all that a terminal gets of channels leaves what another
stream gets of them, because every line ends with a line break, which no control sequence goes beyond. -/
namespace TestBench

/-- What can be seen of a session or a run: what came of it, the log, what channels wrote to each stream,
and everything that each stream got. -/
structure Seen (α : Type) where
  result : α
  log : List LogRecord
  channels : Stream → String
  streams : Stream → String

def Seen.of {α : Type} (terminal : Bool) (result : α) (events : List Event) : Seen α :=
  ⟨result,recordsOf events,fun stream => textOn terminal stream (diagnosticsOf events),
    fun stream => textOn terminal stream events⟩

/-- What is seen of a session whose streams are terminals, or are not: the trace of every turn, and the
session that is left. -/
def Session.seen (terminal : Bool) (tree : FileTree) (s : Session) (turns : List Turn) :
    Seen (List Taken × Session) :=
  .of terminal (s.run tree turns) ((s.run tree turns).1.flatMap Taken.events)

/-- What is seen of a run whose streams are terminals, or are not: its result, the bench that is left,
and the trials. -/
def Run.seen (terminal : Bool) (tree : FileTree) (b : Bench) (targets : List Target) :
    Seen (Except Fault Summary × Bench × List Trial) :=
  let run := Run.of tree b targets
  .of terminal (run.result,run.bench,run.trials) run.events

/-- Does one pass turn a text of a terminal into another one, within its lines? -/
def Text.Plain (shown bare : String) : Prop :=
  ∃ removed, Text.Pass shown.toList removed bare.toList ∧ ∀ cs ∈ removed, '\n' ∉ cs

/-- What is seen with terminals and without them is the same up to the control sequences on the
terminals. Printed lines keep theirs, on the ordinary output. -/
structure Seen.Agree {α : Type} (terminal bare : Seen α) : Prop where
  result : terminal.result = bare.result
  log : terminal.log = bare.log
  channels : ∀ stream, Text.Plain (terminal.channels stream) (bare.channels stream)
  streams : ∀ stream, stream ≠ .output →
    Text.Plain (terminal.streams stream) (bare.streams stream)

open Text

lemma pass_line {s s' : String} {removed : List (List Char)} (text : String)
    (h : Pass s.toList removed s'.toList) : ∃ removed,
      Pass (Event.lineText true text ++ s).toList removed (Event.lineText false text ++ s').toList := by
  obtain ⟨first,hfirst⟩ := Pass.exists_removed (styled text).toList
  refine ⟨first ++ removed,?_⟩
  have hboth := Pass.newline_iff.mpr ⟨first,removed,_,_,rfl,rfl,hfirst,h⟩
  simpa [Event.lineText,strip] using hboth

/-- Diagnostics on a terminal lose their control sequences in one pass. -/
lemma pass_textOn (stream : Stream) (events : List Event) : ∃ removed,
    Pass (textOn true stream (diagnosticsOf events)).toList removed
      (textOn false stream (diagnosticsOf events)).toList := by
  induction events with
  | nil => exact ⟨[],.nil⟩
  | cons e es ih =>
    obtain ⟨removed,ih⟩ := ih
    unfold diagnosticsOf at ih ⊢
    cases e with
    | line s text =>
      by_cases hs : s = stream
      · simpa [Event.isPrinted,Event.textOn,hs] using pass_line text ih
      · exact ⟨removed,by simpa [Event.isPrinted,Event.textOn,hs] using ih⟩
    | blank s =>
      by_cases hs : s = stream
      · exact ⟨removed,by simpa [Event.isPrinted,Event.textOn,hs] using ih.newline⟩
      · exact ⟨removed,by simpa [Event.isPrinted,Event.textOn,hs] using ih⟩
    | printed text => exact ⟨removed,by simpa [Event.isPrinted] using ih⟩
    | logged r => exact ⟨removed,by simpa [Event.isPrinted,Event.textOn] using ih⟩

lemma plain_textOn (stream : Stream) (events : List Event) :
    Plain (textOn true stream (diagnosticsOf events)) (textOn false stream (diagnosticsOf events)) := by
  obtain ⟨removed,h⟩ := pass_textOn stream events
  exact ⟨removed,h,fun cs hcs => newline_not_mem (h.isSequence_of_mem cs hcs)⟩

lemma Seen.agree {α : Type} (result : α) (events : List Event) :
    (Seen.of true result events).Agree (Seen.of false result events) where
  result := rfl
  log := rfl
  channels stream := plain_textOn stream events
  streams stream hs := by
    have h := plain_textOn stream events
    rwa [textOn_diagnosticsOf hs,textOn_diagnosticsOf hs] at h

/-- Every session and every run come to the same with terminals and without them, and one pass takes out
of what terminals get exactly what makes the difference. The codes around a text are taken out with the
sequences of the text and never in one with them, whatever it ends with; and what is taken out of two
lines is taken out of one and then of the other. -/
theorem terminal_and_plain_agree (tree : FileTree) :
    (∀ (s : Session) (turns : List Turn),
      (s.seen true tree turns).Agree (s.seen false tree turns)) ∧
    (∀ (b : Bench) (targets : List Target),
      (Run.seen true tree b targets).Agree (Run.seen false tree b targets)) ∧
    (∀ (text : String) (removed : List (List Char)) (left : List Char),
      Pass (styled text).toList removed left ↔
        ∃ inner, removed = red.toList :: inner ++ [plain.toList] ∧ Pass text.toList inner left) ∧
    ∀ (line rest : List Char) (removed : List (List Char)) (left : List Char),
      Pass (line ++ '\n' :: rest) removed left ↔
        ∃ first second front behind, removed = first ++ second ∧ left = front ++ '\n' :: behind ∧
          Pass line first front ∧ Pass rest second behind := by
  refine ⟨fun s turns => ?_,fun b targets => ?_,fun text removed left => ?_,
    fun line rest removed left => ?_⟩
  · exact Seen.agree _ _
  · exact Seen.agree _ _
  · exact Pass.styled_iff
  · exact Pass.newline_iff

end TestBench
