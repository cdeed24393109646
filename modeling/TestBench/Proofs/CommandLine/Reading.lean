import Mathlib.Tactic.Common
import TestBench.CommandLine.Program

/-! Arguments as words. What an argument says is put in front of what is read behind it, so a list of
arguments is read piece by piece; and what a command is asked for are its words, kind by kind. -/
namespace TestBench.CommandLine

variable {forms : List OptionForm}

/-- An argument that is an option is what it says, and what is awaited then is read behind it. -/
lemma readWords_option {flag : String} {said : Said} (hsep : flag ≠ "--")
    (hoption : isOptions flag = true) (hsaid : argumentSaid forms flag.toList = some said)
    (rest : List String) : readWords forms none (flag :: rest) =
      (readWords forms said.awaits rest).map (said.words ++ ·) := by
  rw [readWords,if_neg hsep,if_pos hoption,hsaid]

/-- An argument that begins with no hyphen is an operand. -/
lemma readWords_operand {t : String} (h : t.startsWith "-" = false) (rest : List String) :
    readWords forms none (t :: rest) = (readWords forms none rest).map (.operand t :: ·) := by
  have hsep : t ≠ "--" := by
    rintro rfl
    exact absurd h (by decide +kernel)
  have hoption : isOptions t = false := by simp [isOptions,h]
  rw [readWords,if_neg hsep,if_neg (by simp [hoption])]

lemma readWords_operands {ts : List String} (h : ∀ t ∈ ts, t.startsWith "-" = false)
    (rest : List String) : readWords forms none (ts ++ rest) =
      (readWords forms none rest).map (ts.map .operand ++ ·) := by
  induction ts with
  | nil => simp
  | cons t ts ih =>
    obtain ⟨ht,hts⟩ := List.forall_mem_cons.mp h
    rw [List.cons_append,readWords_operand ht,ih hts,Option.map_map]
    rfl

namespace Word

variable (vs ws : List Word)

@[simp] lemma operands_append : operands (vs ++ ws) = operands vs ++ operands ws :=
  List.filterMap_append

@[simp] lemma values_append (name : String) :
    values name (vs ++ ws) = values name vs ++ values name ws := List.filterMap_append

lemma hasFlag_nil (name : String) : hasFlag name [] = false := rfl

@[simp] lemma hasFlag_append (name : String) :
    hasFlag name (vs ++ ws) = (hasFlag name vs || hasFlag name ws) := by
  simp [hasFlag]

variable (ts : List String) (name : String)

@[simp] lemma operands_operand : operands (ts.map .operand) = ts := by
  rw [operands,List.filterMap_map]
  exact List.filterMap_some

@[simp] lemma values_operand : values name (ts.map .operand) = [] := by
  simp [values]

@[simp] lemma hasFlag_operand : hasFlag name (ts.map .operand) = false := by
  simp [hasFlag]

variable (other text : String) (value : Option String) (xs : List String)

lemma operands_cons_option : operands (.option other value :: ws) = operands ws := rfl

lemma values_cons_flag : values name (.option other none :: ws) = values name ws := rfl

@[simp] lemma values_cons_option : values name (.option other (some text) :: ws) =
    if other = name then text :: values name ws else values name ws := by
  by_cases h : other = name <;> simp [values,h]

@[simp] lemma hasFlag_cons_flag :
    hasFlag name (.option other none :: ws) = (name == other || hasFlag name ws) := by
  have hsame : (Word.option name none == Word.option other none) = (name == other) := by
    rw [Bool.eq_iff_iff,beq_iff_eq,beq_iff_eq,Word.option.injEq,and_iff_left rfl]
  rw [hasFlag,List.contains_cons,hsame,hasFlag]

@[simp] lemma hasFlag_cons_option :
    hasFlag name (.option other (some text) :: ws) = hasFlag name ws := by
  simp [hasFlag]

@[simp] lemma operands_options : operands (xs.map fun x => .option other (some x)) = [] := by
  simp [operands]

@[simp] lemma values_options : values name (xs.map fun x => .option other (some x)) =
    if other = name then xs else [] := by
  rw [values,List.filterMap_map]
  by_cases h : other = name
  · simp only [Function.comp_def,h,if_true]
    exact List.filterMap_some
  · rw [if_neg h]
    exact List.filterMap_eq_nil_iff.mpr fun _ _ => if_neg h

@[simp] lemma hasFlag_options : hasFlag name (xs.map fun x => .option other (some x)) = false := by
  simp [hasFlag]

end Word

namespace Command

lemma ofArguments_run (arguments : List String) :
    ofArguments ("run" :: arguments) = readWords runForms none arguments >>= runOf := by
  unfold ofArguments
  split
  · contradiction
  · rename_i heq
    exact absurd (List.cons.inj heq).1 (by decide)
  · rename_i heq
    exact absurd (List.cons.inj heq).1 (by decide)
  · rename_i heq
    obtain ⟨rfl,rfl⟩ := List.cons.inj heq
    exact if_pos rfl

end Command

/-- Arguments that can be read ask for help, or for the run that their words describe. -/
lemma perform_of_words {s : Setting} {arguments : List String} {ws : List Word}
    (h : readWords runForms none arguments = some ws) : perform s ("run" :: arguments) =
      if Word.hasFlag helpForm.name ws then Command.help.perform s
      else (Running.of s (.ofWords ws)).performed := by
  rw [perform,Command.ofArguments_run,h,Option.bind_eq_bind,Option.bind_some,Command.runOf]
  by_cases hhelp : Word.hasFlag helpForm.name ws = true
  · rw [if_pos hhelp,if_pos hhelp]
  · rw [if_neg hhelp,if_neg hhelp]
    rfl

lemma perform_of_unread {s : Setting} {arguments : List String}
    (h : readWords runForms none arguments = none) :
    perform s ("run" :: arguments) = ⟨.usage,s.tree,s.clock,"",""⟩ := by
  rw [perform,Command.ofArguments_run,h]
  rfl

end TestBench.CommandLine
