import WireCodecs.Proofs.Code
import WireCodecs.Proofs.Text.Lines

/-! Indentation of code. The depth at which code is written shows in one way only: one level deeper,
every line of the text has the indentation in front of it once more, and empty lines stay empty. No
line of the text is white space alone. All of this is read off the lines of the trace, which are the
lines of the text as long as the indentation has no line feed. -/

namespace WireCodecs

open Text

namespace Text

/-- Indents a line, unless it is empty. -/
def indentLine (indent line : String) : String := if line = "" then "" else indent ++ line

/-- Indents every line of a text that is not empty. -/
def indentLines (indent text : String) : String :=
  joinWith "\n" ((splitOn '\n' text).map (indentLine indent))

theorem indentLines_endLines {lines : List String} (indent : String)
    (h : ∀ line ∈ lines, '\n' ∉ line.toList) :
    indentLines indent (endLines lines) = endLines (lines.map (indentLine indent)) := by
  rw [indentLines, splitOn_endLines h, List.map_append, ← joinWith_append_empty]
  rfl

end Text

namespace Page

variable {indent : String} {depth : Nat} {piece : String}

/-- A line is empty if it has nothing but white space. -/
theorem lineText_eq_empty (h : isBlankText (lineText indent depth piece)) :
    lineText indent depth piece = "" := by
  unfold lineText at h ⊢
  split
  · rfl
  · next hpiece =>
    rw [if_neg hpiece, isBlankText, String.toList_append, List.all_append, Bool.and_eq_true] at h
    exact absurd h.2 hpiece

theorem lineText_succ (indent : String) (depth : Nat) (piece : String) :
    lineText indent (depth + 1) piece = indentLine indent (lineText indent depth piece) := by
  unfold lineText indentLine
  split
  · rfl
  · next hpiece =>
    have hne : indentation indent depth ++ piece ≠ "" := by
      intro h
      obtain ⟨-, rfl⟩ := String.append_eq_empty_iff.mp h
      exact hpiece rfl
    rw [if_neg hne, indentation, String.append_assoc]

theorem newline_notMem_lineText (hindent : '\n' ∉ indent.toList) (hpiece : '\n' ∉ piece.toList) :
    '\n' ∉ (lineText indent depth piece).toList := by
  have hdepth : '\n' ∉ (indentation indent depth).toList := by
    induction depth with
    | zero => exact List.not_mem_nil
    | succ depth ih =>
      rw [indentation, String.toList_append, List.mem_append, not_or]
      exact ⟨hindent, ih⟩
  unfold lineText
  split
  · exact List.not_mem_nil
  · rw [String.toList_append, List.mem_append, not_or]
    exact ⟨hdepth, hpiece⟩

end Page

namespace Event

variable {ε : Type} {indent : String}

/-- The same one level deeper. -/
def deeper : Event ε → Event ε
  | line depth piece => line (depth + 1) piece
  | failure error => failure error

theorem pageLines_ofLines (depth : Nat) (text : String) :
    pageLines indent (ofLines depth text : List (Event ε)) =
      (splitOn '\n' text).map (Page.lineText indent depth) := by
  rw [ofLines, pageLines, List.filterMap_map]
  exact congrFun List.filterMap_eq_map' _

theorem pageLines_map_deeper (trace : List (Event ε)) :
    pageLines indent (trace.map deeper) = (pageLines indent trace).map (indentLine indent) := by
  rw [pageLines, pageLines, List.filterMap_map, List.map_filterMap]
  congr 1
  funext event
  cases event with
  | line depth piece => exact congrArg some (Page.lineText_succ indent depth piece)
  | failure error => rfl

theorem beforeFailure_map_deeper (trace : List (Event ε)) :
    beforeFailure (trace.map deeper) = (beforeFailure trace).map deeper := by
  rw [beforeFailure, List.takeWhile_map, beforeFailure]
  congr 2
  funext event
  cases event <;> rfl

/-- A line of the trace has no line feed in it. -/
def IsOneLine : Event ε → Prop
  | line _ piece => '\n' ∉ piece.toList
  | failure _ => True

theorem isOneLine_of_mem_ofLines {depth : Nat} {text : String} {event : Event ε}
    (h : event ∈ ofLines depth text) : event.IsOneLine := by
  obtain ⟨piece, hpiece, rfl⟩ := List.mem_map.mp h
  obtain ⟨chars, hchars, rfl⟩ := List.mem_map.mp hpiece
  rw [IsOneLine, String.toList_ofList]
  exact not_mem_of_mem_splitChars hchars

end Event

namespace Code

open Event

variable {ε : Type} {indent : String}

theorem trace_succ (depth : Nat) (code : Code ε) :
    code.trace (depth + 1) = (code.trace depth).map deeper := by
  have hlines (depth : Nat) (text : String) :
      (ofLines (depth + 1) text : List (Event ε)) = (ofLines depth text).map deeper := by
    rw [ofLines, ofLines, List.map_map]
    rfl
  induction code generalizing depth with
  | empty => rfl
  | line text => exact hlines depth text
  | blank => rfl
  | comment lead text => simp only [trace, hlines, List.map_flatMap]
  | fail error => rfl
  | seq first second ihFirst ihSecond => rw [trace, trace, ihFirst, ihSecond, List.map_append]
  | indented body ih => exact ih (depth + 1)
  | block header close body ih =>
    simp only [trace, hlines, ih (depth + 1), List.map_append]

theorem isOneLine_of_mem_trace {depth : Nat} {code : Code ε} {event : Event ε}
    (h : event ∈ code.trace depth) : event.IsOneLine := by
  induction code generalizing depth with
  | empty => cases h
  | line text => exact isOneLine_of_mem_ofLines h
  | blank =>
    rw [List.mem_singleton.mp h]
    exact List.not_mem_nil
  | comment lead text =>
    obtain ⟨line, -, hline⟩ := List.mem_flatMap.mp h
    exact isOneLine_of_mem_ofLines hline
  | fail error =>
    rw [List.mem_singleton.mp h]
    trivial
  | seq first second ihFirst ihSecond => exact (List.mem_append.mp h).elim ihFirst ihSecond
  | indented body ih => exact ih h
  | block header close body ih =>
    rcases List.mem_append.mp h with h | h
    · exact (List.mem_append.mp h).elim isOneLine_of_mem_ofLines ih
    · exact isOneLine_of_mem_ofLines h

theorem writtenLines_succ (depth : Nat) (code : Code ε) :
    code.writtenLines indent (depth + 1) =
      (code.writtenLines indent depth).map (indentLine indent) := by
  rw [writtenLines, trace_succ, beforeFailure_map_deeper, pageLines_map_deeper, writtenLines]

theorem exists_of_mem_writtenLines {depth : Nat} {code : Code ε} {line : String}
    (h : line ∈ code.writtenLines indent depth) :
    ∃ inner piece, '\n' ∉ piece.toList ∧ line = Page.lineText indent inner piece := by
  obtain ⟨event, hevent, hline⟩ := List.mem_filterMap.mp h
  have hone := isOneLine_of_mem_trace ((List.takeWhile_sublist _).subset hevent)
  cases event with
  | line inner piece => exact ⟨inner, piece, hone, (Option.some.inj hline).symm⟩
  | failure error => cases hline

theorem newline_notMem_writtenLines (hindent : '\n' ∉ indent.toList) (depth : Nat)
    (code : Code ε) : ∀ line ∈ code.writtenLines indent depth, '\n' ∉ line.toList := by
  intro line hline
  obtain ⟨inner, piece, hpiece, rfl⟩ := exists_of_mem_writtenLines hline
  exact Page.newline_notMem_lineText hindent hpiece

/-- Splitting the text at its line feeds gives the lines back, and the empty one behind the last. -/
theorem splitOn_written (hindent : '\n' ∉ indent.toList) (depth : Nat) (code : Code ε) :
    splitOn '\n' (code.written indent depth) = code.writtenLines indent depth ++ [""] := by
  rw [written_eq_endLines, splitOn_endLines (newline_notMem_writtenLines hindent depth code)]

theorem written_succ (hindent : '\n' ∉ indent.toList) (depth : Nat) (code : Code ε) :
    code.written indent (depth + 1) = indentLines indent (code.written indent depth) := by
  rw [written_eq_endLines, writtenLines_succ, written_eq_endLines,
    indentLines_endLines indent (newline_notMem_writtenLines hindent depth code)]

theorem write_indents_lines (hindent : '\n' ∉ indent.toList) (code : Code ε) (depth : Nat) :
    (∀ text, (code.write indent ⟨depth, text⟩).1.text = text ++ code.written indent depth ∧
      (code.write indent ⟨depth + 1, text⟩).1.text =
        text ++ indentLines indent (code.written indent depth)) ∧
    (∀ line ∈ splitOn '\n' (code.written indent depth), isBlankText line → line = "") ∧
    ∀ text, splitOn '\n' ((line text : Code ε).written indent depth) =
      (splitOn '\n' text).map (fun piece =>
        if isBlankText piece then "" else Page.indentation indent depth ++ piece) ++ [""] := by
  refine ⟨fun text => ⟨?_, ?_⟩, fun line hline hblank => ?_, fun text => ?_⟩
  · rw [write_eq]
  · rw [write_eq, written_succ hindent]
  · rw [splitOn_written hindent, List.mem_append, List.mem_singleton] at hline
    rcases hline with hline | rfl
    · obtain ⟨inner, piece, -, rfl⟩ := exists_of_mem_writtenLines hline
      exact Page.lineText_eq_empty hblank
    · rfl
  · rw [splitOn_written hindent, writtenLines, trace,
      beforeFailure_of_none (firstError?_ofLines _ _), pageLines_ofLines]
    rfl

/-- Lines of white space in a line step and in a comment, and a failure behind them. -/
def spacedBlock : Code String :=
  .block "class A" "\x7d" <|
    .line "int x;\n  \nint y;" ++ (.comment " * " "first\n\nlast" ++ .fail "end")

theorem write_indents_lines_spaced :
    '\n' ∉ "\t".toList ∧ (spacedBlock.write "\t" ⟨1, "// start\n"⟩).1.text =
      "// start\n\tclass A \x7b\n\t\tint x;\n\n\t\tint y;\n\t\t * first\n\t\t *\n\t\t * last\n" := by
  have hindent : '\n' ∉ "\t".toList := by decide
  refine ⟨hindent, ?_⟩
  obtain ⟨hdeeper, -, -⟩ := write_indents_lines hindent spacedBlock 0
  rw [(hdeeper _).2]
  rfl

end Code

end WireCodecs
