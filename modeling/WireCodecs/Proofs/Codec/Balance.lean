import WireCodecs.Proofs.Code
import WireCodecs.Proofs.Text.Braces

/-! The braces of code. What code writes has the braces of its lines and of its blocks in it and no
others: breaking texts into lines, indenting them and leaving out white space neither adds braces
nor loses any. Code is balanced if its lines are, by themselves or several together, as blocks add
braces in pairs. -/

namespace WireCodecs

open Text

namespace Page

variable {indent : String}

theorem braceless_indentation (hindent : Braceless indent) (depth : Nat) :
    Braceless (indentation indent depth) := by
  induction depth with
  | zero => rfl
  | succ depth ih => exact hindent.append ih

theorem braceless_of_isBlankText {text : String} (h : isBlankText text) : Braceless text := by
  refine lacks_iff.mpr fun c hc hbrace => ?_
  have hblank : isBlank c = true := List.all_eq_true.mp h c hc
  rcases isBrace_iff.mp hbrace with rfl | rfl <;> exact absurd hblank (by decide)

theorem bracesOf_lineText (hindent : Braceless indent) (depth : Nat) (piece : String) :
    bracesOf (lineText indent depth piece) = bracesOf piece := by
  have hdepth : bracesOf (indentation indent depth) = [] := braceless_indentation hindent depth
  unfold lineText
  split
  · next hblank =>
    have hpiece : bracesOf piece = [] := braceless_of_isBlankText hblank
    rw [hpiece]
    exact bracesOf_literal rfl
  · rw [bracesOf_append, hdepth, List.nil_append]

end Page

namespace Event

variable {ε : Type}

def bracesOf : Event ε → List Char
  | line _ piece => Text.bracesOf piece
  | failure _ => []

theorem bracesOf_textOf {indent : String} (hindent : Braceless indent) (trace : List (Event ε)) :
    Text.bracesOf (textOf indent trace) = trace.flatMap bracesOf := by
  have hevent (event : Event ε) : Text.bracesOf (event.text indent) = event.bracesOf := by
    cases event with
    | line depth piece =>
      rw [text, bracesOf_append, Page.bracesOf_lineText hindent, bracesOf_literal rfl]
      exact List.append_nil _
    | failure error => exact bracesOf_literal rfl
  induction trace with
  | nil => exact bracesOf_literal rfl
  | cons event trace ih =>
    rw [textOf] at ih ⊢
    rw [List.map_cons, String.join_cons, bracesOf_append, hevent, ih, List.flatMap_cons]

theorem flatMap_bracesOf_ofLines (depth : Nat) (text : String) :
    (ofLines depth text : List (Event ε)).flatMap bracesOf = Text.bracesOf text := by
  have hfeed : isBrace '\n' = false := by decide
  have hwhole := congrArg (List.filter isBrace) (flatten_splitChars '\n' text.toList)
  rw [List.filter_flatten, List.map_map, List.filter_cons, hfeed] at hwhole
  simpa [ofLines, splitOn, bracesOf, Text.bracesOf, List.flatMap_def, Function.comp_def,
    hfeed] using hwhole

end Event

namespace Code

/-- The braces that code writes. -/
def bracesOf : Code Empty → List Char
  | empty | blank => []
  | seq first second => first.bracesOf ++ second.bracesOf
  | line text => Text.bracesOf text
  | comment lead text =>
    (lines text).flatMap fun line => Text.bracesOf (Page.commentLine lead line)
  | indented body => body.bracesOf
  | block header close body =>
    Text.bracesOf (header ++ " \x7b") ++ body.bracesOf ++ Text.bracesOf close

@[simp] theorem bracesOf_append_code (first second : Code Empty) :
    (first ++ second).bracesOf = first.bracesOf ++ second.bracesOf :=
  rfl

theorem flatMap_bracesOf_trace (code : Code Empty) (depth : Nat) :
    (code.trace depth).flatMap Event.bracesOf = code.bracesOf := by
  induction code generalizing depth with
  | empty => rfl
  | blank =>
    rw [trace, bracesOf, List.flatMap_singleton]
    exact bracesOf_literal rfl
  | line text => exact Event.flatMap_bracesOf_ofLines depth text
  | comment lead text =>
    rw [trace, List.flatMap_assoc, bracesOf]
    simp only [Event.flatMap_bracesOf_ofLines]
  | seq first second ihFirst ihSecond =>
    rw [trace, List.flatMap_append, ihFirst, ihSecond, bracesOf]
  | indented body ih => exact ih (depth + 1)
  | block header close body ih =>
    rw [trace, List.flatMap_append, List.flatMap_append, ih, Event.flatMap_bracesOf_ofLines,
      Event.flatMap_bracesOf_ofLines, bracesOf]
  | fail error => exact error.elim

theorem bracesOf_written {indent : String} (hindent : Braceless indent) (code : Code Empty)
    (depth : Nat) : Text.bracesOf (code.written indent depth) = code.bracesOf := by
  rw [written_eq_textOf_trace, Event.bracesOf_textOf hindent, flatMap_bracesOf_trace]

/-- Code whose braces nest. -/
def IsBalanced (code : Code Empty) : Prop := Nests 0 0 code.bracesOf

section Combining

theorem isBalanced_empty : IsBalanced .empty := Nests.nil 0

theorem isBalanced_blank : IsBalanced .blank := Nests.nil 0

theorem isBalanced_line {text : String} (h : Braceless text) : IsBalanced (.line text) := by
  rw [IsBalanced, bracesOf, bracesOf_of_braceless h]
  exact Nests.nil 0

theorem isBalanced_comment {lead text : String} (hlead : Braceless lead) (htext : Braceless text) :
    IsBalanced (.comment lead text) := by
  refine Nests.flatMap fun line hline => ?_
  have hwritten : Braceless (Page.commentLine lead line) := by
    unfold Page.commentLine
    split
    · exact hlead.trimEnd
    · exact hlead.append (htext.lines line hline)
  rw [bracesOf_of_braceless hwritten]
  exact Nests.nil 0

theorem IsBalanced.append {first second : Code Empty} (hfirst : first.IsBalanced)
    (hsecond : second.IsBalanced) : (first ++ second).IsBalanced :=
  Nests.append hfirst hsecond

theorem isBalanced_all {codes : List (Code Empty)} (h : ∀ code ∈ codes, code.IsBalanced) :
    (all codes).IsBalanced := by
  induction codes with
  | nil => exact isBalanced_empty
  | cons code codes ih =>
    rw [List.forall_mem_cons] at h
    exact h.1.append (ih h.2)

theorem IsBalanced.block {header close : String} {body : Code Empty} (hheader : Braceless header)
    (hclose : Text.bracesOf close = ['\x7d']) (hbody : body.IsBalanced) :
    (block header close body).IsBalanced := by
  have hopen : Text.bracesOf (header ++ " \x7b") = ['\x7b'] := by
    rw [bracesOf_append, bracesOf_of_braceless hheader, bracesOf_literal rfl]
    rfl
  rw [IsBalanced, bracesOf, hopen, hclose]
  exact ((by decide : Nests 0 1 ['\x7b']).append (hbody.deeper 1)).append (by decide)

theorem isBalanced_braces {header : String} {body : List (Code Empty)} (hheader : Braceless header)
    (hbody : ∀ code ∈ body, code.IsBalanced) : (braces header body).IsBalanced :=
  (isBalanced_all hbody).block hheader rfl

end Combining

theorem IsBalanced.nests_render {code : Code Empty} {indent : String} (h : code.IsBalanced)
    (hindent : Braceless indent) : Nests 0 0 (Text.bracesOf (code.render indent)) := by
  rw [show code.render indent = code.written indent 0 from rfl, bracesOf_written hindent]
  exact h

end Code

end WireCodecs
