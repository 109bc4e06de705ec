import WireCodecs.Code
import WireCodecs.Proofs.Text.Lines

/-! The trace of code: the lines it puts on a page, each with its depth, and its failures, in the
order in which they are met and as if no failure ended the writing. What writing does is read off
the trace: it puts down the lines in front of the first failure and ends with that failure. -/

namespace WireCodecs

open Text

namespace Page

/-- A line of a comment as it is written. -/
def commentLine (lead line : String) : String :=
  if isBlankText line then trimEnd lead else lead ++ line

variable (indent : String) (depth : Nat)

/-- A line on the page, without its line feed. -/
def lineText (piece : String) : String :=
  if isBlankText piece then "" else indentation indent depth ++ piece

/-- The lines of a text on the page. -/
def linesText (text : String) : String :=
  String.join ((splitOn '\n' text).map (lineText indent depth · ++ "\n"))

/-- A step that adds its text to every page adds the texts of several items one after the other. -/
theorem foldl_eq_join {α : Type} {step : Page → α → Page} (added : Nat → α → String)
    (h : ∀ page item, step page item = ⟨page.depth, page.text ++ added page.depth item⟩)
    (items : List α) (page : Page) :
    items.foldl step page =
      ⟨page.depth, page.text ++ String.join (items.map (added page.depth))⟩ := by
  induction items generalizing page with
  | nil => simp
  | cons item items ih =>
    rw [List.foldl_cons, ih, h]
    simp [String.append_assoc]

theorem addPiece_eq (page : Page) (piece : String) :
    page.addPiece indent piece =
      ⟨page.depth, page.text ++ (lineText indent page.depth piece ++ "\n")⟩ := by
  unfold addPiece lineText
  split <;> simp [String.append_assoc]

theorem addLine_eq (page : Page) (text : String) :
    page.addLine indent text = ⟨page.depth, page.text ++ linesText indent page.depth text⟩ :=
  foldl_eq_join (fun depth piece => lineText indent depth piece ++ "\n") (addPiece_eq indent) _ page

theorem addComment_eq (page : Page) (lead text : String) :
    page.addComment indent lead text = ⟨page.depth, page.text ++
      String.join ((lines text).map fun line =>
        linesText indent page.depth (commentLine lead line))⟩ :=
  foldl_eq_join (fun depth line => linesText indent depth (commentLine lead line))
    (fun page _ => addLine_eq indent page _) _ page

end Page

/-- What is met where code is gone through. -/
inductive Event (ε : Type) where
  | line (depth : Nat) (piece : String)
  | failure (error : ε)

namespace Event

variable {ε : Type}

def error? : Event ε → Option ε
  | line _ _ => none
  | failure error => some error

def text (indent : String) : Event ε → String
  | line depth piece => Page.lineText indent depth piece ++ "\n"
  | failure _ => ""

/-- The lines of a text, all at one depth. -/
def ofLines (depth : Nat) (text : String) : List (Event ε) :=
  (splitOn '\n' text).map (line depth)

section Traces

variable (indent : String) (trace first second : List (Event ε))

def textOf : String := String.join (trace.map (text indent))

def firstError? : Option ε := trace.findSome? error?

/-- What is met before the first failure. -/
def beforeFailure : List (Event ε) := trace.takeWhile (·.error?.isNone)

@[simp] theorem textOf_append :
    textOf indent (first ++ second) = textOf indent first ++ textOf indent second := by
  simp [textOf]

@[simp] theorem textOf_ofLines (depth : Nat) (text : String) :
    textOf indent (ofLines depth text : List (Event ε)) = Page.linesText indent depth text := by
  simp [textOf, ofLines, Page.linesText, Function.comp_def, Event.text]

theorem textOf_flatMap {α : Type} (events : α → List (Event ε)) (items : List α) :
    textOf indent (items.flatMap events) =
      String.join (items.map fun item => textOf indent (events item)) := by
  induction items with
  | nil => rfl
  | cons item items ih => simp [ih]

/-- A line as it is on the page. -/
def line? : Event ε → Option String
  | line depth piece => some (Page.lineText indent depth piece)
  | failure _ => none

def pageLines : List String := trace.filterMap (line? indent)

@[simp] theorem pageLines_append :
    pageLines indent (first ++ second) = pageLines indent first ++ pageLines indent second :=
  List.filterMap_append

theorem pageLines_flatMap {α : Type} (events : α → List (Event ε)) (items : List α) :
    pageLines indent (items.flatMap events) =
      items.flatMap fun item => pageLines indent (events item) :=
  List.filterMap_flatMap

theorem textOf_eq_endLines : textOf indent trace = endLines (pageLines indent trace) := by
  induction trace with
  | nil => rfl
  | cons event trace ih =>
    have hcons : textOf indent (event :: trace) = text indent event ++ textOf indent trace := by
      simp [textOf]
    rw [hcons, ih]
    cases event with
    | line depth piece => simp [text, pageLines, line?, endLines]
    | failure error => exact String.empty_append

theorem firstError?_append :
    firstError? (first ++ second) = (firstError? first).or (firstError? second) :=
  List.findSome?_append

@[simp] theorem firstError?_ofLines (depth : Nat) (text : String) :
    firstError? (ofLines depth text : List (Event ε)) = none := by
  simp [firstError?, ofLines, error?]

variable {trace first}

theorem beforeFailure_append_of_none (h : firstError? first = none) :
    beforeFailure (first ++ second) = first ++ beforeFailure second := by
  refine List.takeWhile_append_of_pos fun event hevent => ?_
  rw [List.findSome?_eq_none_iff.mp h event hevent, Option.isNone_none]

theorem beforeFailure_of_none (h : firstError? trace = none) : beforeFailure trace = trace := by
  simpa [beforeFailure] using beforeFailure_append_of_none [] h

theorem beforeFailure_append_of_some {error : ε} (h : firstError? first = some error) :
    beforeFailure (first ++ second) = beforeFailure first := by
  obtain ⟨front, event, back, rfl, hevent, hfront⟩ := List.findSome?_eq_some_iff.mp h
  have hnone : firstError? front = none := List.findSome?_eq_none_iff.mpr hfront
  have hstop (rest : List (Event ε)) : beforeFailure (event :: rest) = [] := by
    simp [beforeFailure, hevent]
  rw [List.append_assoc, beforeFailure_append_of_none _ hnone, beforeFailure_append_of_none _ hnone,
    List.cons_append, hstop, hstop]

end Traces

end Event

namespace Code

variable {ε : Type} (indent : String)

def trace (depth : Nat) : Code ε → List (Event ε)
  | empty => []
  | seq first second => first.trace depth ++ second.trace depth
  | line text => Event.ofLines depth text
  | blank => [.line depth ""]
  | comment lead text =>
    (lines text).flatMap fun line => Event.ofLines depth (Page.commentLine lead line)
  | indented body => body.trace (depth + 1)
  | block header close body =>
    Event.ofLines depth (header ++ " \x7b") ++ body.trace (depth + 1) ++ Event.ofLines depth close
  | fail error => [.failure error]

@[simp] theorem trace_append (depth : Nat) (first second : Code ε) :
    (first ++ second).trace depth = first.trace depth ++ second.trace depth :=
  rfl

@[simp] theorem trace_all (depth : Nat) (codes : List (Code ε)) :
    (all codes).trace depth = codes.flatMap (·.trace depth) := by
  induction codes with
  | nil => rfl
  | cons code codes ih => rw [all, trace_append, ih, List.flatMap_cons]

/-- Code that is put together apart is met like the rest. -/
theorem trace_all_nested (front inner back : List (Code ε)) (depth : Nat) :
    (all (front ++ all inner :: back)).trace depth =
      (all (front ++ inner ++ back)).trace depth := by
  simp

open Event

@[simp] theorem firstError?_trace_comment (depth : Nat) (lead text : String) :
    firstError? ((comment lead text : Code ε).trace depth) = none := by
  refine List.findSome?_eq_none_iff.mpr fun event hevent => ?_
  obtain ⟨line, -, hline⟩ := List.mem_flatMap.mp hevent
  exact List.findSome?_eq_none_iff.mp (firstError?_ofLines depth _) event hline

/-- The depth is restored, also behind an error, and nothing that is on the page matters. -/
theorem write_eq_trace (code : Code ε) (page : Page) :
    code.write indent page =
      (⟨page.depth, page.text ++ textOf indent (beforeFailure (code.trace page.depth))⟩,
        firstError? (code.trace page.depth)) := by
  induction code generalizing page with
  | empty => simp [write, trace, textOf, beforeFailure, firstError?]
  | line text =>
    rw [write, trace, beforeFailure_of_none (firstError?_ofLines _ _), Page.addLine_eq]
    simp
  | blank =>
    simp [write, trace, beforeFailure, firstError?, textOf, Event.text, Event.error?,
      Page.lineText, isBlankText]
  | comment lead text =>
    have hnone : firstError? ((comment lead text : Code ε).trace page.depth) = none :=
      firstError?_trace_comment page.depth lead text
    rw [write, beforeFailure_of_none hnone, hnone, trace, Page.addComment_eq, textOf_flatMap]
    simp
  | fail error => simp [write, trace, textOf, beforeFailure, firstError?, Event.error?]
  | seq first second ihFirst ihSecond =>
    rw [write, trace, ihFirst, firstError?_append]
    cases h : firstError? (first.trace page.depth) with
    | some error => simp [beforeFailure_append_of_some _ h]
    | none =>
      simp [beforeFailure_append_of_none _ h, beforeFailure_of_none h, ihSecond,
        String.append_assoc]
  | indented body ih =>
    rw [write, trace, ih]
    simp
  | block header close body ih =>
    have hopen : firstError? (ofLines page.depth (header ++ " \x7b") : List (Event ε)) = none :=
      firstError?_ofLines page.depth _
    rw [write, trace, List.append_assoc, beforeFailure_append_of_none _ hopen, firstError?_append,
      firstError?_append, hopen, firstError?_ofLines, Page.addLine_eq, ih]
    cases h : firstError? (body.trace (page.depth + 1)) with
    | some error => simp [beforeFailure_append_of_some _ h, String.append_assoc]
    | none =>
      simp [beforeFailure_append_of_none _ h, beforeFailure_of_none, h, Page.addLine_eq,
        String.append_assoc]

end Code

end WireCodecs
