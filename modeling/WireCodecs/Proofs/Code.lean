import WireCodecs.Proofs.Code.Trace

/-! What code writes. Writing leaves the depth of a page and only adds to its text, and what it adds
depends on nothing but the depth. So code that cannot fail has a text of its own at each depth; the
text of a whole is put together from the texts of its parts, and each part stands in it in one
piece. -/

namespace WireCodecs

namespace Code

section Writing

variable {ε : Type} (indent : String)

/-- The text that a piece of code adds at a depth. -/
def written (depth : Nat) (code : Code ε) : String := (code.write indent ⟨depth, ""⟩).1.text

/-- The error that ends the writing of a piece of code. -/
def failure? (depth : Nat) (code : Code ε) : Option ε := (code.write indent ⟨depth, ""⟩).2

/-- The lines that a piece of code writes. -/
def writtenLines (depth : Nat) (code : Code ε) : List String :=
  Event.pageLines indent (Event.beforeFailure (code.trace depth))

theorem written_eq_textOf (depth : Nat) (code : Code ε) :
    code.written indent depth = Event.textOf indent (Event.beforeFailure (code.trace depth)) := by
  rw [written, write_eq_trace]
  exact String.empty_append

theorem written_eq_endLines (depth : Nat) (code : Code ε) :
    code.written indent depth = Text.endLines (code.writtenLines indent depth) := by
  rw [written_eq_textOf, Event.textOf_eq_endLines, writtenLines]

/-- The depth is restored, also behind an error, and nothing that is on the page matters. -/
theorem write_eq (code : Code ε) (page : Page) :
    code.write indent page =
      (⟨page.depth, page.text ++ code.written indent page.depth⟩,
        code.failure? indent page.depth) := by
  rw [write_eq_trace, written_eq_textOf, failure?, write_eq_trace]

end Writing

section Text

variable {indent : String} {depth : Nat}

theorem firstError?_trace (code : Code Empty) : Event.firstError? (code.trace depth) = none := by
  cases h : Event.firstError? (code.trace depth) with
  | none => rfl
  | some error => exact error.elim

/-- Code without failures writes all of its text. -/
theorem written_eq_textOf_trace (code : Code Empty) :
    code.written indent depth = Event.textOf indent (code.trace depth) := by
  rw [written_eq_textOf, Event.beforeFailure_of_none (firstError?_trace code)]

theorem writtenLines_eq_pageLines (code : Code Empty) :
    code.writtenLines indent depth = Event.pageLines indent (code.trace depth) := by
  rw [writtenLines, Event.beforeFailure_of_none (firstError?_trace code)]

theorem render_eq_endLines (code : Code Empty) :
    code.render indent = Text.endLines (code.writtenLines indent 0) :=
  written_eq_endLines indent 0 code

end Text

/-- One piece of code stands in another as one of its parts. -/
inductive PartOf {ε : Type} (part : Code ε) : Code ε → Prop where
  | whole : PartOf part part
  | first {first : Code ε} (second : Code ε) : PartOf part first → PartOf part (first ++ second)
  | second (first : Code ε) {second : Code ε} : PartOf part second → PartOf part (first ++ second)
  | indented {body : Code ε} : PartOf part body → PartOf part (indented body)
  | block (header close : String) {body : Code ε} :
      PartOf part body → PartOf part (block header close body)

namespace PartOf

variable {ε : Type} {part code : Code ε}

theorem trans {whole : Code ε} (hpart : PartOf part code) (hcode : PartOf code whole) :
    PartOf part whole := by
  induction hcode with
  | whole => exact hpart
  | first rest _ ih => exact .first rest ih
  | second before _ ih => exact .second before ih
  | indented _ ih => exact .indented ih
  | block header close _ ih => exact .block header close ih

theorem all {codes : List (Code ε)} (h : PartOf part code) (hmem : code ∈ codes) :
    PartOf part (all codes) := by
  induction codes with
  | nil => cases hmem
  | cons head rest ih =>
    cases hmem with
    | head => exact .first (Code.all rest) h
    | tail _ hrest => exact .second head (ih hrest)

theorem item {codes : List (Code ε)} (index : Nat) (hcode : codes[index]? = some code)
    (h : PartOf part code) : PartOf part (Code.all codes) :=
  h.all (List.mem_of_getElem? hcode)

theorem braces {header : String} {body : List (Code ε)} (index : Nat)
    (hcode : body[index]? = some code) (h : PartOf part code) :
    PartOf part (Code.braces header body) :=
  .block header "\x7d" (item index hcode h)

end PartOf

section Blocks

variable {ε : Type}

/-- The headers of the blocks that no other block is around. -/
def blocks : Code ε → List String
  | seq first second => first.blocks ++ second.blocks
  | indented body => body.blocks
  | block header _ _ => [header]
  | _ => []

@[simp] theorem blocks_append (first second : Code ε) :
    (first ++ second).blocks = first.blocks ++ second.blocks :=
  rfl

@[simp] theorem blocks_all (codes : List (Code ε)) : (all codes).blocks = codes.flatMap blocks := by
  induction codes with
  | nil => rfl
  | cons code codes ih => rw [all, blocks_append, ih, List.flatMap_cons]

end Blocks

section Places

variable (indent : String)

/-- The text has the lines of the code in it, at some depth and one after the other. -/
def InText (text : String) (code : Code Empty) : Prop :=
  ∃ front depth back, text = Text.endLines (front ++ code.writtenLines indent depth ++ back)

/-- The text has a block with this header in it, and the code is all that is in the block. -/
def InBlock (text header : String) (code : Code Empty) : Prop :=
  InText indent text (block header "\x7d" code)

variable {indent}

theorem render_eq_of_trace {first second : Code Empty} (h : first.trace 0 = second.trace 0) :
    first.render indent = second.render indent := by
  rw [render_eq_endLines, render_eq_endLines, writtenLines_eq_pageLines,
    writtenLines_eq_pageLines, h]

theorem PartOf.exists_trace {ε : Type} {part code : Code ε} (h : PartOf part code) (depth : Nat) :
    ∃ front inner back, code.trace depth = front ++ part.trace inner ++ back := by
  induction h generalizing depth with
  | whole => exact ⟨[], depth, [], by simp⟩
  | first rest _ ih =>
    obtain ⟨front, inner, back, heq⟩ := ih depth
    exact ⟨front, inner, back ++ rest.trace depth, by simp [heq]⟩
  | second start _ ih =>
    obtain ⟨front, inner, back, heq⟩ := ih depth
    exact ⟨start.trace depth ++ front, inner, back, by simp [heq]⟩
  | indented _ ih => exact ih (depth + 1)
  | block header close _ ih =>
    obtain ⟨front, inner, back, heq⟩ := ih (depth + 1)
    exact ⟨Event.ofLines depth (header ++ " \x7b") ++ front, inner,
      back ++ Event.ofLines depth close, by simp [trace, heq]⟩

variable {part code : Code Empty}

theorem PartOf.inText (h : PartOf part code) : InText indent (code.render indent) part := by
  obtain ⟨front, inner, back, heq⟩ := h.exists_trace 0
  refine ⟨Event.pageLines indent front, inner, Event.pageLines indent back, ?_⟩
  rw [render_eq_endLines, writtenLines_eq_pageLines, writtenLines_eq_pageLines, heq,
    Event.pageLines_append, Event.pageLines_append]

/-- The body of a block is told up to how its tree is put together. -/
theorem PartOf.inBlock {block : Code Empty} {header : String} {body : List (Code Empty)}
    (h : PartOf block code) (hblock : block = Code.braces header body)
    (hbody : ∀ depth, (Code.all body).trace depth = part.trace depth) :
    InBlock indent (code.render indent) header part := by
  obtain ⟨front, depth, back, heq⟩ := @PartOf.inText indent _ _ h
  refine ⟨front, depth, back, ?_⟩
  rw [heq, hblock, writtenLines_eq_pageLines, writtenLines_eq_pageLines, Code.braces, trace, trace,
    hbody]

end Places

end Code

end WireCodecs
