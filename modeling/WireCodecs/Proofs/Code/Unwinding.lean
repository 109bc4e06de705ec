import WireCodecs.Proofs.Code

/-! How a failure ends the writing of code. Of all failures in the code the first one that is met is
the outcome. What stands on the page by then is what was met before it: the steps in front of it and
the headers of the blocks it stands in, but no closing line of these and nothing that comes later.
The depth is what it was before, whatever the outcome. -/

namespace WireCodecs.Code

open Event

variable {ε : Type}

/-- A part of code and what is around it: the depth at which it is met, and what is met in front of
it and behind it, if the code as a whole is met at `depth`. -/
inductive StandsIn (part : Code ε) (inner : Nat) :
    (depth : Nat) → (front back : List (Event ε)) → (code : Code ε) → Prop
  | whole : StandsIn part inner inner [] [] part
  | first {depth : Nat} {front back : List (Event ε)} {first : Code ε} (second : Code ε) :
      StandsIn part inner depth front back first →
      StandsIn part inner depth front (back ++ second.trace depth) (first ++ second)
  | second {depth : Nat} {front back : List (Event ε)} (first : Code ε) {second : Code ε} :
      StandsIn part inner depth front back second →
      StandsIn part inner depth (first.trace depth ++ front) back (first ++ second)
  | indented {depth : Nat} {front back : List (Event ε)} {body : Code ε} :
      StandsIn part inner (depth + 1) front back body →
      StandsIn part inner depth front back (indented body)
  /-- The header of a block is met in front of its body, and its closing line behind it. -/
  | block {depth : Nat} {front back : List (Event ε)} (header close : String) {body : Code ε} :
      StandsIn part inner (depth + 1) front back body →
      StandsIn part inner depth (ofLines depth (header ++ " \x7b") ++ front)
        (back ++ ofLines depth close) (block header close body)

namespace StandsIn

variable {part code : Code ε} {inner depth : Nat} {front back : List (Event ε)}

theorem trace_eq (h : StandsIn part inner depth front back code) :
    code.trace depth = front ++ part.trace inner ++ back := by
  induction h with
  | whole => simp
  | first second _ ih =>
    show trace _ (.seq _ second) = _
    rw [trace, ih]
    simp only [List.append_assoc]
  | second first _ ih =>
    show trace _ (.seq first _) = _
    rw [trace, ih]
    simp only [List.append_assoc]
  | indented _ ih => exact ih
  | block header close _ ih =>
    rw [trace, ih]
    simp only [List.append_assoc]

theorem partOf (h : StandsIn part inner depth front back code) : PartOf part code := by
  induction h with
  | whole => exact .whole
  | first second _ ih => exact .first second ih
  | second first _ ih => exact .second first ih
  | indented _ ih => exact .indented ih
  | block header close _ ih => exact .block header close ih

end StandsIn

theorem PartOf.exists_standsIn {part code : Code ε} (h : PartOf part code) (depth : Nat) :
    ∃ inner front back, StandsIn part inner depth front back code := by
  induction h generalizing depth with
  | whole => exact ⟨depth, [], [], .whole⟩
  | first second _ ih =>
    obtain ⟨inner, front, back, h⟩ := ih depth
    exact ⟨inner, _, _, .first second h⟩
  | second first _ ih =>
    obtain ⟨inner, front, back, h⟩ := ih depth
    exact ⟨inner, _, _, .second first h⟩
  | indented _ ih =>
    obtain ⟨inner, front, back, h⟩ := ih (depth + 1)
    exact ⟨inner, _, _, .indented h⟩
  | block header close _ ih =>
    obtain ⟨inner, front, back, h⟩ := ih (depth + 1)
    exact ⟨inner, _, _, .block header close h⟩

section Failing

variable {code : Code ε} {inner depth : Nat} {front back : List (Event ε)} {error : ε}

theorem firstError?_of_standsIn (h : StandsIn (.fail error) inner depth front back code) :
    firstError? (code.trace depth) = (firstError? front).or (some error) := by
  rw [h.trace_eq, List.append_assoc, firstError?_append, trace]
  rfl

/-- The first failure in the trace is a failure in the code with none in front of it. -/
theorem exists_standsIn_of_firstError? (h : firstError? (code.trace depth) = some error) :
    ∃ inner front back, StandsIn (.fail error) inner depth front back code ∧
      firstError? front = none := by
  induction code generalizing depth with
  | empty => cases h
  | line text =>
    rw [trace, firstError?_ofLines] at h
    cases h
  | blank => cases h
  | comment lead text =>
    rw [firstError?_trace_comment] at h
    cases h
  | fail found =>
    obtain rfl : found = error := Option.some.inj h
    exact ⟨depth, [], [], .whole, rfl⟩
  | seq first second ihFirst ihSecond =>
    rw [trace, firstError?_append] at h
    cases hfirst : firstError? (first.trace depth) with
    | some found =>
      rw [hfirst, Option.some_or] at h
      obtain ⟨inner, front, back, hstands, hnone⟩ := ihFirst (hfirst.trans h)
      exact ⟨inner, _, _, .first second hstands, hnone⟩
    | none =>
      rw [hfirst, Option.none_or] at h
      obtain ⟨inner, front, back, hstands, hnone⟩ := ihSecond h
      refine ⟨inner, _, _, .second first hstands, ?_⟩
      rw [firstError?_append, hfirst, hnone, Option.none_or]
  | indented body ih =>
    obtain ⟨inner, front, back, hstands, hnone⟩ := ih h
    exact ⟨inner, _, _, .indented hstands, hnone⟩
  | block header close body ih =>
    rw [trace, firstError?_append, firstError?_append, firstError?_ofLines, firstError?_ofLines,
      Option.none_or, Option.or_none] at h
    obtain ⟨inner, front, back, hstands, hnone⟩ := ih h
    refine ⟨inner, _, _, .block header close hstands, ?_⟩
    rw [firstError?_append, firstError?_ofLines, hnone, Option.none_or]

theorem firstError?_trace_eq_some_iff : firstError? (code.trace depth) = some error ↔
    ∃ inner front back, StandsIn (.fail error) inner depth front back code ∧
      firstError? front = none := by
  refine ⟨exists_standsIn_of_firstError?, fun ⟨inner, front, back, hstands, hnone⟩ => ?_⟩
  rw [firstError?_of_standsIn hstands, hnone, Option.none_or]

theorem isSome_firstError?_trace_iff (code : Code ε) (depth : Nat) :
    (firstError? (code.trace depth)).isSome ↔ ∃ error, PartOf (.fail error) code := by
  constructor
  · intro h
    obtain ⟨error, hfirst⟩ := Option.isSome_iff_exists.mp h
    obtain ⟨_, _, _, hstands, -⟩ := exists_standsIn_of_firstError? hfirst
    exact ⟨error, hstands.partOf⟩
  · rintro ⟨error, hpart⟩
    obtain ⟨inner, front, back, hstands⟩ := hpart.exists_standsIn depth
    rw [firstError?_of_standsIn hstands, Option.isSome_or, Option.isSome_some, Bool.or_true]

theorem StandsIn.beforeFailure_eq (h : StandsIn (.fail error) inner depth front back code)
    (hnone : firstError? front = none) : beforeFailure (code.trace depth) = front := by
  have hstop : beforeFailure (.failure error :: back) = [] := rfl
  rw [h.trace_eq, trace, List.append_assoc, List.singleton_append,
    beforeFailure_append_of_none _ hnone, hstop, List.append_nil]

end Failing

/-- The writing of code on a page unwinds: the depth comes back, what was on the page stays, and the
first failure that is met is the outcome, if there is one. -/
structure Unwinds (indent : String) (code : Code ε) (page : Page) (outcome : Page × Option ε) :
    Prop where
  depth_eq : outcome.1.depth = page.depth
  appends : ∃ added, outcome.1.text = page.text ++ added
  fails_iff : outcome.2.isSome ↔ ∃ error, PartOf (.fail error) code
  /-- The error is that of the failure with no failure in front of it. -/
  error_iff : ∀ error, outcome.2 = some error ↔ ∃ inner front back,
    StandsIn (.fail error) inner page.depth front back code ∧ firstError? front = none
  /-- What is met in front of the first failure is written and nothing else. -/
  failed : ∀ error inner front back, StandsIn (.fail error) inner page.depth front back code →
    firstError? front = none → outcome.1.text = page.text ++ textOf indent front
  succeeded : outcome.2 = none →
    outcome.1.text = page.text ++ textOf indent (code.trace page.depth)
  /-- A block has its header and its closing line at one depth and its body one level deeper. -/
  encloses : outcome.2 = none → ∀ header close body inner front back,
    StandsIn (.block header close body) inner page.depth front back code →
      outcome.1.text = page.text ++ (textOf indent front ++
        (Page.linesText indent inner (header ++ " \x7b") ++
          textOf indent (body.trace (inner + 1)) ++ Page.linesText indent inner close) ++
        textOf indent back)

theorem write_unwinds (indent : String) (code : Code ε) (page : Page) :
    Unwinds indent code page (code.write indent page) := by
  rw [write_eq_trace]
  have hsucceeded (hnone : firstError? (code.trace page.depth) = none) :
      page.text ++ textOf indent (beforeFailure (code.trace page.depth)) =
        page.text ++ textOf indent (code.trace page.depth) := by
    rw [beforeFailure_of_none hnone]
  constructor
  case depth_eq => rfl
  case appends => exact ⟨_, rfl⟩
  case fails_iff => exact isSome_firstError?_trace_iff code page.depth
  case error_iff => exact fun error => firstError?_trace_eq_some_iff
  case failed =>
    intro error inner front back hstands hnone
    simp only [hstands.beforeFailure_eq hnone]
  case succeeded => exact hsucceeded
  case encloses =>
    intro hnone header close body inner front back hstands
    refine (hsucceeded hnone).trans ?_
    rw [hstands.trace_eq, textOf_append, textOf_append]
    simp only [trace, textOf_append, textOf_ofLines]

/-- A failure in two blocks, with a line in front of the inner block and a failure behind it. -/
def brokenBlocks : Code String :=
  .block "outer" "\x7d" <|
    .line "a" ++ (.block "inner" "\x7d;" (.fail "missing" ++ .line "b") ++ .fail "late")

theorem write_unwinds_nested :
    let outcome := brokenBlocks.write "  " ⟨1, "start\n"⟩
    outcome.1.depth = 1 ∧ outcome.2 = some "missing" ∧
      outcome.1.text = "start\n  outer \x7b\n    a\n    inner \x7b\n" := by
  have hunwinds := write_unwinds "  " brokenBlocks ⟨1, "start\n"⟩
  have hstands : StandsIn (.fail "missing") 3 1 _ _ brokenBlocks :=
    .block _ _ (.second _ (.first _ (.block _ _ (.first _ .whole))))
  refine ⟨hunwinds.depth_eq, (hunwinds.error_iff _).mpr ⟨3, _, _, hstands, rfl⟩, ?_⟩
  exact hunwinds.failed "missing" 3 _ _ hstands rfl

end WireCodecs.Code
