/-! Cutting texts at a character, at line ends and after a known start, and putting pieces together
again. -/

namespace WireCodecs.Text

/-- What follows `start`, if the text starts with it. -/
def afterStart? : (start text : List Char) → Option (List Char)
  | [], text => some text
  | _ :: _, [] => none
  | s :: start, c :: text => if s = c then afterStart? start text else none

theorem afterStart?_eq_some_iff {start text rest : List Char} :
    afterStart? start text = some rest ↔ text = start ++ rest := by
  induction start generalizing text with
  | nil => simp [afterStart?]
  | cons s start ih =>
    cases text with
    | nil => simp [afterStart?]
    | cons c text =>
      by_cases h : s = c
      · simp [afterStart?, h, ih]
      · simp [afterStart?, h, Ne.symm h]

/-- The pieces of a text between the occurrences of `sep`; always at least one. -/
def splitChars (sep : Char) : List Char → List (List Char)
  | [] => [[]]
  | c :: rest =>
    if c = sep then [] :: splitChars sep rest
    else
      match splitChars sep rest with
      | [] => [[c]]
      | piece :: pieces => (c :: piece) :: pieces

theorem splitChars_ne_nil (sep : Char) (text : List Char) : splitChars sep text ≠ [] := by
  cases text with
  | nil => simp [splitChars]
  | cons c rest =>
    simp only [splitChars]
    split
    · simp
    · split <;> simp

/-- Cutting loses nothing: with the separator put back before each piece, the text is whole. -/
theorem flatten_splitChars (sep : Char) (text : List Char) :
    ((splitChars sep text).map (sep :: ·)).flatten = sep :: text := by
  induction text with
  | nil => rfl
  | cons c rest ih =>
    obtain ⟨piece, pieces, h⟩ := List.exists_cons_of_ne_nil (splitChars_ne_nil sep rest)
    simp only [h, List.map_cons, List.flatten_cons, List.cons_append, List.cons.injEq,
      true_and] at ih
    by_cases hc : c = sep <;> simp [splitChars, hc, h, ih]

/-- No separator is left in a piece. -/
theorem not_mem_of_mem_splitChars {sep : Char} {text piece : List Char}
    (h : piece ∈ splitChars sep text) : sep ∉ piece := by
  induction text generalizing piece with
  | nil => simp_all [splitChars]
  | cons c rest ih =>
    obtain ⟨first, pieces, hr⟩ := List.exists_cons_of_ne_nil (splitChars_ne_nil sep rest)
    have hfirst : sep ∉ first := ih (by simp [hr])
    have hrest : ∀ p ∈ pieces, sep ∉ p := fun p hp => ih (by simp [hr, hp])
    by_cases hc : c = sep
    · simp only [splitChars, hc, hr, if_pos, List.mem_cons] at h
      rcases h with rfl | rfl | h
      · simp
      · exact hfirst
      · exact hrest piece h
    · simp only [splitChars, hc, hr, if_false, List.mem_cons] at h
      rcases h with rfl | h
      · simp [hfirst, Ne.symm hc]
      · exact hrest piece h

/-- The pieces of a text between the occurrences of `sep`. -/
def splitOn (sep : Char) (text : String) : List String :=
  (splitChars sep text.toList).map String.ofList

/-- A carriage return at the end of a line belongs to the line break. -/
def dropReturn (line : List Char) : List Char :=
  if line.getLast? = some '\r' then line.dropLast else line

/-- The lines of a text. A line feed ends a line, with the carriage return before it if there is
one; what follows the last line feed is a line of its own, unless it is empty. -/
def lineChars (text : List Char) : List (List Char) :=
  let pieces := splitChars '\n' text
  let ended := pieces.dropLast.map dropReturn
  match pieces.getLast? with
  | some [] | none => ended
  | some last => ended ++ [last]

def lines (text : String) : List String := (lineChars text.toList).map String.ofList

/-- The pieces with `sep` between each two. -/
def joinWith (sep : String) : List String → String
  | [] => ""
  | [piece] => piece
  | piece :: pieces => piece ++ sep ++ joinWith sep pieces

end WireCodecs.Text
