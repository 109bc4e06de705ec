import Mathlib.Data.List.Induction
import WireCodecs.Text.Lines

/-! Cutting a text at a character and putting the pieces together again. -/

namespace WireCodecs.Text

theorem splitChars_of_notMem {sep : Char} {text : List Char} (h : sep ∉ text) :
    splitChars sep text = [text] := by
  induction text with
  | nil => rfl
  | cons c rest ih =>
    rw [List.mem_cons, not_or] at h
    rw [splitChars, if_neg (Ne.symm h.1), ih h.2]

/-- A separator between two texts keeps their pieces apart. -/
theorem splitChars_append_cons (sep : Char) (text rest : List Char) :
    splitChars sep (text ++ sep :: rest) = splitChars sep text ++ splitChars sep rest := by
  induction text with
  | nil => simp [splitChars]
  | cons c text ih =>
    obtain ⟨piece, pieces, hr⟩ := List.exists_cons_of_ne_nil (splitChars_ne_nil sep text)
    by_cases hc : c = sep <;> simp [splitChars, hc, ih, hr]

/-- What follows the last separator is the last piece. -/
theorem splitChars_append {sep : Char} (text : List Char) {last : List Char} (h : sep ∉ last) :
    splitChars sep (text ++ sep :: last) = splitChars sep text ++ [last] := by
  rw [splitChars_append_cons, splitChars_of_notMem h]

/-- A text without separators behind another one belongs to its last piece. -/
theorem splitChars_append_of_notMem (sep : Char) (text : List Char) :
    ∃ pieces piece, splitChars sep text = pieces ++ [piece] ∧
      ∀ last, sep ∉ last → splitChars sep (text ++ last) = pieces ++ [piece ++ last] := by
  induction text with
  | nil => exact ⟨[], [], rfl, fun last h => splitChars_of_notMem h⟩
  | cons c text ih =>
    obtain ⟨pieces, piece, htext, hlast⟩ := ih
    by_cases hc : c = sep
    · refine ⟨[] :: pieces, piece, by simp [splitChars, hc, htext], fun last h => ?_⟩
      simp [splitChars, hc, hlast last h]
    · cases pieces with
      | nil =>
        refine ⟨[], c :: piece, by simp [splitChars, hc, htext], fun last h => ?_⟩
        simp [splitChars, hc, hlast last h]
      | cons first pieces =>
        refine ⟨(c :: first) :: pieces, piece, by simp [splitChars, hc, htext], fun last h => ?_⟩
        simp [splitChars, hc, hlast last h]

/-- Cutting loses no other character and adds none. -/
theorem exists_mem_splitChars_iff {sep c : Char} (h : c ≠ sep) (text : List Char) :
    (∃ piece ∈ splitChars sep text, c ∈ piece) ↔ c ∈ text := by
  have hmem : c ∈ ((splitChars sep text).map (sep :: ·)).flatten ↔ c ∈ sep :: text := by
    rw [flatten_splitChars]
  rw [← List.flatMap_def, List.mem_flatMap] at hmem
  simpa [h] using hmem

theorem subset_of_mem_splitChars {sep : Char} {text piece : List Char}
    (h : piece ∈ splitChars sep text) : piece ⊆ text := by
  intro c hc
  have hne : c ≠ sep := fun heq => not_mem_of_mem_splitChars h (heq ▸ hc)
  exact (exists_mem_splitChars_iff hne text).mp ⟨piece, h, hc⟩

/-- A line is a piece between line feeds, or all of one but a carriage return. -/
theorem exists_mem_splitChars_of_mem_lineChars {text line : List Char}
    (h : line ∈ lineChars text) : ∃ piece ∈ splitChars '\n' text, line ⊆ piece := by
  have hreturn (piece : List Char) : dropReturn piece ⊆ piece := by
    unfold dropReturn
    split
    · exact List.dropLast_subset piece
    · exact List.Subset.refl piece
  have hended : ∀ line ∈ (splitChars '\n' text).dropLast.map dropReturn,
      ∃ piece ∈ splitChars '\n' text, line ⊆ piece := by
    refine List.forall_mem_map.mpr fun piece hpiece => ?_
    exact ⟨piece, List.dropLast_subset _ hpiece, hreturn piece⟩
  rw [lineChars] at h
  split at h
  · exact hended line h
  · exact hended line h
  · next hlast =>
    rcases List.mem_append.mp h with h | h
    · exact hended line h
    · rw [List.mem_singleton.mp h]
      exact ⟨_, List.mem_of_getLast? hlast, List.Subset.refl _⟩

theorem subset_of_mem_lineChars {text line : List Char} (h : line ∈ lineChars text) :
    line ⊆ text := by
  obtain ⟨piece, hpiece, hsubset⟩ := exists_mem_splitChars_of_mem_lineChars h
  exact List.Subset.trans hsubset (subset_of_mem_splitChars hpiece)

/-- No line has a line feed in it. -/
theorem newline_notMem_of_mem_lines {text line : String} (h : line ∈ lines text) :
    '\n' ∉ line.toList := by
  obtain ⟨chars, hchars, rfl⟩ := List.mem_map.mp h
  obtain ⟨piece, hpiece, hsubset⟩ := exists_mem_splitChars_of_mem_lineChars hchars
  rw [String.toList_ofList]
  exact fun hmem => not_mem_of_mem_splitChars hpiece (hsubset hmem)

theorem joinWith_cons {glue piece : String} {pieces : List String} (h : pieces ≠ []) :
    joinWith glue (piece :: pieces) = piece ++ glue ++ joinWith glue pieces := by
  cases pieces with
  | nil => exact absurd rfl h
  | cons next pieces => rfl

theorem joinWith_splitOn (sep : Char) (text : String) :
    joinWith (String.ofList [sep]) (splitOn sep text) = text := by
  suffices h : ∀ chars : List Char, joinWith (String.ofList [sep])
      ((splitChars sep chars).map String.ofList) = String.ofList chars by
    rw [splitOn, h, String.ofList_toList]
  intro chars
  induction chars with
  | nil => rfl
  | cons c rest ih =>
    obtain ⟨piece, pieces, hr⟩ := List.exists_cons_of_ne_nil (splitChars_ne_nil sep rest)
    by_cases hc : c = sep
    · rw [splitChars, if_pos hc, List.map_cons, joinWith_cons (by simp [hr]), ih, hc]
      simp
    · simp only [splitChars, if_neg hc, hr, List.map_cons, String.ofList_cons] at ih ⊢
      by_cases hp : pieces = []
      · subst hp
        exact congrArg (String.singleton c ++ ·) ih
      · have hp' : pieces.map String.ofList ≠ [] := by simpa using hp
        rw [joinWith_cons hp'] at ih ⊢
        rw [← ih]
        simp only [String.append_assoc]

/-- Pieces without separators are found again where they have been joined. -/
theorem splitOn_joinWith {sep : Char} {pieces : List String} (hne : pieces ≠ [])
    (h : ∀ piece ∈ pieces, sep ∉ piece.toList) :
    splitOn sep (joinWith (String.ofList [sep]) pieces) = pieces := by
  induction pieces with
  | nil => exact absurd rfl hne
  | cons piece pieces ih =>
    rw [List.forall_mem_cons] at h
    by_cases hp : pieces = []
    · subst hp
      rw [joinWith, splitOn, splitChars_of_notMem h.1, List.map_singleton, String.ofList_toList]
    · have hchars : (joinWith (String.ofList [sep]) (piece :: pieces)).toList =
          piece.toList ++ sep :: (joinWith (String.ofList [sep]) pieces).toList := by
        simp [joinWith_cons hp]
      rw [splitOn, hchars, splitChars_append_cons, splitChars_of_notMem h.1, List.map_append,
        ← splitOn, ih hp h.2]
      simp

/-- Lines that are ended by line feeds. -/
def endLines (lines : List String) : String := String.join (lines.map (· ++ "\n"))

theorem joinWith_append_empty (lines : List String) :
    joinWith "\n" (lines ++ [""]) = endLines lines := by
  induction lines with
  | nil => rfl
  | cons line lines ih =>
    rw [List.cons_append, joinWith_cons (by simp), ih]
    simp [endLines]

theorem splitOn_endLines {lines : List String} (h : ∀ line ∈ lines, '\n' ∉ line.toList) :
    splitOn '\n' (endLines lines) = lines ++ [""] := by
  rw [← joinWith_append_empty]
  refine splitOn_joinWith (by simp) fun line hline => ?_
  rcases List.mem_append.mp hline with hline | hline
  · exact h line hline
  · rw [List.mem_singleton.mp hline]
    exact List.not_mem_nil

/-- Replacing a piece changes the length by the difference of the two pieces. -/
theorem length_joinWith_replace (sep before after : String) (leading rest : List String) :
    (joinWith sep (leading ++ before :: rest)).length + after.length =
      (joinWith sep (leading ++ after :: rest)).length + before.length := by
  induction leading with
  | nil =>
    cases rest with
    | nil => exact Nat.add_comm _ _
    | cons piece more =>
      have hne : piece :: more ≠ [] := List.cons_ne_nil piece more
      rw [List.nil_append, List.nil_append, joinWith_cons hne, joinWith_cons hne]
      simp only [String.length_append]
      omega
  | cons first leading ih =>
    have hne : ∀ piece, leading ++ piece :: rest ≠ [] := by simp
    rw [List.cons_append, List.cons_append, joinWith_cons (hne before), joinWith_cons (hne after)]
    simp only [String.length_append]
    omega

/-- Text that stays the same when it is moved by a character has no other character. -/
theorem eq_of_append_eq_append_singleton {α : Type} {c : α} {front back body : List α}
    (h : front ++ body = back ++ body ++ [c]) : ∀ a ∈ body, a = c := by
  induction body using List.reverseRecOn with
  | nil => exact fun _ hmem => absurd hmem List.not_mem_nil
  | append_singleton body b ih =>
    rw [← List.append_assoc] at h
    obtain ⟨hbody, hlast⟩ := List.append_inj' h rfl
    obtain rfl : b = c := List.singleton_inj.mp hlast
    rw [← List.append_assoc] at hbody
    intro a hmem
    rcases List.mem_append.mp hmem with hmem | hmem
    · exact ih hbody a hmem
    · exact List.mem_singleton.mp hmem

end WireCodecs.Text
