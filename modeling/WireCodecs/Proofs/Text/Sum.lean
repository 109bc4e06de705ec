import Mathlib
import WireCodecs.Proofs.Text.Lines
import WireCodecs.Text.Blank

/-! Texts that are sums. The terms stand between plus signs, with blanks around them that do not
matter; a term is a number, or the name of a constant. -/

namespace WireCodecs.Text

section Trim

theorem trim_ofList_append_blank {blank : Char} (h : isBlank blank = true) (text : List Char) :
    trim (String.ofList (text ++ [blank])) = trim (String.ofList text) := by
  simp only [trim, trimEndChars, trimStartChars, String.toList_ofList, List.dropWhile_append]
  cases hstart : text.dropWhile isBlank with
  | nil => simp [h]
  | cons c rest => simp [h]

theorem trim_ofList_cons_blank {blank : Char} (h : isBlank blank = true) (text : List Char) :
    trim (String.ofList (blank :: text)) = trim (String.ofList text) := by
  simp [trim, trimStartChars, h]

theorem trim_eq_self {text : String} (h : ∀ c ∈ text.toList, isBlank c = false) :
    trim text = text := by
  have hdrop : ∀ chars : List Char, (∀ c ∈ chars, isBlank c = false) →
      chars.dropWhile isBlank = chars := by
    intro chars hchars
    cases chars with
    | nil => rfl
    | cons c rest => exact List.dropWhile_cons_of_neg (by simp [hchars c List.mem_cons_self])
  rw [trim, trimStartChars, hdrop _ h, trimEndChars, hdrop _ (by simpa using h),
    List.reverse_reverse, String.ofList_toList]

end Trim

section Numerals

theorem isDigit_of_mem_toString {n : Nat} {c : Char} (h : c ∈ (toString n).toList) :
    c.isDigit = true := by
  change c ∈ n.repr.toList at h
  rw [Nat.toList_repr] at h
  exact Nat.isDigit_of_mem_toDigits (by decide) (by decide) h

theorem isBlank_of_isDigit {c : Char} (h : c.isDigit = true) : isBlank c = false := by
  have hrange : 48 ≤ c.toNat ∧ c.toNat ≤ 57 := by
    simpa [Char.isDigit, UInt32.le_iff_toNat_le] using h
  have houtside : ∀ range ∈ blankRanges, range.last < 48 ∨ 57 < range.first := by decide
  refine List.any_eq_false.mpr fun range hmem => ?_
  have hrange' := houtside range hmem
  simp only [CodeRange.contains, Bool.and_eq_true, decide_eq_true_eq, not_and]
  omega

theorem trim_toString (n : Nat) : trim (toString n) = toString n :=
  trim_eq_self fun _ h => isBlank_of_isDigit (isDigit_of_mem_toString h)

end Numerals

/-- The value of a term, where `constant` gives the values of the names. -/
def termValue (constant : String → Nat) (term : String) : Nat :=
  (trim term).toNat?.getD (constant (trim term))

/-- The value of a sum. -/
def sumValue (constant : String → Nat) (expression : String) : Nat :=
  ((splitOn '+' expression).map (termValue constant)).sum

theorem termValue_toString (constant : String → Nat) (n : Nat) :
    termValue constant (String.ofList (' ' :: (toString n).toList)) = n := by
  have hblank : isBlank ' ' = true := by decide
  have hnumber : (toString n).toNat? = some n := Nat.toNat?_repr n
  rw [termValue, trim_ofList_cons_blank hblank, String.ofList_toList, trim_toString, hnumber,
    Option.getD_some]

/-- A number that is put behind a text is added to its value, whatever the text is. -/
theorem sumValue_append (constant : String → Nat) (text : String) (n : Nat) :
    sumValue constant (text ++ " + " ++ toString n) = sumValue constant text + n := by
  have hblank : isBlank ' ' = true := by decide
  have hplus : '+' ∉ ' ' :: (toString n).toList := by
    rw [List.mem_cons, not_or]
    exact ⟨by decide, fun h => absurd (isDigit_of_mem_toString h) (by decide)⟩
  have hchars : (text ++ " + " ++ toString n).toList =
      (text.toList ++ [' ']) ++ '+' :: ' ' :: (toString n).toList := by
    simp
  obtain ⟨pieces, piece, htext, hlast⟩ := splitChars_append_of_notMem '+' text.toList
  have hterm : termValue constant (String.ofList (piece ++ [' '])) =
      termValue constant (String.ofList piece) := by
    rw [termValue, trim_ofList_append_blank hblank, termValue]
  rw [sumValue, sumValue, splitOn, splitOn, hchars, splitChars_append _ hplus,
    hlast [' '] (by decide), htext]
  simp only [List.map_append, List.map_cons, List.map_nil, List.sum_append, List.sum_singleton,
    hterm, termValue_toString]

end WireCodecs.Text
