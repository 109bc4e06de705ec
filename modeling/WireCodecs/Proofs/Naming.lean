import WireCodecs.Naming
import WireCodecs.Proofs.Text.Case
import WireCodecs.Proofs.Text.Lines

/-! The marks in cased names. Changing the case of the first letter keeps the marks of a name, the
snake forms add underscores to them, and the Pascal form drops the underscores and the parentheses.
So the capitalised and the Pascal form of a name agree exactly if it has no underscores and no
parentheses. The Pascal form starts with no lower-case letter of ASCII. -/

namespace WireCodecs.Naming

open Text

/-- What the Pascal form drops. -/
def droppedMarks : List Char := ['_', '(', ')']

variable {c : Char}

theorem isMark_of_mem_droppedMarks (h : c ∈ droppedMarks) : isMark c := by
  simp only [droppedMarks, List.mem_cons, List.not_mem_nil, or_false] at h
  rcases h with rfl | rfl | rfl <;> decide

theorem mem_capitalChars_iff (hc : isMark c) (name : List Char) :
    c ∈ capitalChars name ↔ c ∈ name := by
  cases name with
  | nil => rfl
  | cons first rest => rw [capitalChars, List.mem_append, mem_upperChars_iff hc, List.mem_cons]

theorem mem_capital_iff (hc : isMark c) (name : String) :
    c ∈ (capital name).toList ↔ c ∈ name.toList := by
  rw [capital, String.toList_ofList, mem_capitalChars_iff hc]

theorem mem_uncapital_iff (hc : isMark c) (name : String) :
    c ∈ (uncapital name).toList ↔ c ∈ name.toList := by
  rw [uncapital, String.toList_ofList]
  cases name.toList with
  | nil => rfl
  | cons first rest => rw [uncapitalChars, List.mem_append, mem_lowerChars_iff hc, List.mem_cons]

section Snake

theorem mem_upperSnakeAfter_iff (hc : isMark c) (hne : c ≠ '_') (previous : Char)
    (rest : List Char) : c ∈ upperSnakeAfter previous rest ↔ c ∈ rest := by
  induction rest generalizing previous with
  | nil => rfl
  | cons first rest ih =>
    rw [upperSnakeAfter]
    split <;> simp [hne, mem_upperChars_iff hc, ih]

/-- The snake forms keep the marks of a name, and underscores are the only ones they add. -/
theorem mem_upperSnake_iff (hc : isMark c) (hne : c ≠ '_') (name : String) :
    c ∈ (upperSnake name).toList ↔ c ∈ name.toList := by
  rw [upperSnake, String.toList_ofList]
  cases name.toList with
  | nil => rfl
  | cons first rest =>
    rw [upperSnakeChars, List.mem_append, mem_upperChars_iff hc, mem_upperSnakeAfter_iff hc hne,
      List.mem_cons]

theorem mem_snake_iff (hc : isMark c) (hne : c ≠ '_') (name : String) :
    c ∈ (snake name).toList ↔ c ∈ name.toList := by
  rw [snake, mem_lowercase_iff hc, mem_upperSnake_iff hc hne]

end Snake

theorem mem_pascal_iff (hc : isMark c) (name : String) :
    c ∈ (pascal name).toList ↔ c ∈ name.toList ∧ c ∉ droppedMarks := by
  simp only [pascal, String.toList_ofList, List.mem_flatMap, mem_capitalChars_iff hc]
  by_cases hdelimiter : c = '_'
  · subst hdelimiter
    simp only [droppedMarks, List.mem_cons, true_or, not_true, and_false, iff_false, not_exists,
      not_and]
    exact fun piece hpiece => not_mem_of_mem_splitChars hpiece
  · rw [exists_mem_splitChars_iff hdelimiter, List.mem_filter]
    simp [droppedMarks, isParenthesis, hdelimiter]

theorem isLower_head_pascal {name : String} (h : (pascal name).toList.head? = some c) :
    c.isLower = false := by
  rw [pascal, String.toList_ofList, List.head?_flatMap] at h
  obtain ⟨piece, -, hc⟩ := List.exists_of_findSome?_eq_some h
  cases piece with
  | nil => cases hc
  | cons first rest =>
    obtain ⟨head, tail, hupper⟩ := List.exists_cons_of_ne_nil (upperChars_ne_nil first)
    rw [capitalChars, hupper] at hc
    obtain rfl : head = c := Option.some.inj hc
    exact isLower_of_mem_upperChars (hupper ▸ List.mem_cons_self)

/-- No small letter of ASCII starts the word. -/
def isCapitalised (word : String) : Bool := word.toList.head?.all (!·.isLower)

theorem isCapitalised_append {first second : String} (hfirst : isCapitalised first)
    (hsecond : isCapitalised second) : isCapitalised (first ++ second) := by
  unfold isCapitalised at hfirst hsecond ⊢
  rw [String.toList_append, List.head?_append]
  cases hhead : first.toList.head? with
  | none => rwa [Option.none_or]
  | some c => rwa [hhead] at hfirst

theorem isCapitalised_capital (name : String) : isCapitalised (capital name) := by
  rw [isCapitalised, capital, String.toList_ofList]
  cases name.toList with
  | nil => rfl
  | cons first rest =>
    obtain ⟨head, tail, hupper⟩ := List.exists_cons_of_ne_nil (upperChars_ne_nil first)
    have hlower : head.isLower = false := isLower_of_mem_upperChars (hupper ▸ List.mem_cons_self)
    simp [capitalChars, hupper, hlower]

theorem isCapitalised_pascal (name : String) : isCapitalised (pascal name) := by
  unfold isCapitalised
  cases hhead : (pascal name).toList.head? with
  | none => rfl
  | some c => simp [isLower_head_pascal hhead]

/-- Whether a name has nothing in it that the Pascal form drops. -/
def IsPlain (name : String) : Prop := ∀ c ∈ name.toList, c ∉ droppedMarks

instance (name : String) : Decidable (IsPlain name) :=
  List.decidableBAll (fun c => c ∉ droppedMarks) name.toList

theorem capital_eq_pascal_iff (name : String) : capital name = pascal name ↔ IsPlain name := by
  constructor
  · intro h c hmem hdropped
    have hmark := isMark_of_mem_droppedMarks hdropped
    have hpascal : c ∈ (pascal name).toList := h ▸ (mem_capital_iff hmark name).mpr hmem
    exact ((mem_pascal_iff hmark name).mp hpascal).2 hdropped
  · intro h
    have hkept : name.toList.filter (!isParenthesis ·) = name.toList := by
      refine List.filter_eq_self.mpr fun c hmem => ?_
      have hc := h c hmem
      simp only [droppedMarks, List.mem_cons, not_or] at hc
      simp [isParenthesis, hc]
    have hwhole : splitChars '_' name.toList = [name.toList] :=
      splitChars_of_notMem fun hmem => h '_' hmem (by decide)
    rw [capital, pascal, hkept, hwhole, List.flatMap_singleton]

end WireCodecs.Naming
