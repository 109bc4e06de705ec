/-! Ranges of code points, and texts that list the ranges of a table by their labels. -/

namespace WireCodecs.Text

structure CodeRange where
  first : Nat
  last : Nat
  deriving DecidableEq, Repr

namespace CodeRange

def contains (range : CodeRange) (c : Char) : Bool := range.first ≤ c.toNat && c.toNat ≤ range.last

def between (first last : Char) : CodeRange := ⟨first.toNat, last.toNat⟩

def one (code : Nat) : CodeRange := ⟨code, code⟩

/-- What a hole leaves of a range. -/
def punch (hole range : CodeRange) : List CodeRange :=
  (if range.first < hole.first then [⟨range.first, min range.last (hole.first - 1)⟩] else []) ++
    if hole.last < range.last then [⟨max range.first (hole.last + 1), range.last⟩] else []

theorem any_contains_punch (hole range : CodeRange) (c : Char) :
    (hole.punch range).any (·.contains c) = (range.contains c && !hole.contains c) := by
  rw [Bool.eq_iff_iff]
  simp only [punch, contains, List.any_append, Bool.or_eq_true, Bool.and_eq_true,
    Bool.not_eq_true', Bool.and_eq_false_iff, decide_eq_true_eq, decide_eq_false_iff_not]
  split <;> split <;> simp <;> omega

end CodeRange

/-- What holes leave of ranges. -/
def punchAll (holes ranges : List CodeRange) : List CodeRange :=
  holes.foldl (fun ranges hole => ranges.flatMap hole.punch) ranges

section Join

/-- Sorted ranges, where those that touch each other are one. -/
def joinRanges : List CodeRange → List CodeRange
  | first :: second :: rest =>
    if first.last + 1 = second.first then joinRanges (⟨first.first, second.last⟩ :: rest)
    else first :: joinRanges (second :: rest)
  | ranges => ranges
termination_by ranges => ranges.length

theorem any_contains_joinRanges (ranges : List CodeRange) (h : ∀ r ∈ ranges, r.first ≤ r.last)
    (c : Char) : (joinRanges ranges).any (·.contains c) = ranges.any (·.contains c) := by
  fun_induction joinRanges ranges with
  | case1 first second rest touch ih =>
    have h₁ := h first (by simp)
    have h₂ := h second (by simp)
    rw [ih (by
      intro r hr
      rcases List.mem_cons.1 hr with rfl | hr
      · simp only; omega
      · exact h r (by simp [hr]))]
    have union : CodeRange.contains ⟨first.first, second.last⟩ c =
        (first.contains c || second.contains c) := by
      rw [Bool.eq_iff_iff]
      simp only [CodeRange.contains, Bool.or_eq_true, Bool.and_eq_true, decide_eq_true_eq]
      omega
    simp only [List.any_cons, union, Bool.or_assoc]
  | case2 first second rest apart ih =>
    simp only [List.any_cons, ih fun r hr => h r (List.mem_cons_of_mem _ hr)]
  | case3 => rfl

end Join

section Labels

/-- A text cut before each capital letter. -/
def labelParts (text : List Char) : List (List Char) :=
  (text.foldr (fun c (part, parts) =>
    if c.isUpper then ([], (c :: part) :: parts) else (c :: part, parts)) ([], [])).2

/-- A label with the number behind it, which is one if there is none. -/
def readLabel (part : List Char) : String × Nat :=
  let digits := part.dropWhile (!Char.isDigit ·)
  let count := digits.foldl (fun n c => n * 10 + (c.toNat - 48)) 0
  (String.ofList (part.takeWhile (!Char.isDigit ·)), if digits.isEmpty then 1 else count)

/-- The ranges that runs of code points take up, the first of them from `start` on. -/
def placeRuns (start : Nat) : List (String × Nat) → List (String × CodeRange)
  | [] => []
  | (label, count) :: runs => (label, ⟨start, start + count - 1⟩) :: placeRuns (start + count) runs

/-- The ranges of every second run, where the lengths of all runs are given. -/
def secondRuns (start : Nat) : List Nat → List CodeRange
  | first :: second :: counts =>
    ⟨start + first, start + first + second - 1⟩ :: secondRuns (start + first + second) counts
  | _ => []

/-- The ranges with their labels in a text of labels and lengths. -/
def labelledRanges (text : List String) : List (String × CodeRange) :=
  placeRuns 0 ((text.flatMap fun line => labelParts line.toList).map readLabel)

end Labels

end WireCodecs.Text
