import Mathlib.Data.List.Infix
import WireCodecs.Proofs.Text.Lacks

/-! Braces in texts. Whether a text is balanced is decided by its braces alone, with everything else
left out. A part of a balanced text need not be balanced by itself: it takes the nesting from one
depth to another, and parts nest one after the other where their depths meet. -/

namespace WireCodecs.Text

/-- The braces of a text, in order. -/
def bracesOf (text : String) : List Char := text.toList.filter isBrace

/-- No part of the text from its start closes more braces than it opens, and the whole text closes
as many as it opens. -/
structure IsBalanced (text : String) : Prop where
  prefix_le : ∀ front, front <+: text.toList → front.count '\x7d' ≤ front.count '\x7b'
  total : text.toList.count '\x7b' = text.toList.count '\x7d'

/-- Behind `before` open braces the characters never close more than are open, and they leave
`after` of them open. -/
structure Nests (before after : Nat) (chars : List Char) : Prop where
  prefix_le : ∀ front ∈ chars.inits, front.count '\x7d' ≤ before + front.count '\x7b'
  total : before + chars.count '\x7b' = after + chars.count '\x7d'

namespace Nests

variable {before between after : Nat} {chars rest : List Char}

instance (before after : Nat) (chars : List Char) : Decidable (Nests before after chars) :=
  decidable_of_iff
    ((∀ front ∈ chars.inits, front.count '\x7d' ≤ before + front.count '\x7b') ∧
      before + chars.count '\x7b' = after + chars.count '\x7d')
    ⟨fun h => ⟨h.1, h.2⟩, fun h => ⟨h.prefix_le, h.total⟩⟩

theorem nil (depth : Nat) : Nests depth depth [] where
  prefix_le := by simp
  total := rfl

theorem append (h : Nests before between chars) (hrest : Nests between after rest) :
    Nests before after (chars ++ rest) where
  prefix_le front hfront := by
    have hwhole : front <+: chars ++ rest := (List.mem_inits _ _).mp hfront
    rcases List.prefix_or_prefix_of_prefix hwhole (List.prefix_append chars rest) with
      hinside | ⟨back, rfl⟩
    · exact h.prefix_le front ((List.mem_inits _ _).mpr hinside)
    · have hback : back <+: rest := (List.prefix_append_right_inj chars).mp hwhole
      have hle := hrest.prefix_le back ((List.mem_inits _ _).mpr hback)
      have htotal := h.total
      rw [List.count_append, List.count_append]
      omega
  total := by
    have htotal := h.total
    have hrestTotal := hrest.total
    rw [List.count_append, List.count_append]
    omega

/-- What nests at one depth nests at every greater one. -/
theorem deeper (h : Nests before after chars) (depth : Nat) :
    Nests (before + depth) (after + depth) chars where
  prefix_le front hfront := by
    have hle := h.prefix_le front hfront
    omega
  total := by
    have htotal := h.total
    omega

theorem flatMap {α : Type} {f : α → List Char} {items : List α} {depth : Nat}
    (h : ∀ item ∈ items, Nests depth depth (f item)) : Nests depth depth (items.flatMap f) := by
  induction items with
  | nil => exact nil depth
  | cons item items ih =>
    rw [List.forall_mem_cons] at h
    exact h.1.append (ih h.2)

end Nests

theorem isBalanced_of_nests {text : String} (h : Nests 0 0 (bracesOf text)) : IsBalanced text := by
  have hopen (chars : List Char) : (chars.filter isBrace).count '\x7b' = chars.count '\x7b' :=
    List.count_filter (by decide)
  have hclose (chars : List Char) : (chars.filter isBrace).count '\x7d' = chars.count '\x7d' :=
    List.count_filter (by decide)
  constructor
  · intro front hfront
    have hle := h.prefix_le (front.filter isBrace) ((List.mem_inits _ _).mpr (hfront.filter _))
    rw [hopen, hclose] at hle
    omega
  · have htotal := h.total
    rw [bracesOf, hopen, hclose] at htotal
    omega

section Braceless

@[simp] theorem bracesOf_append (first second : String) :
    bracesOf (first ++ second) = bracesOf first ++ bracesOf second := by
  rw [bracesOf, String.toList_append, List.filter_append, bracesOf, bracesOf]

/-- The form of this lemma fits a literal, whose characters are then gone through. -/
theorem bracesOf_literal {chars braces : List Char} (h : chars.filter isBrace = braces) :
    bracesOf (String.ofList chars) = braces := by
  rw [bracesOf, String.toList_ofList, h]

/-- A text without braces. -/
abbrev Braceless (text : String) : Prop := Lacks isBrace text

theorem bracesOf_of_braceless {text : String} (h : Braceless text) : bracesOf text = [] := h

end Braceless

end WireCodecs.Text
