import WireCodecs.Proofs.Text.Lines
import WireCodecs.Text.Blank

/-! Texts without characters of a kind. The kinds are made of the characters that give a generated
text its structure: the braces, which open and close blocks, and the line feed. Putting texts
together and cutting them adds no such character but those that are put there. -/

namespace WireCodecs.Text

def isBrace (c : Char) : Bool := c == '\x7b' || c == '\x7d'

theorem isBrace_iff {c : Char} : isBrace c ↔ c = '\x7b' ∨ c = '\x7d' := by simp [isBrace]

def isFeed (c : Char) : Bool := c == '\n'

/-- A character that gives a text its structure. -/
def isStructural (c : Char) : Bool := isBrace c || isFeed c

theorem isStructural_iff {c : Char} : isStructural c ↔ c = '\x7b' ∨ c = '\x7d' ∨ c = '\n' := by
  simp [isStructural, isBrace, isFeed, or_assoc]

/-- A kind of such characters. -/
class Structural (p : Char → Bool) : Prop where
  isStructural : ∀ c, p c → isStructural c

instance : Structural isBrace where
  isStructural c h := by simp [isStructural, h]

instance : Structural isFeed where
  isStructural c h := by simp [isStructural, h]

/-- A text without characters of a kind. -/
def Lacks (p : Char → Bool) (text : String) : Prop := text.toList.filter p = []

instance (p : Char → Bool) (text : String) : Decidable (Lacks p text) := List.instDecidableEqNil _

variable {p : Char → Bool} {first second : String}

theorem lacks_iff {text : String} : Lacks p text ↔ ∀ c ∈ text.toList, ¬ p c :=
  List.filter_eq_nil_iff

theorem lacks_isFeed_iff {text : String} : Lacks isFeed text ↔ '\n' ∉ text.toList := by
  rw [lacks_iff]
  refine ⟨fun h hmem => h '\n' hmem rfl, fun h c hc hfeed => ?_⟩
  obtain rfl : c = '\n' := by simpa [isFeed] using hfeed
  exact h hc

namespace Lacks

theorem of_structural [Structural p] {text : String} (h : Lacks isStructural text) :
    Lacks p text :=
  lacks_iff.mpr fun c hc hp => lacks_iff.mp h c hc (Structural.isStructural c hp)

/-- The form of this lemma fits a literal, whose characters are then gone through. -/
theorem literal [Structural p] {chars : List Char} (h : chars.filter isStructural = []) :
    Lacks p (String.ofList chars) := by
  refine of_structural ?_
  rw [Lacks, String.toList_ofList, h]

theorem append_iff : Lacks p (first ++ second) ↔ Lacks p first ∧ Lacks p second := by
  rw [Lacks, String.toList_append, List.filter_append, List.append_eq_nil_iff, Lacks, Lacks]

theorem append (hfirst : Lacks p first) (hsecond : Lacks p second) : Lacks p (first ++ second) :=
  append_iff.mpr ⟨hfirst, hsecond⟩

/-- A text between two literals. -/
theorem between [Structural p] {front back : List Char} {text : String}
    (hfront : front.filter isStructural = []) (hback : back.filter isStructural = [])
    (h : Lacks p text) : Lacks p (String.ofList front ++ text ++ String.ofList back) :=
  ((literal hfront).append h).append (literal hback)

theorem of_subset (h : Lacks p second) (hsubset : first.toList ⊆ second.toList) : Lacks p first :=
  lacks_iff.mpr fun c hc => lacks_iff.mp h c (hsubset hc)

theorem joinWith {glue : String} {pieces : List String} (hglue : Lacks p glue)
    (h : ∀ piece ∈ pieces, Lacks p piece) : Lacks p (joinWith glue pieces) := by
  induction pieces with
  | nil => rfl
  | cons piece pieces ih =>
    rw [List.forall_mem_cons] at h
    cases pieces with
    | nil => exact h.1
    | cons next rest => exact (h.1.append hglue).append (ih h.2)

theorem splitOn {text : String} (h : Lacks p text) (sep : Char) :
    ∀ piece ∈ splitOn sep text, Lacks p piece := by
  intro piece hpiece
  obtain ⟨chars, hchars, rfl⟩ := List.mem_map.mp hpiece
  refine h.of_subset ?_
  rw [String.toList_ofList]
  exact subset_of_mem_splitChars hchars

theorem trimEnd (h : Lacks p first) : Lacks p (trimEnd first) := by
  refine h.of_subset ?_
  rw [Text.trimEnd, String.toList_ofList, trimEndChars]
  intro c hc
  exact List.mem_reverse.mp ((List.dropWhile_sublist _).subset (List.mem_reverse.mp hc))

theorem trim (h : Lacks p first) : Lacks p (trim first) := by
  have hstart : Lacks p (String.ofList (trimStartChars first.toList)) := by
    refine h.of_subset ?_
    rw [String.toList_ofList]
    exact (List.dropWhile_sublist _).subset
  have hends := hstart.trimEnd
  rwa [Text.trimEnd, String.toList_ofList] at hends

theorem lines (h : Lacks p first) : ∀ line ∈ lines first, Lacks p line := by
  intro line hline
  obtain ⟨piece, hpiece, rfl⟩ := List.mem_map.mp hline
  refine h.of_subset ?_
  rw [String.toList_ofList]
  exact subset_of_mem_lineChars hpiece

end Lacks

end WireCodecs.Text
