import Mathlib.Data.List.Basic
import WireCodecs.Fingerprint
import WireCodecs.Proofs.Text.Lines

/-! Placeholders and what takes their place. A text is cut at the occurrences of a mark, each of
them the first one behind the occurrence before it, and replacing the mark joins the pieces anew.
What is put between the pieces has neither the first nor the last character of the mark in it and is
about as long, so an occurrence in the joined text would have to lie in a piece. -/

namespace WireCodecs

namespace Text

/-- Whether a mark stands somewhere in a text. -/
def Occurs (mark text : String) : Prop := ∃ before after, text = before ++ mark ++ after

/-- The pieces of a text between the occurrences of a mark, as they are found from the left. -/
inductive PiecesOf (mark : String) : (text : String) → (pieces : List String) → Prop
  | last {text : String} (h : ¬ Occurs mark text) : PiecesOf mark text [text]
  | next {piece rest : String} {pieces : List String}
      (hfirst : ∀ before after, piece ++ mark ++ rest = before ++ mark ++ after →
        piece.length ≤ before.length)
      (hrest : PiecesOf mark rest pieces) : PiecesOf mark (piece ++ mark ++ rest) (piece :: pieces)

theorem occurs_iff {mark text : String} : Occurs mark text ↔ mark.toList <:+: text.toList := by
  constructor
  · rintro ⟨before, after, rfl⟩
    exact ⟨before.toList, after.toList, by simp⟩
  · rintro ⟨before, after, h⟩
    exact ⟨String.ofList before, String.ofList after, by rw [← String.toList_inj, ← h]; simp⟩

section Pieces

variable {mark text : String} {pieces others : List String}

theorem PiecesOf.ne_nil (h : PiecesOf mark text pieces) : pieces ≠ [] := by
  cases h <;> exact List.cons_ne_nil _ _

/-- The text is its pieces with the mark between them. -/
theorem PiecesOf.joinWith_eq (h : PiecesOf mark text pieces) : joinWith mark pieces = text := by
  induction h with
  | last => rfl
  | next _ hrest ih => rw [joinWith_cons hrest.ne_nil, ih]

/-- The first occurrence is in one place only. -/
theorem PiecesOf.unique (h : PiecesOf mark text pieces) (h' : PiecesOf mark text others) :
    others = pieces := by
  induction h generalizing others with
  | last hnone =>
    cases h' with
    | last => rfl
    | next => exact absurd ⟨_, _, rfl⟩ hnone
  | @next piece rest pieces hfirst _ ih =>
    generalize htext : piece ++ mark ++ rest = text at h'
    cases h' with
    | last hnone => exact absurd ⟨_, _, htext.symm⟩ hnone
    | @next piece' rest' pieces' hfirst' hrest' =>
      have hlength : piece.toList.length = piece'.toList.length :=
        Nat.le_antisymm (hfirst _ _ htext) (hfirst' _ _ htext.symm)
      simp only [← String.toList_inj, String.toList_append, List.append_assoc] at htext
      obtain ⟨hpiece, hbehind⟩ := List.append_inj htext hlength
      obtain rfl := String.toList_inj.mp hpiece
      obtain rfl := String.toList_inj.mp (List.append_cancel_left hbehind)
      rw [ih hrest']

theorem PiecesOf.not_occurs (hmark : mark ≠ "") (h : PiecesOf mark text pieces) {piece : String}
    (hmem : piece ∈ pieces) : ¬ Occurs mark piece := by
  induction h with
  | last hnone => exact List.mem_singleton.mp hmem ▸ hnone
  | @next first rest pieces hfirst _ ih =>
    rcases List.mem_cons.mp hmem with rfl | hmem
    · rintro ⟨before, after, rfl⟩
      have hlength := hfirst before (after ++ mark ++ rest) (by simp only [String.append_assoc])
      have hpos : 0 < mark.length := by
        rw [Nat.pos_iff_ne_zero]
        exact fun hzero => hmark (String.length_eq_zero_iff.mp hzero)
      simp only [String.length_append] at hlength
      omega
    · exact ih hmem

end Pieces

section Joining

/-- An occurrence that is in neither of two texts would begin or end in what is between them. -/
theorem infix_or_infix_of_between {mark piece between rest : List Char} {first last : Char}
    (hfirst : mark.head? = some first) (hlast : mark.getLast? = some last)
    (hfirstNot : first ∉ between) (hlastNot : last ∉ between)
    (hlong : mark.length ≤ between.length + 1) (h : mark <:+: piece ++ (between ++ rest)) :
    mark <:+: piece ∨ mark <:+: rest := by
  have hbegins : ∀ start, start ≠ [] → start <+: mark → first ∈ start := by
    rintro start hne ⟨behind, rfl⟩
    rw [List.head?_append_of_ne_nil _ hne] at hfirst
    exact List.mem_of_mem_head? hfirst
  have hends : ∀ tail, tail ≠ [] → tail <:+ mark → last ∈ tail := by
    rintro tail hne ⟨front, rfl⟩
    rw [List.getLast?_append_of_ne_nil _ hne] at hlast
    exact List.mem_of_getLast? hlast
  rcases List.infix_append_iff_ne_nil.mp h with h | h | ⟨front, back, hfront, hback, hmark, -, h⟩
  · exact .inl h
  · rcases List.infix_append_iff_ne_nil.mp h with h | h | ⟨front, back, hfront, -, hmark, h, -⟩
    · exact absurd (h.subset (List.mem_of_mem_head? hfirst)) hfirstNot
    · exact .inr h
    · exact absurd (h.subset (hbegins front hfront ⟨back, hmark.symm⟩)) hfirstNot
  · -- What reaches over the first text is shorter than the mark, so it ends before the second one.
    have hlength : back.length ≤ between.length := by
      have hpos := List.length_pos_iff.mpr hfront
      rw [hmark, List.length_append] at hlong
      omega
    have hbetween := List.prefix_of_prefix_length_le h (List.prefix_append between rest) hlength
    exact absurd (hbetween.subset (hends back hback ⟨front, hmark.symm⟩)) hlastNot

/-- A mark that stands in no piece does not stand in the joined text, if it neither begins nor ends
in what the pieces are joined by and is not much longer. -/
theorem not_occurs_joinWith {mark glue : String} {first last : Char}
    (hfirst : mark.toList.head? = some first) (hlast : mark.toList.getLast? = some last)
    (hfirstNot : first ∉ glue.toList) (hlastNot : last ∉ glue.toList)
    (hlong : mark.length ≤ glue.length + 1) {pieces : List String} (hne : pieces ≠ [])
    (h : ∀ piece ∈ pieces, ¬ Occurs mark piece) : ¬ Occurs mark (joinWith glue pieces) := by
  induction pieces with
  | nil => exact absurd rfl hne
  | cons piece pieces ih =>
    rw [List.forall_mem_cons] at h
    by_cases hlast' : pieces = []
    · rw [hlast']
      exact h.1
    rw [joinWith_cons hlast', String.append_assoc, occurs_iff, String.toList_append,
      String.toList_append]
    intro hoccurs
    rcases infix_or_infix_of_between hfirst hlast hfirstNot hlastNot
      (by simpa only [String.length_toList] using hlong) hoccurs with hoccurs | hoccurs
    · exact h.1 (occurs_iff.mpr hoccurs)
    · exact ih hlast' h.2 (occurs_iff.mpr hoccurs)

theorem joinWith_append_cons (glue front piece : String) (pieces : List String) :
    joinWith glue ((front ++ piece) :: pieces) = front ++ joinWith glue (piece :: pieces) := by
  cases pieces with
  | nil => rfl
  | cons next pieces => simp only [joinWith, String.append_assoc]

end Joining

end Text

section Replacing

variable {target piece : List Char}

theorem replaceAllFrom_drop (covered : Nat) (text : List Char) :
    replaceAllFrom target piece covered text =
      replaceAllFrom target piece 0 (text.drop covered) := by
  induction text generalizing covered with
  | nil => simp [replaceAllFrom]
  | cons c rest ih =>
    cases covered with
    | zero => rfl
    | succ covered => exact ih covered

theorem replaceAllFrom_append (htarget : target ≠ []) (rest : List Char) :
    replaceAllFrom target piece 0 (target ++ rest) =
      piece ++ replaceAllFrom target piece 0 rest := by
  obtain ⟨c, target, rfl⟩ := List.exists_cons_of_ne_nil htarget
  have hstart : Text.afterStart? (c :: target) (c :: (target ++ rest)) = some rest :=
    Text.afterStart?_eq_some_iff.mpr rfl
  rw [List.cons_append, replaceAllFrom, hstart]
  simp only
  rw [replaceAllFrom_drop, List.length_cons, Nat.add_sub_cancel, List.drop_left]

theorem replaceAllFrom_cons {c : Char} {rest : List Char} (h : ¬ target <+: c :: rest) :
    replaceAllFrom target piece 0 (c :: rest) = c :: replaceAllFrom target piece 0 rest := by
  have hstart : Text.afterStart? target (c :: rest) = none := by
    rw [Option.eq_none_iff_forall_ne_some]
    intro after hafter
    exact h ⟨after, (Text.afterStart?_eq_some_iff.mp hafter).symm⟩
  rw [replaceAllFrom, hstart]

/-- A character in front of a text belongs to its first piece, unless the mark begins there. -/
theorem Text.PiecesOf.cons {mark text piece : String} {pieces : List String} {c : Char}
    (h : PiecesOf mark text (piece :: pieces)) (hstart : ¬ mark.toList <+: c :: text.toList) :
    PiecesOf mark (String.singleton c ++ text) ((String.singleton c ++ piece) :: pieces) := by
  cases h with
  | last hnone =>
    refine .last fun hoccurs => ?_
    rw [occurs_iff, String.toList_append, String.toList_singleton, List.singleton_append,
      List.infix_cons_iff] at hoccurs
    exact hoccurs.elim hstart fun h => hnone (occurs_iff.mpr h)
  | @next _ rest _ hfirst hrest =>
    rw [← String.append_assoc, ← String.append_assoc]
    refine .next (fun before after h => ?_) hrest
    simp only [← String.toList_inj, String.toList_append, String.toList_singleton,
      List.cons_append] at h hstart
    rcases hbefore : before.toList with _ | ⟨d, before'⟩
    · rw [hbefore, List.nil_append] at h
      exact absurd ⟨_, h.symm⟩ hstart
    · rw [hbefore, List.cons_append, List.cons_append, List.cons.injEq] at h
      have hlength := hfirst (String.ofList before') after (by
        rw [← String.toList_inj]
        simpa using h.2)
      have hbeforeLength : before.length = before'.length + 1 := by
        rw [← String.length_toList, hbefore, List.length_cons]
      simp only [String.length_append, String.length_singleton, String.length_ofList] at hlength ⊢
      omega

/-- Replacing a mark joins the pieces by what takes its place. The induction is on the length of the
text, which goes on behind an occurrence or behind one character. -/
theorem exists_piecesOf {mark : String} (glue : String) (hmark : mark ≠ "") (text : List Char) :
    ∃ pieces, Text.PiecesOf mark (String.ofList text) pieces ∧
      String.ofList (replaceAllFrom mark.toList glue.toList 0 text) =
        Text.joinWith glue pieces := by
  have htoList : mark.toList ≠ [] := fun h => hmark (String.toList_inj.mp (h.trans rfl))
  induction hlength : text.length using Nat.strongRecOn generalizing text with
  | ind length ih =>
  by_cases hstart : mark.toList <+: text
  · obtain ⟨rest, rfl⟩ := hstart
    have hshorter : rest.length < length := by
      have hpos := List.length_pos_iff.mpr htoList
      rw [← hlength, List.length_append]
      omega
    obtain ⟨pieces, hpieces, hjoin⟩ := ih _ hshorter rest rfl
    have htext : String.ofList (mark.toList ++ rest) = "" ++ mark ++ String.ofList rest := by
      rw [← String.toList_inj]
      simp
    refine ⟨"" :: pieces, htext ▸ .next (fun _ _ _ => Nat.zero_le _) hpieces, ?_⟩
    rw [replaceAllFrom_append htoList, Text.joinWith_cons hpieces.ne_nil, ← hjoin,
      ← String.toList_inj]
    simp
  · cases text with
    | nil =>
      refine ⟨[""], .last fun hoccurs => ?_, rfl⟩
      exact htoList (List.infix_nil.mp (Text.occurs_iff.mp hoccurs))
    | cons c rest =>
      obtain ⟨pieces, hpieces, hjoin⟩ := ih rest.length (by simp [← hlength]) rest rfl
      obtain ⟨piece, pieces, rfl⟩ := List.exists_cons_of_ne_nil hpieces.ne_nil
      have htext : String.ofList (c :: rest) = String.singleton c ++ String.ofList rest := by
        rw [← String.toList_inj]
        simp
      refine ⟨(String.singleton c ++ piece) :: pieces,
        htext ▸ hpieces.cons (by simpa using hstart), ?_⟩
      rw [replaceAllFrom_cons hstart, Text.joinWith_append_cons, ← hjoin, ← String.toList_inj]
      simp

end Replacing

section Digests

/-- What fingerprints are made of. -/
def hexDigits : List Char := "0123456789abcdef".toList

namespace Blake3

theorem hexDigit_mem (value : Nat) : hexDigit value ∈ hexDigits := by
  have hdigits : ∀ digit < 16, Nat.digitChar digit ∈ hexDigits := by decide
  exact hdigits _ (Nat.mod_lt _ (by decide))

theorem hexWord_subset (word : UInt32) : hexWord word ⊆ hexDigits := by
  intro c hc
  simp only [hexWord, hexByte, List.mem_append, List.mem_cons, List.not_mem_nil, or_false] at hc
  rcases hc with ((((rfl | rfl) | (rfl | rfl)) | (rfl | rfl)) | (rfl | rfl)) <;>
    exact hexDigit_mem _

theorem length_hexChars (value : ChainingValue) : (hexChars value).length = 64 := by
  have hword : ∀ word ∈ value.toList, (hexWord word).length = 8 := fun _ _ => rfl
  rw [hexChars, List.length_flatMap, List.map_congr_left hword]
  simp

theorem hexChars_subset (value : ChainingValue) : hexChars value ⊆ hexDigits := by
  intro c hc
  obtain ⟨word, -, hc⟩ := List.mem_flatMap.mp hc
  exact hexWord_subset word hc

end Blake3

/-- A text of the form that fingerprints have. -/
structure IsDigest (digest : String) : Prop where
  length : digest.length = 64
  digits : digest.toList ⊆ hexDigits

theorem isDigest_fingerprint (text : String) : IsDigest (fingerprint text) where
  length := by rw [fingerprint, String.length_ofList, Blake3.length_hexChars]
  digits := by
    rw [fingerprint, String.toList_ofList]
    exact Blake3.hexChars_subset _

/-- Filling in a digest joins the pieces between the placeholders by it, and leaves none of them. -/
theorem fillPlaceholders_eq_joinWith {digest text : String} (h : IsDigest digest) :
    ∃ pieces, (∀ others, Text.PiecesOf fingerprintPlaceholder text others ↔ others = pieces) ∧
      fillPlaceholders digest text = Text.joinWith digest pieces ∧
      ¬ Text.Occurs fingerprintPlaceholder (fillPlaceholders digest text) := by
  have hmark : fingerprintPlaceholder ≠ "" := by decide
  obtain ⟨pieces, hpieces, hfill⟩ := exists_piecesOf digest hmark text.toList
  rw [String.ofList_toList] at hpieces
  have hfirst : fingerprintPlaceholder.toList.head? = some '!' := by decide
  have hlast : fingerprintPlaceholder.toList.getLast? = some '!' := by decide
  have hmarks : '!' ∉ digest.toList := fun hmem => absurd (h.digits hmem) (by decide)
  refine ⟨pieces, fun others => ⟨hpieces.unique, fun heq => heq ▸ hpieces⟩, hfill, ?_⟩
  rw [fillPlaceholders, hfill]
  exact Text.not_occurs_joinWith hfirst hlast hmarks hmarks (by rw [h.length]; decide)
    hpieces.ne_nil fun piece => hpieces.not_occurs hmark

end Digests

end WireCodecs
