import Mathlib.Data.List.Nodup
import WireCodecs.Proofs.Files.History

/-! Files that are written anew. Where every write creates its file, a file holds the text of the
last write to its place. Writes renew their files if the first write to each of them creates it:
what is there afterwards does not depend on what was there before, and writing the same once more
changes nothing. -/

namespace WireCodecs

section LastWrite

variable {locate : String → FilePlace} {place : FilePlace}

/-- The last of the writes to a place. -/
def lastTo? (locate : String → FilePlace) (place : FilePlace) (writes : List CodecWrite) :
    Option CodecWrite :=
  (writes.filter (locate ·.path = place)).getLast?

theorem contentAfter_of_creates {writes : List CodecWrite}
    (h : ∀ write ∈ writes, write.mode = .create)
    (present : Option ByteArray) :
    contentAfter locate place writes present =
      ((lastTo? locate place writes).map (·.bytes)).or present := by
  induction writes generalizing present with
  | nil => rfl
  | cons write writes ih =>
    have hbytes : write.apply present = write.bytes := by
      rw [CodecWrite.apply, h write List.mem_cons_self]
    rw [contentAfter, ih fun other hother => h other (List.mem_cons_of_mem _ hother), hbytes]
    by_cases hplace : locate write.path = place
    · simp only [lastTo?, hplace, if_true, List.filter_cons_of_pos, decide_true,
        List.getLast?_cons]
      cases (writes.filter (locate ·.path = place)).getLast? <;> rfl
    · simp [lastTo?, hplace]

theorem lastTo?_of_nodup {writes : List CodecWrite} (h : (writes.map (locate ·.path)).Nodup)
    {write : CodecWrite} (hmem : write ∈ writes) :
    lastTo? locate (locate write.path) writes = some write := by
  have hnodup := h.sublist ((List.filter_sublist (p := (locate ·.path = locate write.path))).map _)
  have hmem' : write ∈ writes.filter (locate ·.path = locate write.path) := by simp [hmem]
  have hplaces : ∀ other ∈ writes.filter (locate ·.path = locate write.path),
      locate other.path = locate write.path := by simp
  match hfilter : writes.filter (locate ·.path = locate write.path) with
  | [] => simp [hfilter] at hmem'
  | [other] =>
    rw [hfilter, List.mem_singleton] at hmem'
    rw [lastTo?, hfilter, hmem', List.getLast?_singleton]
  | first :: second :: rest =>
    rw [hfilter] at hnodup hplaces
    simp [hplaces first (by simp), hplaces second (by simp)] at hnodup

theorem exists_lastTo? {writes : List CodecWrite} {write : CodecWrite} (hmem : write ∈ writes) :
    ∃ final, lastTo? locate (locate write.path) writes = some final := by
  have hmem' : write ∈ writes.filter (locate ·.path = locate write.path) := by simp [hmem]
  exact ⟨_, List.getLast?_eq_some_getLast (List.ne_nil_of_mem hmem')⟩

end LastWrite

section Renewal

variable {locate : String → FilePlace} {place : FilePlace} {writes : List CodecWrite}

/-- Writes that leave in every file they write to something that does not depend on what was there.
-/
def Renews (locate : String → FilePlace) (writes : List CodecWrite) : Prop :=
  ∀ place, (∃ write ∈ writes, locate write.path = place) →
    ∃ content, ∀ present, contentAfter locate place writes present = some content

/-- Files are renewed if they are created before anything is appended to them. The induction is on
the writes, for the places that none of the files created so far is at. -/
theorem CreatesFirst.exists_contentAfter {created : List String} (h : CreatesFirst created writes)
    (hcreated : ∀ path ∈ created, locate path ≠ place)
    (hplace : ∃ write ∈ writes, locate write.path = place) :
    ∃ content, ∀ present, contentAfter locate place writes present = some content := by
  induction writes generalizing created with
  | nil =>
    obtain ⟨write, hmem, -⟩ := hplace
    cases hmem
  | cons write writes ih =>
    by_cases hfirst : locate write.path = place
    · have hmode : write.mode = .create := by
        cases hmode : write.mode with
        | create => rfl
        | append => exact absurd hfirst (hcreated _ (h.1 hmode))
      obtain ⟨content, hcontent⟩ : ∃ content,
          contentAfter locate place writes (some write.bytes) = some content :=
        Option.isSome_iff_exists.mp (isSome_contentAfter (.inl rfl))
      refine ⟨content, fun present => ?_⟩
      rw [contentAfter, if_pos hfirst, CodecWrite.apply, hmode, hcontent]
    · have hrest : ∃ write ∈ writes, locate write.path = place := by
        obtain ⟨other, hmem, hother⟩ := hplace
        rcases List.mem_cons.mp hmem with rfl | hmem
        · exact absurd hother hfirst
        · exact ⟨other, hmem, hother⟩
      obtain ⟨content, hcontent⟩ := ih h.2 (List.forall_mem_cons.mpr ⟨hfirst, hcreated⟩) hrest
      refine ⟨content, fun present => ?_⟩
      rw [contentAfter, hcontent]

theorem CreatesFirst.renews (h : CreatesFirst [] writes) : Renews locate writes :=
  fun _ hplace => h.exists_contentAfter (by simp) hplace

/-- Writing the same once more changes nothing. -/
theorem Renews.contentAfter_again (h : Renews locate writes) (place : FilePlace)
    (present : Option ByteArray) :
    contentAfter locate place writes (contentAfter locate place writes present) =
      contentAfter locate place writes present := by
  by_cases hplace : ∃ write ∈ writes, locate write.path = place
  · obtain ⟨content, hcontent⟩ := h place hplace
    rw [hcontent, hcontent]
  · have hnone : ∀ write ∈ writes, locate write.path ≠ place := fun write hmem heq =>
      hplace ⟨write, hmem, heq⟩
    rw [contentAfter_of_notMem hnone, contentAfter_of_notMem hnone]

/-- Among writes for several items that go elsewhere except for those of one, these alone count,
however often the item is there. -/
theorem Renews.contentAfter_flatMap {ι : Type} {f : ι → List CodecWrite} {items : List ι} {item : ι}
    (h : Renews locate (f item)) (hmem : item ∈ items)
    (hother : ∀ other ∈ items, other ≠ item → ∀ write ∈ f other, locate write.path ≠ place)
    (present : Option ByteArray) :
    contentAfter locate place (items.flatMap f) present =
      contentAfter locate place (f item) present := by
  induction items generalizing present with
  | nil => cases hmem
  | cons first items ih =>
    have hrest : ∀ other ∈ items, other ≠ item → ∀ write ∈ f other, locate write.path ≠ place :=
      fun other hmem => hother other (List.mem_cons_of_mem _ hmem)
    rw [List.flatMap_cons, contentAfter_append]
    by_cases hitems : item ∈ items
    · rw [ih hitems hrest]
      by_cases hfirst : first = item
      · rw [hfirst, h.contentAfter_again]
      · rw [contentAfter_of_notMem (hother first List.mem_cons_self hfirst)]
    · obtain rfl : item = first := (List.mem_cons.mp hmem).resolve_right hitems
      refine contentAfter_of_notMem (fun write hwrite => ?_) _
      obtain ⟨other, hmem', hwrite'⟩ := List.mem_flatMap.mp hwrite
      exact hrest other hmem' (fun heq => hitems (heq ▸ hmem')) write hwrite'

end Renewal

end WireCodecs
