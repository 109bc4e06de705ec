import WireCodecs.Proofs.Files.History
import WireCodecs.Proofs.Fingerprint.Placeholders

/-! What is written for a text. It is the text with its fingerprint in place of the placeholders,
and nothing else gets into any file: what a file holds after an attempt to write was there before or
is what was written. -/

namespace WireCodecs.FileTree

/-- A file is put where its directory is made: it is written beside its place and moved there, or
extended. -/
inductive Puts (tree : FileTree) (path : String) (content : ByteArray) : WriteMode → FileTree → Prop
  | create {written after : FileTree}
      (hwrite : tree.write (Path.temporary path) content = .ok written)
      (hmove : written.rename (Path.temporary path) path = .ok after) :
      Puts tree path content .create after
  | append {after : FileTree} (happend : tree.append path content = .ok after) :
      Puts tree path content .append after

/-- What is in a file once the content is written to it. -/
def contentWith (content : ByteArray) (present : Option ByteArray) : WriteMode → ByteArray
  | .create => content
  | .append => present.getD ByteArray.empty ++ content

variable {tree after : FileTree} {path : String} {content found : ByteArray} {mode : WriteMode}
  {place spot : FilePlace} {fault : Option FileError}

theorem puts_of_putFile (h : tree.putFile path content mode = (after, none)) :
    Puts tree path content mode after := by
  cases mode with
  | create =>
    obtain ⟨written, hwrite, hcases⟩ := (cases_of_replaceFile h).resolve_left fun h => h.2 rfl
    exact .create hwrite (hcases.resolve_left fun h => h.2.1 rfl).1
  | append => exact .append ((cases_of_extendFile h).resolve_left fun h => h.2 rfl).1

theorem content?_fill (hplace : tree.place true path = .ok place)
    (hdirectory : tree.get? place ≠ some .directory)
    (h : (tree.fill place content).content? spot = some found) :
    (spot = place ∨ tree.sharesFile place spot) ∧ found = content ∨
      tree.content? spot = some found := by
  rw [content?_eq_some_iff, get?_fill hdirectory (get?_ne_link_of_follow hplace)] at h
  split at h
  · next hspot =>
    simp only [Option.some.injEq, FileEntry.file.injEq] at h
    exact .inl ⟨hspot, h.symm⟩
  · exact .inr (content?_eq_some_iff.mpr h)

/-- What is moved is the file that was written, or a link. -/
theorem content?_of_create {written : FileTree}
    (hwrite : tree.write (Path.temporary path) content = .ok written)
    (hmove : written.rename (Path.temporary path) path = .ok after)
    (hfound : after.content? spot = some found) :
    found = content ∨ tree.content? spot = some found := by
  obtain ⟨place, hplace, hdirectory, rfl⟩ := write_eq_ok hwrite
  obtain ⟨-, start, goal, entry, hstart, -, hentry, hover, hafter⟩ := rename_eq_ok_iff.mp hmove
  rw [place_fill_iff hplace hdirectory] at hstart
  have hlink := get?_ne_link_of_follow hplace
  -- A sibling that is no link is the one that is written.
  have hsame (h : ∀ target, tree.get? start ≠ some (.link target)) : start = place :=
    Except.ok.inj ((place_follow (isNamed_of_place hplace hdirectory) hstart h).symm.trans hplace)
  have hstartOver : (tree.fill place content).get? start ≠ some .directory := by
    rw [ne_eq, get?_fill_eq_some_iff hdirectory hlink (by simp)]
    intro h
    exact hdirectory (hsame (by simp [h]) ▸ h)
  split at hafter
  · subst hafter
    exact (content?_fill hplace hdirectory hfound).imp_left And.right
  · subst hafter
    rw [content?_eq_some_iff, get?_move (ne_root hstartOver) (ne_root hover) hentry] at hfound
    split at hfound
    · rcases content?_fill hplace hdirectory (content?_eq_some_iff.mpr hfound) with ⟨-, h⟩ | hfile
      · exact .inl h
      · obtain rfl := hsame (by simp [content?_eq_some_iff.mp hfile])
        rw [get?_fill hdirectory hlink, if_pos (.inl rfl)] at hfound
        simp only [Option.some.injEq, FileEntry.file.injEq] at hfound
        exact .inl hfound.symm
    · split at hfound
      · cases hfound
      · exact (content?_fill hplace hdirectory (content?_eq_some_iff.mpr hfound)).imp_left And.right

/-- What is found in a file was there or is what was written, also if the attempt fails. -/
theorem content?_of_putFile (h : tree.putFile path content mode = (after, fault))
    (hfound : after.content? spot = some found) :
    tree.content? spot = some found ∨ found = contentWith content (tree.content? spot) mode := by
  cases mode with
  | create =>
    rcases cases_of_replaceFile h with ⟨rfl, -⟩ | ⟨written, hwrite, ⟨rfl, -⟩ | ⟨hmove, -⟩⟩
    · exact .inl hfound
    · obtain ⟨place, hplace, hdirectory, rfl⟩ := write_eq_ok hwrite
      exact (content?_fill hplace hdirectory hfound).symm.imp_right And.right
    · exact (content?_of_create hwrite hmove hfound).symm
  | append =>
    rcases cases_of_extendFile h with ⟨rfl, -⟩ | ⟨happend, -⟩
    · exact .inl hfound
    · obtain ⟨place, hplace, hdirectory, rfl⟩ := append_eq_ok happend
      rcases content?_fill hplace hdirectory hfound with ⟨rfl | hshares, h⟩ | h
      · exact .inr h
      · -- The names of a file have one content before and after.
        obtain ⟨present, hpresent, hother⟩ := get?_of_sharesFile hshares
        rw [content?_eq_some_iff.mpr hpresent, ← content?_eq_some_iff.mpr hother] at h
        exact .inr h
      · exact .inl h

theorem writeSealed_eq {text : String} (h : tree.writeCodec path text mode = (after, fault)) :
    tree.writeSealed path text mode = (after, fault.elim (.ok (fingerprint text)) .error) := by
  rw [writeSealed, h]
  cases fault <;> rfl

/-- A text is written with a digest between its pieces, which are cut at the placeholders from left
to right. No placeholder is left in what is written, and no file gets anything else. -/
theorem writeText_substitutes {digest : String} (hdigest : IsDigest digest) (tree : FileTree)
    (path text : String) (mode : WriteMode) :
    ∃ pieces, (∀ others, Text.PiecesOf fingerprintPlaceholder text others ↔ others = pieces) ∧
      ¬ Text.Occurs fingerprintPlaceholder (Text.joinWith digest pieces) ∧
      ∃ after fault, tree.writeText path (fillPlaceholders digest text) mode = (after, fault) ∧
        (fault = none → ∃ made, Grows tree made ∧
          Puts made path (Text.joinWith digest pieces).toUTF8 mode after) ∧
        ∀ spot found, after.content? spot = some found → tree.content? spot = some found ∨
          found = contentWith (Text.joinWith digest pieces).toUTF8 (tree.content? spot) mode := by
  obtain ⟨pieces, hpieces, hfill, hmark⟩ := @fillPlaceholders_eq_joinWith digest text hdigest
  refine ⟨pieces, hpieces, hfill ▸ hmark, ?_⟩
  rw [← hfill]
  obtain ⟨after, fault, hwrite⟩ :
      ∃ after fault, tree.writeText path (fillPlaceholders digest text) mode = (after, fault) :=
    ⟨_, _, rfl⟩
  have hgrown : Grows tree (tree.makeParent path).1 := grows_makeParent path
  refine ⟨after, fault, hwrite, fun hnone => ?_, fun spot found hfound => ?_⟩
  · subst hnone
    exact ⟨_, hgrown, puts_of_putFile ((cases_of_writeText hwrite).resolve_left fun h => h.2 rfl)⟩
  · rw [← hgrown.content? spot]
    rcases cases_of_writeText hwrite with ⟨rfl, -⟩ | hput
    · exact .inl hfound
    · exact content?_of_putFile hput hfound

/-- A text is written with its fingerprint between its pieces, which are cut at the placeholders
from left to right. No placeholder is left in what is written, no file gets anything else, and the
fingerprint is what the write gives back. -/
theorem writeSealed_substitutes (tree : FileTree) (path text : String) (mode : WriteMode) :
    ∃ pieces, (∀ others, Text.PiecesOf fingerprintPlaceholder text others ↔ others = pieces) ∧
      Text.joinWith fingerprintPlaceholder pieces = text ∧ IsDigest (fingerprint text) ∧
      ∃ content, content = Text.joinWith (fingerprint text) pieces ∧
        ¬ Text.Occurs fingerprintPlaceholder content ∧
        ∃ after outcome, tree.writeSealed path text mode = (after, outcome) ∧
          (∀ returned, outcome = .ok returned → returned = fingerprint text ∧
            ∃ made, Grows tree made ∧ Puts made path content.toUTF8 mode after) ∧
          ∀ spot found, after.content? spot = some found → tree.content? spot = some found ∨
            found = contentWith content.toUTF8 (tree.content? spot) mode := by
  obtain ⟨pieces, hpieces, hmark, after, fault, hwrite, hputs, hothers⟩ :=
    writeText_substitutes (isDigest_fingerprint text) tree path text mode
  refine ⟨pieces, hpieces, ((hpieces pieces).mpr rfl).joinWith_eq, isDigest_fingerprint text, _,
    rfl, hmark, after, _, writeSealed_eq hwrite, fun returned hreturned => ?_, hothers⟩
  cases fault with
  | none => exact ⟨(Except.ok.inj hreturned).symm, hputs rfl⟩
  | some error => cases hreturned

/-- The second of two placeholders that overlap is no placeholder. -/
theorem writeSealed_substitutes_overlapping :
    ∃ pieces after made,
      Text.PiecesOf fingerprintPlaceholder "a !codec_hash!codec_hash! b" pieces ∧
      empty.writeSealed "out/a.txt" "a !codec_hash!codec_hash! b" .create =
        (after, .ok (fingerprint "a !codec_hash!codec_hash! b")) ∧
      Grows empty made ∧ Puts made "out/a.txt"
        (Text.joinWith (fingerprint "a !codec_hash!codec_hash! b") pieces).toUTF8 .create
        after := by
  obtain ⟨pieces, hpieces, -, -, _, rfl, -, after, outcome, hwrite, hreturned, -⟩ :=
    writeSealed_substitutes empty "out/a.txt" "a !codec_hash!codec_hash! b" .create
  have houtcome : outcome = .ok (fingerprint "a !codec_hash!codec_hash! b") := by
    apply eq_ok_of_toOption
    rw [← show (empty.writeSealed _ _ _).2 = outcome from congrArg Prod.snd hwrite]
    decide +kernel
  obtain ⟨-, made, hgrown, hputs⟩ := hreturned _ houtcome
  exact ⟨pieces, after, made, (hpieces pieces).mpr rfl, houtcome ▸ hwrite, hgrown, hputs⟩

end WireCodecs.FileTree
