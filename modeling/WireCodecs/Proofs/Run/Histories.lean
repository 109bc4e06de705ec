import WireCodecs.Proofs.Files.Attempts
import WireCodecs.Proofs.Run.Noninterference

/-! What files hold while they are written. Each attempt changes one file if it succeeds, and none
that is not a temporary sibling if it fails, so a file holds the texts since it was last created.
The files of all languages are such files. -/

namespace WireCodecs

open FileTree

theorem Run.isLive_of_targetWrites {services : List Service} {output : String} {target : Target}
    (hstandard : target.IsStandard) {write : CodecWrite}
    (h : write ∈ targetWrites services output target) : Path.IsLive write.path :=
  (isFile_of_targetWrites hstandard h).isCodec.isLive

/-- Whatever is attempted on files that are not temporary siblings: every attempt leaves its text in
its file or leaves the file as it was, and no other file changes but temporary siblings, as long as
no file is created through a link or over another file. A file holds what it held before or what was
written since it was last created. The files that are written for a language are of this kind. -/
theorem files_after_attempts (tree : FileTree) (writes : List CodecWrite)
    (hlive : ∀ write ∈ writes, Path.IsLive write.path)
    (hbeside : ∀ turn ∈ turns tree writes, turn.1.WritesBeside turn.2) :
    (∀ turn ∈ turns tree writes,
      Leaves turn.1 turn.2 (turn.1.attempt turn.2).1 (turn.1.attempt turn.2).2) ∧
    (∀ place, ¬ IsTemporary place → Holds (tree.content? place) (writesTo place tree writes)
      ((tree.afterAll writes).content? place)) ∧
    ∀ services output (target : Target), target.IsStandard →
      ∀ write ∈ Run.targetWrites services output target, Path.IsLive write.path := by
  refine ⟨fun turn hturn => ?_, fun place hplace => ?_, fun services output target hstandard => ?_⟩
  · exact leaves_attempt (hlive _ (snd_mem_of_mem_turns hturn)) (hbeside turn hturn)
  · rw [content?_afterAll hlive hbeside hplace]
    exact holds_contentAfter _
  · exact fun write hmem => Run.isLive_of_targetWrites hstandard hmem

/-- A directory with a file. -/
def startedTree : FileTree :=
  .ofEntries [(["out"], .directory), (["out", "a.h"], .file "old".toUTF8)]

/-- Attempts on the file, on a new one in a new directory, and on the directory. -/
def mixedWrites : List CodecWrite :=
  [⟨"out/a.h", "first", .create⟩, ⟨"out/sub/b.cpp", "second", .append⟩, ⟨"out", "third", .create⟩,
    ⟨"out/a.h", "fourth", .append⟩]

theorem files_after_attempts_mixed :
    (startedTree.afterAll mixedWrites).content? ["out", "a.h"] =
      some (joined [⟨"out/a.h", "first", .create⟩, ⟨"out/a.h", "fourth", .append⟩]) := by
  have hlive : ∀ write ∈ mixedWrites, Path.IsLive write.path := by decide
  have hfree : startedTree.LinkFree := linkFree_ofEntries (by simp)
  have hwrites : writesTo ["out", "a.h"] startedTree mixedWrites =
      [⟨"out/a.h", "first", .create⟩, ⟨"out/a.h", "fourth", .append⟩] := by
    decide +kernel
  obtain ⟨-, hholds, -⟩ :=
    files_after_attempts startedTree mixedWrites hlive
      (hfree.writesBeside (hasNoHardLinks_ofEntries _) hlive)
  exact (hholds ["out", "a.h"] (by decide)).created [] _ [⟨"out/a.h", "fourth", .append⟩] hwrites
    rfl (by decide)

/-- A file is created through a link that stands where its temporary sibling is: the file that the
link leads to is written too. So is a file that the sibling is another name of. What is appended to
a file is found under its other names. -/
theorem changed_through_linked_sibling :
    let write : CodecWrite := ⟨"out/a.txt", "new", .create⟩
    let linked : FileTree := .ofEntries [(["out"], .directory),
      (["out", "a.txt.tmp"], .link "b.txt"), (["out", "b.txt"], .file "old".toUTF8)]
    let named (name : String) : FileTree := ⟨[(["out"], .directory), (["out", name], .file 0),
      (["out", "b.txt"], .file 0)], fun _ => "old".toUTF8⟩
    Path.IsLive write.path ∧ ¬ IsTemporary ["out", "b.txt"] ∧
      (∀ tree ∈ [linked, named "a.txt.tmp"],
        (tree.attempt write).2 = none ∧ tree.goal? write = some ["out", "a.txt"] ∧
          ¬ tree.Changes write ["out", "b.txt"] ∧
          (tree.attempt write).1.content? ["out", "b.txt"] ≠ tree.content? ["out", "b.txt"]) ∧
      ((named "a.txt").attempt ⟨"out/a.txt", "new", .append⟩).1.content? ["out", "b.txt"] ≠
        (named "a.txt").content? ["out", "b.txt"] := by
  decide +kernel

end WireCodecs
