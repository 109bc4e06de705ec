import Mathlib.Data.List.Nodup
import Mathlib.Data.List.Perm.Basic
import WireCodecs.Proofs.Files.Path
import WireCodecs.Proofs.Outcome

/-! Listing a directory. In a tree in which every place has one entry and no name has a slash in it,
the files that a directory holds are listed under distinct paths. -/

namespace WireCodecs

theorem Path.join_inj {base name other : String} (hname : '/' ∉ name.toList)
    (hother : '/' ∉ other.toList) (h : join base name = join base other) : name = other := by
  have hlast {name : String} (h : '/' ∉ name.toList) : lastName name = name := by
    rw [lastName, segments_of_notMem h]
    rfl
  rw [← hlast hname, ← hlast hother, ← lastName_join base name, h, lastName_join]

namespace FileTree

/-- No place has two entries, and no name on the way to one has a slash in it, as it is for every
tree that a file system holds. -/
structure IsProper (tree : FileTree) : Prop where
  nodup : (tree.entries.map (·.1)).Nodup
  notMem_slash : ∀ entry ∈ tree.entries, ∀ name ∈ entry.1, '/' ∉ name.toList

/-- The name under which a place is found directly below another. -/
def nameBelow? (place other : FilePlace) : Option String :=
  match other.getLast? with
  | some name => if other.dropLast = place then some name else none
  | none => none

theorem nameBelow?_eq_some_iff {place other : FilePlace} {name : String} :
    nameBelow? place other = some name ↔ other = place ++ [name] := by
  rcases List.eq_nil_or_concat other with rfl | ⟨before, last, rfl⟩
  · simp [nameBelow?]
  · simp [nameBelow?]

variable {tree : FileTree}

theorem names_eq (tree : FileTree) (place : FilePlace) :
    tree.names place = (tree.entries.map (·.1)).filterMap (nameBelow? place) := by
  rw [List.filterMap_map]
  rfl

theorem mem_names_iff {place : FilePlace} {name : String} :
    name ∈ tree.names place ↔ place ++ [name] ∈ tree.entries.map (·.1) := by
  simp only [names_eq, List.mem_filterMap, nameBelow?_eq_some_iff,
    exists_eq_right]

theorem IsProper.nodup_names (h : tree.IsProper) (place : FilePlace) :
    (tree.names place).Nodup := by
  rw [names_eq]
  refine h.nodup.filterMap fun other other' name hname hname' => ?_
  rw [nameBelow?_eq_some_iff.mp hname, nameBelow?_eq_some_iff.mp hname']

theorem IsProper.nodup_of_listFiles (h : tree.IsProper) {path : String} {paths : List String}
    (hpaths : tree.listFiles path = .ok paths) : paths.Nodup := by
  obtain ⟨place, -, hfilter⟩ := bind_eq_ok_iff.mp hpaths
  have hsublist : paths.Sublist ((tree.names place).map (Path.join path)) := by
    refine sublist_of_filterMapM (fun name found hfound => ?_) hfilter
    simp only at hfound
    split at hfound
    · cases hfound
    · split at hfound
      · cases hfound
      · cases hfound
        rfl
      · split at hfound <;> cases hfound
  have hslash {name : String} (hname : name ∈ tree.names place) : '/' ∉ name.toList := by
    obtain ⟨entry, hentry, hplace⟩ := List.mem_map.mp (mem_names_iff.mp hname)
    exact h.notMem_slash entry hentry name (by simp [hplace])
  refine hsublist.nodup ((h.nodup_names place).map_on fun name hname other hother heq => ?_)
  exact Path.join_inj (hslash hname) (hslash hother) heq

end FileTree

end WireCodecs
