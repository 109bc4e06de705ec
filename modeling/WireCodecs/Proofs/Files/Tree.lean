import Mathlib.Logic.Basic
import Mathlib.Tactic.SplitIfs
import WireCodecs.Files.Tree

/-! What the operations on a tree change. Putting and erasing an entry change one place, writing a
file changes all of its names, and a new file has one name only. -/

namespace WireCodecs.FileTree

section Entries

theorem lookup_cons_eq_ite (place key : FilePlace) (entry : FileEntry Nat)
    (entries : List (FilePlace × FileEntry Nat)) :
    ((key, entry) :: entries).lookup place =
      if place = key then some entry else entries.lookup place := by
  by_cases h : place = key
  · simp [h]
  · have hb : (place == key) = false := beq_eq_false_iff_ne.mpr h
    simp [List.lookup_cons, hb, h]

theorem lookup_setEntry (place other : FilePlace) (entry : FileEntry Nat)
    (entries : List (FilePlace × FileEntry Nat)) :
    (setEntry place entry entries).lookup other =
      if other = place then some entry else entries.lookup other := by
  induction entries with
  | nil => simp [setEntry, lookup_cons_eq_ite]
  | cons first rest ih =>
    obtain ⟨key, found⟩ := first
    by_cases hk : key = place
    · by_cases ho : other = place <;> simp [setEntry, lookup_cons_eq_ite, hk, ho]
    · by_cases ho : other = place
      · subst ho; simp [setEntry, lookup_cons_eq_ite, hk, Ne.symm hk, ih]
      · simp [setEntry, lookup_cons_eq_ite, hk, ho, ih]

theorem lookup_filter_ne (place other : FilePlace) (entries : List (FilePlace × FileEntry Nat)) :
    (entries.filter (·.1 != place)).lookup other =
      if other = place then none else entries.lookup other := by
  induction entries with
  | nil => simp
  | cons first rest ih =>
    obtain ⟨key, found⟩ := first
    by_cases hk : key = place
    · have hskip : ((key, found) :: rest).filter (·.1 != place) = rest.filter (·.1 != place) := by
        simp [hk]
      rw [hskip, ih, lookup_cons_eq_ite, hk]
      by_cases ho : other = place <;> simp [ho]
    · by_cases ho : other = place
      · subst ho; simp [hk, Ne.symm hk, lookup_cons_eq_ite, ih]
      · simp [hk, ho, lookup_cons_eq_ite, ih]

end Entries

variable {tree : FileTree} {place other : FilePlace} {number : Nat} {content : ByteArray}

section Lookup

theorem get?_root (tree : FileTree) : tree.get? [] = some .directory :=
  rfl

theorem get?_eq_none_iff : tree.get? place = none ↔ tree.stored? place = none := by
  simp [get?]

theorem get?_eq_directory_iff :
    tree.get? place = some .directory ↔ tree.stored? place = some .directory := by
  unfold get?
  rcases tree.stored? place with _ | _ | _ | _ <;> simp [FileEntry.map]

theorem get?_eq_link_iff {target : String} :
    tree.get? place = some (.link target) ↔ tree.stored? place = some (.link target) := by
  unfold get?
  rcases tree.stored? place with _ | _ | _ | _ <;> simp [FileEntry.map]

theorem get?_eq_file_iff : tree.get? place = some (.file content) ↔
    ∃ number, tree.stored? place = some (.file number) ∧ tree.contents number = content := by
  unfold get?
  rcases tree.stored? place with _ | _ | _ | _ <;> simp [FileEntry.map]

theorem sharesFile_iff : tree.sharesFile place other ↔
    ∃ number, tree.stored? place = some (.file number) ∧
      tree.stored? other = some (.file number) := by
  unfold sharesFile
  split
  · next hplace hother =>
    rw [hplace, hother, beq_iff_eq]
    constructor
    · rintro rfl
      exact ⟨_, rfl, rfl⟩
    · rintro ⟨number, hnumber, hnumber'⟩
      exact (FileEntry.file.inj (Option.some.inj hnumber)).trans
        (FileEntry.file.inj (Option.some.inj hnumber')).symm
  · next hne =>
    refine iff_of_false Bool.false_ne_true ?_
    rintro ⟨number, hplace, hother⟩
    exact hne _ _ hplace hother

theorem sharesFile_comm : tree.sharesFile place other ↔ tree.sharesFile other place := by
  rw [sharesFile_iff, sharesFile_iff]
  exact exists_congr fun _ => and_comm

theorem sharesFile_trans {third : FilePlace} (h : tree.sharesFile place other)
    (h' : tree.sharesFile other third) : tree.sharesFile place third := by
  obtain ⟨number, hplace, hother⟩ := sharesFile_iff.mp h
  obtain ⟨number', hother', hthird⟩ := sharesFile_iff.mp h'
  obtain rfl := FileEntry.file.inj (Option.some.inj (hother.symm.trans hother'))
  exact sharesFile_iff.mpr ⟨number, hplace, hthird⟩

/-- The names of a file have one content. -/
theorem get?_of_sharesFile (h : tree.sharesFile place other) :
    ∃ content, tree.get? place = some (.file content) ∧ tree.get? other = some (.file content) := by
  obtain ⟨number, hplace, hother⟩ := sharesFile_iff.mp h
  exact ⟨_, get?_eq_file_iff.mpr ⟨number, hplace, rfl⟩, get?_eq_file_iff.mpr ⟨number, hother, rfl⟩⟩

theorem lt_fresh (h : tree.stored? place = some (.file number)) : number < tree.fresh := by
  have habove : ∀ entries : List (FilePlace × FileEntry Nat), ∀ entry ∈ entries,
      entry.2.above ≤ entries.foldr (fun entry next => max entry.2.above next) 0 := by
    intro entries
    induction entries with
    | nil => exact fun _ h => absurd h List.not_mem_nil
    | cons first rest ih =>
      intro entry hentry
      rcases List.mem_cons.mp hentry with rfl | hentry
      · exact Nat.le_max_left _ _
      · exact Nat.le_trans (ih entry hentry) (Nat.le_max_right _ _)
  rw [stored?] at h
  split at h
  · cases h
  · obtain ⟨before, after, hentries, -⟩ := List.lookup_eq_some_iff.mp h
    exact habove tree.entries (place, .file number) (by simp [hentries])

end Lookup

section Changes

theorem stored?_put (h : place ≠ []) (entry : FileEntry Nat) :
    (tree.put place entry).stored? other =
      if other = place then some entry else tree.stored? other := by
  by_cases hroot : other = []
  · simp [stored?, hroot, Ne.symm h]
  · simp [stored?, put, lookup_setEntry, hroot]

/-- What is found after an entry was put somewhere, also if that is the root. -/
theorem of_stored?_put {entry found : FileEntry Nat}
    (h : (tree.put place entry).stored? other = some found) :
    other = place ∧ found = entry ∨ tree.stored? other = some found := by
  by_cases hroot : place = []
  · right
    by_cases hother : other = [] <;> simpa [stored?, put, lookup_setEntry, hroot, hother] using h
  · rw [stored?_put hroot] at h
    split_ifs at h with heq
    · exact .inl ⟨heq, (Option.some.inj h).symm⟩
    · exact .inr h

theorem stored?_erase (h : place ≠ []) :
    (tree.erase place).stored? other = if other = place then none else tree.stored? other := by
  by_cases hroot : other = []
  · simp [stored?, hroot, Ne.symm h]
  · simp [stored?, erase, lookup_filter_ne, hroot]

/-- A place holds what was put there last, and all other places hold what they held. -/
theorem get?_set (h : place ≠ []) (entry : FileEntry ByteArray) :
    (tree.set place entry).get? other = if other = place then some entry else tree.get? other := by
  have hput (stored : FileEntry Nat) : (tree.put place stored).get? other =
      if other = place then some (stored.map tree.contents) else tree.get? other := by
    rw [get?, stored?_put h]
    split_ifs <;> rfl
  cases entry with
  | directory => exact hput .directory
  | link target => exact hput (.link target)
  | file content =>
    change ((tree.put place (.file tree.fresh)).stored? other).map
      (·.map fun number => if number = tree.fresh then content else tree.contents number) = _
    rw [stored?_put h]
    split_ifs with hother
    · simp [FileEntry.map]
    · rw [get?]
      -- The new number is that of no file that was there.
      rcases hstored : tree.stored? other with _ | _ | number | _
      · rfl
      · rfl
      · simp [FileEntry.map, Nat.ne_of_lt (lt_fresh hstored)]
      · rfl

/-- A file that is written holds what was written, under all of its names. -/
theorem get?_fill (hdirectory : tree.get? place ≠ some .directory)
    (hlink : ∀ target, tree.get? place ≠ some (.link target)) :
    (tree.fill place content).get? other =
      if other = place ∨ tree.sharesFile place other then some (.file content)
      else tree.get? other := by
  have hroot : place ≠ [] := fun heq => hdirectory (heq ▸ tree.get?_root)
  rcases hstored : tree.stored? place with _ | _ | number | target
  · have hshares : ¬ tree.sharesFile place other := fun h => by
      obtain ⟨number, hnumber, -⟩ := sharesFile_iff.mp h
      simp [hstored] at hnumber
    rw [if_congr (or_iff_left hshares) rfl rfl]
    simp only [fill, hstored, get?_set hroot]
  · exact absurd (get?_eq_directory_iff.mpr hstored) hdirectory
  · have hshares : other = place ∨ tree.sharesFile place other ↔
        tree.stored? other = some (.file number) := by
      constructor
      · rintro (rfl | h)
        · exact hstored
        · obtain ⟨number', hplace, hother⟩ := sharesFile_iff.mp h
          rw [hstored] at hplace
          rw [hplace, hother]
      · exact fun h => .inr (sharesFile_iff.mpr ⟨number, hstored, h⟩)
    simp only [fill, hstored]
    change (tree.stored? other).map (·.map fun other => if other = number then content
      else tree.contents other) = _
    rw [get?]
    split_ifs with hother
    · simp [hshares.mp hother, FileEntry.map]
    · rcases hfound : tree.stored? other with _ | _ | number' | _
      · rfl
      · rfl
      · have hne : number' ≠ number := fun heq => hother (hshares.mpr (heq ▸ hfound))
        simp [FileEntry.map, hne]
      · rfl
  · exact absurd (get?_eq_link_iff.mpr hstored) (hlink target)

/-- Which places are names of one file, after a file was written. -/
theorem sharesFile_fill {first second : FilePlace} (hdirectory : tree.get? place ≠ some .directory)
    (hlink : ∀ target, tree.get? place ≠ some (.link target)) :
    (tree.fill place content).sharesFile first second ↔
      first = place ∧ second = place ∨ tree.sharesFile first second := by
  have hroot : place ≠ [] := fun heq => hdirectory (heq ▸ tree.get?_root)
  rcases hstored : tree.stored? place with _ | _ | number | target
  · simp only [fill, hstored, sharesFile_iff]
    change (∃ number, (tree.put place (.file tree.fresh)).stored? first = some (.file number) ∧
      (tree.put place (.file tree.fresh)).stored? second = some (.file number)) ↔ _
    simp only [stored?_put hroot]
    have hfresh {spot : FilePlace} : tree.stored? spot ≠ some (.file tree.fresh) :=
      fun h => absurd (lt_fresh h) (Nat.lt_irrefl _)
    by_cases hfirst : first = place <;> by_cases hsecond : second = place
    · simp [hfirst, hsecond]
    · simp [hfirst, hsecond, hstored, hfresh]
    · simp [hfirst, hsecond, hstored, hfresh]
    · simp [hfirst, hsecond]
  · exact absurd (get?_eq_directory_iff.mpr hstored) hdirectory
  · have hsame : (tree.fill place content).sharesFile first second =
        tree.sharesFile first second := by
      simp only [fill, hstored]
      rfl
    have hself : tree.sharesFile place place := sharesFile_iff.mpr ⟨number, hstored, hstored⟩
    rw [hsame, iff_or_self]
    rintro ⟨rfl, rfl⟩
    exact hself
  · exact absurd (get?_eq_link_iff.mpr hstored) (hlink target)

/-- Making a directory where nothing was makes no names and takes none away. -/
theorem sharesFile_set_directory {first second : FilePlace} (hnone : tree.get? place = none) :
    (tree.set place .directory).sharesFile first second = tree.sharesFile first second := by
  have hroot : place ≠ [] := by
    rintro rfl
    simp [get?_root] at hnone
  have hstored := get?_eq_none_iff.mp hnone
  rw [Bool.eq_iff_iff, sharesFile_iff, sharesFile_iff]
  change (∃ number, (tree.put place .directory).stored? first = some (.file number) ∧
    (tree.put place .directory).stored? second = some (.file number)) ↔ _
  simp only [stored?_put hroot]
  by_cases hfirst : first = place <;> by_cases hsecond : second = place <;>
    simp [hfirst, hsecond, hstored]

section Moving

variable {start goal : FilePlace} {entry : FileEntry Nat} (hstart : start ≠ []) (hgoal : goal ≠ [])
  (hentry : tree.stored? start = some entry)
include hstart hgoal hentry

theorem stored?_move (other : FilePlace) : ((tree.erase start).put goal entry).stored? other =
    if other = goal ∨ other ≠ start then tree.stored? (if other = goal then start else other)
    else none := by
  rw [stored?_put hgoal, stored?_erase hstart]
  by_cases hother : other = goal <;> by_cases hother' : other = start <;>
    simp [hother, hother', hentry]

theorem get?_move (other : FilePlace) : ((tree.erase start).put goal entry).get? other =
    if other = goal then tree.get? start else if other = start then none else tree.get? other := by
  have hmap (spot : FilePlace) : ((tree.erase start).put goal entry).get? spot =
      (((tree.erase start).put goal entry).stored? spot).map (·.map tree.contents) :=
    rfl
  rw [hmap, stored?_move hstart hgoal hentry]
  by_cases hother : other = goal
  · simp [hother, get?]
  · by_cases hother' : other = start
    · subst hother'
      simp [hother]
    · simp [hother, hother', get?]

/-- What is moved keeps its other names. -/
theorem sharesFile_move {first second : FilePlace} :
    ((tree.erase start).put goal entry).sharesFile first second ↔
      (first = goal ∨ first ≠ start) ∧ (second = goal ∨ second ≠ start) ∧
        tree.sharesFile (if first = goal then start else first)
          (if second = goal then start else second) := by
  simp only [sharesFile_iff, stored?_move hstart hgoal hentry]
  split_ifs with hfirst hsecond <;> simp_all

end Moving

end Changes

section OneName

/-- No other place is a name of the file at the place. -/
def IsAlone (tree : FileTree) (place : FilePlace) : Prop :=
  ∀ other, tree.sharesFile place other → other = place

/-- Every file has one name. -/
def HasNoHardLinks (tree : FileTree) : Prop := ∀ place, tree.IsAlone place

/-- A file that is put somewhere is a new one. -/
theorem HasNoHardLinks.set (h : tree.HasNoHardLinks) (place : FilePlace)
    (entry : FileEntry ByteArray) : (tree.set place entry).HasNoHardLinks := by
  intro first second hshares
  obtain ⟨number, hfirst, hsecond⟩ := sharesFile_iff.mp hshares
  -- What is put at a place has no number that was there.
  have hstored (spot : FilePlace) (hspot : (tree.set place entry).stored? spot =
      some (.file number)) :
      spot = place ∧ number = tree.fresh ∨ tree.stored? spot = some (.file number) := by
    cases entry with
    | directory => exact (of_stored?_put hspot).imp_left fun h => by cases h.2
    | link => exact (of_stored?_put hspot).imp_left fun h => by cases h.2
    | file content => exact (of_stored?_put hspot).imp_left fun h => ⟨h.1, FileEntry.file.inj h.2⟩
  have hfresh {spot : FilePlace} (hspot : tree.stored? spot = some (.file number)) :
      number ≠ tree.fresh :=
    Nat.ne_of_lt (lt_fresh hspot)
  rcases hstored first hfirst with ⟨rfl, hnumber⟩ | hfirst' <;>
    rcases hstored second hsecond with ⟨rfl, hnumber'⟩ | hsecond'
  · rfl
  · exact absurd hnumber (hfresh hsecond')
  · exact absurd hnumber' (hfresh hfirst')
  · exact h first second (sharesFile_iff.mpr ⟨number, hfirst', hsecond'⟩)

theorem hasNoHardLinks_empty : empty.HasNoHardLinks := by
  intro place other hshares
  obtain ⟨number, hplace, -⟩ := sharesFile_iff.mp hshares
  rw [stored?] at hplace
  split at hplace <;> simp [empty] at hplace

theorem hasNoHardLinks_ofEntries (entries : List (FilePlace × FileEntry ByteArray)) :
    (ofEntries entries).HasNoHardLinks := by
  suffices h : ∀ tree : FileTree, tree.HasNoHardLinks →
      (entries.foldl (fun tree entry => tree.set entry.1 entry.2) tree).HasNoHardLinks from
    h empty hasNoHardLinks_empty
  induction entries with
  | nil => exact fun _ h => h
  | cons first rest ih => exact fun tree h => ih _ (h.set first.1 first.2)

end OneName

end WireCodecs.FileTree
