import WireCodecs.Files.CodecFile
import WireCodecs.Proofs.Files.Leading
import WireCodecs.Proofs.Outcome

/-! What writing a codec file does to the tree. Directories are made where nothing was. A file that
is created takes its place beside which it was written, unless its sibling there is a link; a file
that is appended to keeps its place. The other names of the file that is written change with it, and
everything else stays as it is. -/

namespace WireCodecs.FileTree

section Places

variable {tree : FileTree} {follow : Bool} {path : String} {goal : FilePlace}

theorem place_eq_ok_iff_enters (h : Path.IsNamed path) :
    tree.place follow path = .ok goal ↔ Admissible path ∧ ∃ directory left,
      Enters tree maxLinks [] (Path.way path) directory left ∧
      tree.walk follow left directory [Path.lastName path] = .ok goal := by
  rw [place_eq_ok_iff, h.steps, walk_concat_eq_ok_iff]

/-- A path leads to its name in a directory, unless there is a link that is followed. -/
theorem enters_of_place (h : Path.IsNamed path)
    (hplace : tree.place follow path = .ok goal) :
    Admissible path ∧ IsName (Path.lastName path) ∧ ∃ directory left,
      Enters tree maxLinks [] (Path.way path) directory left ∧
      ((∀ target, tree.get? (directory ++ [Path.lastName path]) = some (.link target) →
        follow = false) → goal = directory ++ [Path.lastName path]) := by
  obtain ⟨hpath, directory, left, henters, hwalk⟩ := (place_eq_ok_iff_enters h).mp hplace
  have hdot := h.ne_dot
  have hdots := h.ne_dots
  have hname := ((walk_name_eq_ok_iff hdot hdots).mp hwalk).1
  refine ⟨hpath, hname, directory, left, henters, fun hlink => ?_⟩
  exact ((walk_single_eq_ok_iff hdot hdots hlink).mp hwalk).2

theorem place_of_enters (h : Path.IsNamed path) (hpath : Admissible path)
    (hname : IsName (Path.lastName path)) {directory : FilePlace} {left : Nat}
    (henters : Enters tree maxLinks [] (Path.way path) directory left)
    (hlink : ∀ target, tree.get? (directory ++ [Path.lastName path]) = some (.link target) →
      follow = false) : tree.place follow path = .ok (directory ++ [Path.lastName path]) := by
  rw [place_eq_ok_iff_enters h]
  refine ⟨hpath, directory, left, henters, ?_⟩
  exact (walk_single_eq_ok_iff hname.ne_dot hname.ne_dots hlink).mpr ⟨hname, rfl⟩

/-- A path that leads somewhere leads to its name in a directory if it is not followed further. -/
theorem exists_place_name (h : Path.IsNamed path) (hplace : tree.place follow path = .ok goal) :
    ∃ directory, tree.place false path = .ok (directory ++ [Path.lastName path]) := by
  obtain ⟨hpath, hname, directory, _, henters, -⟩ := enters_of_place h hplace
  exact ⟨directory, place_of_enters h hpath hname henters fun _ _ => rfl⟩

/-- Following makes no difference where no link is. -/
theorem place_follow (h : Path.IsNamed path) (hgoal : tree.place false path = .ok goal)
    (hlink : ∀ target, tree.get? goal ≠ some (.link target)) :
    tree.place true path = .ok goal := by
  obtain ⟨hpath, hname, directory, _, henters, hends⟩ := enters_of_place h hgoal
  obtain rfl := hends fun _ _ => rfl
  exact place_of_enters h hpath hname henters fun target htarget => absurd htarget (hlink target)

end Places

section Directories

variable {tree tree' : FileTree}

/-- Whether a tree differs from another one only by directories that were not there. -/
structure Grows (tree tree' : FileTree) : Prop where
  get? : ∀ place, tree'.get? place = tree.get? place ∨
    tree.get? place = none ∧ tree'.get? place = some .directory
  sharesFile : ∀ place other, tree'.sharesFile place other = tree.sharesFile place other

namespace Grows

theorem refl (tree : FileTree) : Grows tree tree := ⟨fun _ => .inl rfl, fun _ _ => rfl⟩

theorem trans {tree'' : FileTree} (h : Grows tree tree') (h' : Grows tree' tree'') :
    Grows tree tree'' where
  get? place := by
    rcases h'.get? place with hlater | ⟨hnone, hlater⟩
    · rw [hlater]
      exact h.get? place
    · rcases h.get? place with hfirst | ⟨hnone', -⟩
      · exact .inr ⟨hfirst ▸ hnone, hlater⟩
      · exact .inr ⟨hnone', hlater⟩
  sharesFile place other := (h'.sharesFile place other).trans (h.sharesFile place other)

variable {place : FilePlace}

theorem get?_eq_some {entry : FileEntry ByteArray} (h : Grows tree tree')
    (hentry : tree.get? place = some entry) : tree'.get? place = some entry := by
  rcases h.get? place with h | ⟨hnone, -⟩
  · rw [h, hentry]
  · simp [hentry] at hnone

theorem file_of_get? {content : ByteArray} (h : Grows tree tree')
    (hentry : tree'.get? place = some (.file content)) :
    tree.get? place = some (.file content) := by
  rcases h.get? place with h | ⟨-, hdirectory⟩
  · rw [← h, hentry]
  · simp [hentry] at hdirectory

theorem link_of_get? {target : String} (h : Grows tree tree')
    (hentry : tree'.get? place = some (.link target)) :
    tree.get? place = some (.link target) := by
  rcases h.get? place with h | ⟨-, hdirectory⟩
  · rw [← h, hentry]
  · simp [hentry] at hdirectory

theorem isAlone_iff (h : Grows tree tree') : tree'.IsAlone place ↔ tree.IsAlone place :=
  forall_congr' fun other => by rw [h.sharesFile]

end Grows

theorem grows_of_makeDirectory {path : String} (h : tree.makeDirectory path = .ok tree') :
    Grows tree tree' := by
  obtain ⟨place, -, h⟩ := bind_eq_ok_iff.mp h
  split at h
  · cases h
  · next hnone =>
    rw [pure_eq_ok_iff.mp h]
    refine ⟨fun other => ?_, fun first second => sharesFile_set_directory hnone⟩
    have hroot : place ≠ [] := by
      rintro rfl
      simp [get?_root] at hnone
    rw [get?_set hroot]
    split
    · next hother => exact .inr ⟨hother ▸ hnone, rfl⟩
    · exact .inl rfl

/-- Whether or not all of them can be made. The induction follows the way up to a directory that is
there. -/
theorem grows_makeDirectories (fuel : Nat) (path : String) :
    Grows tree (tree.makeDirectories fuel path).1 := by
  induction fuel generalizing path with
  | zero =>
    unfold makeDirectories
    split
    · exact .refl tree
    · split
      · next h => exact grows_of_makeDirectory h
      · exact .refl tree
      · exact .refl tree
  | succ fuel ih =>
    unfold makeDirectories
    split
    · exact .refl tree
    · split
      · next h => exact grows_of_makeDirectory h
      · split
        · next hfuel hparent =>
          cases hfuel
          have hgrown := ih ‹String›
          split
          · next heq =>
            rw [heq] at hgrown
            split
            · next h => exact hgrown.trans (grows_of_makeDirectory h)
            · exact hgrown
          · exact hgrown
        · exact .refl tree
      · exact .refl tree

theorem grows_makeParent (path : String) : Grows tree (tree.makeParent path).1 := by
  unfold makeParent
  split
  · exact .refl tree
  · exact grows_makeDirectories _ _

end Directories

section Contents

variable {tree tree' : FileTree} {extension path : String} {content : ByteArray}

/-- What is in the file at a place. -/
def content? (tree : FileTree) (place : FilePlace) : Option ByteArray :=
  match tree.get? place with
  | some (.file content) => some content
  | _ => none

theorem content?_eq_some_iff {place : FilePlace} :
    tree.content? place = some content ↔ tree.get? place = some (.file content) := by
  unfold content?
  split <;> simp_all

theorem Grows.content? (h : Grows tree tree') (place : FilePlace) :
    tree'.content? place = tree.content? place := by
  ext content
  rw [content?_eq_some_iff, content?_eq_some_iff]
  exact ⟨h.file_of_get?, h.get?_eq_some⟩

theorem readBytes_eq_ok_iff : tree.readBytes path = .ok content ↔
    ∃ place, tree.place true path = .ok place ∧ tree.content? place = some content := by
  rw [readBytes, bind_eq_ok_iff]
  refine exists_congr fun place => and_congr_right fun _ => ?_
  rw [content?_eq_some_iff]
  split
  · next hentry => simp [hentry, pure, Except.pure]
  all_goals
    next hentry => simp [hentry, throw, throwThe, MonadExceptOf.throw]

theorem openForWriting_eq_ok {place : FilePlace} {present : ByteArray}
    (hopen : tree.openForWriting path = .ok (place, present)) :
    tree.place true path = .ok place ∧ tree.get? place ≠ some .directory ∧
      present = (tree.content? place).getD ByteArray.empty := by
  unfold openForWriting at hopen
  split at hopen
  · obtain ⟨_, -, hopen⟩ := bind_eq_ok_iff.mp hopen
    cases hopen
  obtain ⟨found, hfound, hopen⟩ := bind_eq_ok_iff.mp hopen
  split at hopen
  · next hentry =>
    cases pure_eq_ok_iff.mp hopen
    exact ⟨hfound, by simp [hentry], by simp [content?, hentry]⟩
  · cases hopen
  · next hentry =>
    cases pure_eq_ok_iff.mp hopen
    exact ⟨hfound, by simp [hentry], by simp [content?, hentry]⟩
  · next hentry =>
    cases pure_eq_ok_iff.mp hopen
    exact ⟨hfound, by simp [hentry], by simp [content?, hentry]⟩

theorem write_eq_ok (hwrite : tree.write path content = .ok tree') :
    ∃ place, tree.place true path = .ok place ∧ tree.get? place ≠ some .directory ∧
      tree' = tree.fill place content := by
  obtain ⟨⟨place, present⟩, hopen, hwrite⟩ := bind_eq_ok_iff.mp hwrite
  obtain ⟨hplace, hdirectory, -⟩ := openForWriting_eq_ok hopen
  exact ⟨place, hplace, hdirectory, pure_eq_ok_iff.mp hwrite⟩

theorem append_eq_ok (happend : tree.append path content = .ok tree') :
    ∃ place, tree.place true path = .ok place ∧ tree.get? place ≠ some .directory ∧
      tree' = tree.fill place ((tree.content? place).getD ByteArray.empty ++ content) := by
  obtain ⟨⟨place, present⟩, hopen, happend⟩ := bind_eq_ok_iff.mp happend
  obtain ⟨hplace, hdirectory, rfl⟩ := openForWriting_eq_ok hopen
  exact ⟨place, hplace, hdirectory, pure_eq_ok_iff.mp happend⟩

/-- Only a path that ends in a name can be the target of a rename. -/
theorem rename_eq_ok_iff {source : String} : tree.rename source path = .ok tree' ↔
    Path.IsNamed path ∧ ∃ start goal entry, tree.place false source = .ok start ∧
      tree.place false path = .ok goal ∧ tree.stored? start = some entry ∧
      tree.get? goal ≠ some .directory ∧
      tree' = if tree.sharesFile start goal then tree else (tree.erase start).put goal entry := by
  constructor
  · intro hrename
    obtain ⟨start, hstart, hrename⟩ := bind_eq_ok_iff.mp hrename
    obtain ⟨goal, hgoal, hrename⟩ := bind_eq_ok_iff.mp hrename
    by_cases hstep : endsInStep path = true
    · rw [if_pos hstep] at hrename
      cases hrename
    by_cases hslash : Path.endsInSlash path = true
    · rw [if_neg hstep, if_pos hslash] at hrename
      cases hrename
    rw [if_neg hstep, if_neg hslash] at hrename
    have hempty : path ≠ "" := by
      rintro rfl
      cases hgoal
    have hpath : Path.IsNamed path :=
      .of_endsIn hempty (by simpa using hslash) (by simpa using hstep)
    rw [hpath.dropSlashes] at hgoal
    simp only at hrename
    split at hrename
    · cases hrename
    · cases hrename
    · next entry hentry hdirectory =>
      exact ⟨hpath, start, goal, entry, hstart, hgoal, hentry,
        fun h => hdirectory (get?_eq_directory_iff.mp h), pure_eq_ok_iff.mp hrename⟩
  · rintro ⟨hpath, start, goal, entry, hstart, hgoal, hentry, hdirectory, rfl⟩
    rw [rename, bind_eq_ok_iff]
    refine ⟨start, hstart, ?_⟩
    rw [hpath.dropSlashes, bind_eq_ok_iff]
    refine ⟨goal, hgoal, ?_⟩
    rw [hpath.endsInStep, hpath.endsInSlash]
    simp only [Bool.false_eq_true, if_false]
    split
    · next hnone => simp [hnone] at hentry
    · next hfound _ => exact absurd (get?_eq_directory_iff.mpr hfound) hdirectory
    · next hfound _ =>
      rw [hentry, Option.some.injEq] at hfound
      rw [hfound]
      rfl

end Contents

section CodecFiles

variable {tree tree' : FileTree} {extension path text : String}

/-- The temporary sibling of a file in a directory. -/
def sibling (directory : FilePlace) (path : String) : FilePlace :=
  directory ++ [Path.lastName path ++ ".tmp"]

theorem sibling_ne (directory : FilePlace) (path : String) :
    directory ++ [Path.lastName path] ≠ sibling directory path := by
  intro h
  have hname := List.singleton_inj.mp (List.append_inj' h rfl).2
  have hlength := congrArg String.length hname
  rw [String.length_append] at hlength
  simp at hlength

theorem ne_root {place : FilePlace} (h : tree.get? place ≠ some .directory) : place ≠ [] :=
  fun hroot => h (hroot ▸ rfl)

/-- A path that is followed to its end leads to no link. -/
theorem get?_ne_link_of_follow {place : FilePlace} (hplace : tree.place true path = .ok place)
    (target : String) : tree.get? place ≠ some (.link target) := fun htarget =>
  absurd (follow_eq_false_of_place hplace htarget) (by decide)

/-- A file that is written is no directory and no link before or after. -/
theorem get?_fill_eq_some_iff {place spot : FilePlace} {content : ByteArray}
    {entry : FileEntry ByteArray} (hdirectory : tree.get? place ≠ some .directory)
    (hlink : ∀ target, tree.get? place ≠ some (.link target))
    (hentry : ∀ found, entry ≠ .file found) :
    (tree.fill place content).get? spot = some entry ↔ tree.get? spot = some entry := by
  rw [get?_fill hdirectory hlink]
  split_ifs with hspot
  · have hfile : tree.get? spot ≠ some entry := by
      rcases hspot with rfl | hshares
      · cases entry with
        | directory => exact hdirectory
        | file found => exact absurd rfl (hentry found)
        | link target => exact hlink target
      · obtain ⟨found, -, hfound⟩ := get?_of_sharesFile hshares
        rw [hfound]
        exact fun heq => hentry found (Option.some.inj heq).symm
    exact iff_of_false (fun heq => hentry content (Option.some.inj heq).symm) hfile
  · rfl

/-- A file that is written where a path leads opens no way and closes none. -/
theorem place_fill_iff {follow : Bool} {other : String} {place goal : FilePlace}
    {content : ByteArray} (hplace : tree.place true path = .ok place)
    (hdirectory : tree.get? place ≠ some .directory) :
    (tree.fill place content).place follow other = .ok goal ↔
      tree.place follow other = .ok goal := by
  have hsame {spot : FilePlace} {entry : FileEntry ByteArray}
      (hentry : ∀ found, entry ≠ .file found) :
      (tree.fill place content).get? spot = some entry ↔ tree.get? spot = some entry :=
    get?_fill_eq_some_iff hdirectory (get?_ne_link_of_follow hplace) hentry
  exact ⟨fun h => place_mono h (fun spot => (hsame (by simp)).mp) fun spot target =>
      (hsame (by simp)).symm,
    fun h => place_mono h (fun spot => (hsame (by simp)).mpr) fun spot target => hsame (by simp)⟩

/-- A file is replaced in two steps, and the first stays if the second fails. -/
theorem cases_of_replaceFile {content : ByteArray} {fault : Option FileError}
    (hreplace : tree.replaceFile path content = (tree', fault)) :
    tree' = tree ∧ fault ≠ none ∨
      ∃ written, tree.write (Path.temporary path) content = .ok written ∧
        (tree' = written ∧ fault ≠ none ∧
            (∀ moved, written.rename (Path.temporary path) path ≠ .ok moved) ∨
          written.rename (Path.temporary path) path = .ok tree' ∧ fault = none) := by
  unfold replaceFile at hreplace
  simp only at hreplace
  split at hreplace
  · cases hreplace
    exact .inl ⟨rfl, by simp⟩
  next written hwrite =>
  refine .inr ⟨written, hwrite, ?_⟩
  split at hreplace
  · next moved hmove =>
    cases hreplace
    exact .inr ⟨hmove, rfl⟩
  · next hmove =>
    cases hreplace
    exact .inl ⟨rfl, by simp, by simp [hmove]⟩

theorem cases_of_extendFile {content : ByteArray} {fault : Option FileError}
    (hextend : tree.extendFile path content = (tree', fault)) :
    tree' = tree ∧ fault ≠ none ∨ tree.append path content = .ok tree' ∧ fault = none := by
  unfold extendFile at hextend
  split at hextend
  · next appended happend =>
    cases hextend
    exact .inr ⟨happend, rfl⟩
  · cases hextend
    exact .inl ⟨rfl, by simp⟩

/-- What is left when a file is written at `start` and then moved to `goal`. Other names of a file
that was at `start` are names of the file at `goal` then. Between two names of one file nothing is
moved. -/
structure Replaces (tree tree' : FileTree) (start goal : FilePlace) (content : ByteArray) :
    Prop where
  written : tree'.get? goal = some (.file content)
  cleared : tree'.get? start = if tree.sharesFile start goal then some (.file content) else none
  others : ∀ place, place ≠ start → place ≠ goal → tree'.get? place =
    if tree.sharesFile start place then some (.file content) else tree.get? place
  sharesFile : ∀ first second, first ≠ start → second ≠ start →
    (tree'.sharesFile first second ↔ first = goal ∧ second = goal ∨
      tree.sharesFile (if first = goal then start else first)
        (if second = goal then start else second))

namespace Replaces

variable {start goal place : FilePlace} {content : ByteArray}

theorem of_get? {entry : FileEntry ByteArray} (h : Replaces tree tree' start goal content)
    (hentry : ∀ found, entry ≠ .file found) (hplace : tree'.get? place = some entry) :
    tree.get? place = some entry := by
  have hfile : some (.file content) ≠ some entry := fun heq =>
    hentry content (Option.some.inj heq).symm
  by_cases hgoal : place = goal
  · exact absurd (h.written.symm.trans (hgoal ▸ hplace)) hfile
  by_cases hstart : place = start
  · rw [hstart, h.cleared] at hplace
    split at hplace
    · exact absurd hplace hfile
    · cases hplace
  · rw [h.others place hstart hgoal] at hplace
    split at hplace
    · exact absurd hplace hfile
    · exact hplace

theorem get?_eq_some {entry : FileEntry ByteArray} (h : Replaces tree tree' start goal content)
    (hentry : ∀ found, entry ≠ .file found) (hplace : tree.get? place = some entry)
    (hstart : tree.get? start ≠ some entry) (hgoal : place ≠ goal) :
    tree'.get? place = some entry := by
  rw [h.others place (fun heq => hstart (heq ▸ hplace)) hgoal, if_neg, hplace]
  intro hshares
  obtain ⟨found, -, hfound⟩ := get?_of_sharesFile hshares
  exact hentry found (Option.some.inj (hplace.symm.trans hfound))

section Alone

variable (h : Replaces tree tree' start goal content) (halone : tree.IsAlone start)
  (hne : start ≠ goal)
include h halone

theorem get?_of_ne (hplace : place ≠ start) :
    tree'.get? place = if place = goal then some (.file content) else tree.get? place := by
  split_ifs with hgoal
  · rw [hgoal, h.written]
  · rw [h.others place hplace hgoal, if_neg fun hshares => hplace (halone place hshares)]

include hne

theorem get?_start : tree'.get? start = none := by
  rw [h.cleared, if_neg fun hshares => hne (halone goal hshares).symm]

/-- The file that is moved has no other name, and the others get none. -/
theorem isAlone (hplace : place = goal ∨ tree.IsAlone place) : tree'.IsAlone place := by
  intro other hshares
  have hstart (spot : FilePlace) (hspot : tree'.sharesFile start spot) : False := by
    obtain ⟨_, hfound, -⟩ := get?_of_sharesFile hspot
    simp [h.get?_start halone hne] at hfound
  have hfirst : place ≠ start := fun heq => hstart other (heq ▸ hshares)
  have hsecond : other ≠ start := fun heq => hstart place (sharesFile_comm.mp (heq ▸ hshares))
  rcases (h.sharesFile place other hfirst hsecond).mp hshares with ⟨rfl, rfl⟩ | hshares
  · rfl
  by_cases hgoal : place = goal
  · rw [if_pos hgoal] at hshares
    split at hshares
    · next hother => rw [hother, hgoal]
    · exact absurd (halone other hshares) hsecond
  · rw [if_neg hgoal] at hshares
    have hother := (hplace.resolve_left hgoal) _ hshares
    split at hother
    · exact absurd hother.symm hfirst
    · exact hother

end Alone

end Replaces

/-- What is written at a place is moved from there. -/
theorem replaces_of_fill {start goal : FilePlace} {entry : FileEntry Nat} {content : ByteArray}
    (hdirectory : tree.get? start ≠ some .directory)
    (hlink : ∀ target, tree.get? start ≠ some (.link target)) (hne : start ≠ goal)
    (hover : tree.get? goal ≠ some .directory)
    (hentry : (tree.fill start content).stored? start = some entry)
    (hmoved : tree' = if (tree.fill start content).sharesFile start goal then
        tree.fill start content else ((tree.fill start content).erase start).put goal entry) :
    Replaces tree tree' start goal content := by
  have hget (place : FilePlace) : (tree.fill start content).get? place = if place = start ∨
      tree.sharesFile start place then some (.file content) else tree.get? place :=
    get?_fill hdirectory hlink
  have hshares (first second : FilePlace) : (tree.fill start content).sharesFile first second ↔
      first = start ∧ second = start ∨ tree.sharesFile first second :=
    sharesFile_fill hdirectory hlink
  have hsame : (tree.fill start content).sharesFile start goal ↔ tree.sharesFile start goal := by
    rw [hshares, or_iff_right fun h => hne h.2.symm]
  by_cases hname : tree.sharesFile start goal
  · rw [if_pos (hsame.mpr hname)] at hmoved
    subst hmoved
    -- Either of the two names can stand for the other.
    have hswap (place : FilePlace) : tree.sharesFile goal place ↔ tree.sharesFile start place :=
      ⟨sharesFile_trans hname, sharesFile_trans (sharesFile_comm.mp hname)⟩
    refine ⟨by rw [hget, if_pos (.inr hname)], by rw [hget, if_pos (.inl rfl), if_pos hname],
      fun place hstart _ => by rw [hget, if_congr (or_iff_right hstart) rfl rfl],
      fun first second hfirst hsecond => ?_⟩
    rw [hshares, or_iff_right fun h => hfirst h.1]
    split_ifs with hgoal hgoal' hgoal'
    · subst hgoal hgoal'
      simpa using sharesFile_trans (sharesFile_comm.mp hname) hname
    · rw [hgoal, hswap, or_iff_right fun h => hgoal' h.2]
    · rw [hgoal', sharesFile_comm, hswap, sharesFile_comm, or_iff_right fun h => hgoal h.1]
    · rw [or_iff_right fun h => hgoal h.1]
  · rw [if_neg fun h => hname (hsame.mp h)] at hmoved
    subst hmoved
    have hmove := get?_move (ne_root hdirectory) (ne_root hover) hentry
    refine ⟨by rw [hmove, if_pos rfl, hget, if_pos (.inl rfl)],
      by rw [hmove, if_neg hne, if_pos rfl, if_neg hname],
      fun place hstart hgoal => by
        rw [hmove, if_neg hgoal, if_neg hstart, hget, if_congr (or_iff_right hstart) rfl rfl],
      fun first second hfirst hsecond => ?_⟩
    rw [sharesFile_move (ne_root hdirectory) (ne_root hover) hentry, hshares]
    simp only [hfirst, hsecond, ne_eq, not_false_eq_true, or_true, true_and]
    refine or_congr_left (and_congr ?_ ?_)
    · split_ifs with hgoal <;> simp [hgoal, hfirst]
    · split_ifs with hgoal <;> simp [hgoal, hsecond]

/-- A file is written beside its path and moved there, if its sibling is no link and lies
elsewhere. -/
theorem places_of_replaceFile {content : ByteArray}
    (hreplace : tree.replaceFile path content = (tree', none)) :
    Path.IsNamed path ∧ ∃ start goal, tree.place false (Path.temporary path) = .ok start ∧
      tree.place false path = .ok goal ∧
      ((∀ target, tree.get? start ≠ some (.link target)) →
        tree.get? start ≠ some .directory ∧ (start ≠ goal →
          tree.get? goal ≠ some .directory ∧ Replaces tree tree' start goal content)) := by
  obtain ⟨written, hwrite, hcases⟩ :=
    (cases_of_replaceFile hreplace).resolve_left fun h => h.2 rfl
  obtain ⟨hrename, -⟩ := hcases.resolve_left fun h => h.2.1 rfl
  obtain ⟨place, hplace, hdirectory, rfl⟩ := write_eq_ok hwrite
  obtain ⟨hpath, start, goal, entry, hstart, hgoal, hentry, hover, hmoved⟩ :=
    rename_eq_ok_iff.mp hrename
  rw [place_fill_iff hplace hdirectory] at hstart hgoal
  refine ⟨hpath, start, goal, hstart, hgoal, fun hlink => ?_⟩
  have hfollow := place_follow (isNamed_of_place hplace hdirectory) hstart hlink
  obtain rfl : start = place := Except.ok.inj (hfollow.symm.trans hplace)
  rw [ne_eq, get?_fill_eq_some_iff hdirectory hlink (by simp)] at hover
  exact ⟨hdirectory, fun hne =>
    ⟨hover, replaces_of_fill hdirectory hlink hne hover hentry hmoved⟩⟩

/-- A file is replaced through its sibling. -/
theorem exists_of_replaceFile {content : ByteArray} (h : Path.HasExtension extension path)
    (hreplace : tree.replaceFile path content = (tree', none)) :
    Admissible path ∧ IsName (Path.lastName path) ∧ ∃ directory left,
      Enters tree maxLinks [] (Path.way path) directory left ∧
      tree.place false (Path.temporary path) = .ok (sibling directory path) ∧
      ((∀ target, tree.get? (sibling directory path) ≠ some (.link target)) →
        tree.get? (directory ++ [Path.lastName path]) ≠ some .directory ∧
        tree.get? (sibling directory path) ≠ some .directory ∧
        Replaces tree tree' (sibling directory path) (directory ++ [Path.lastName path])
          content) := by
  obtain ⟨-, start, goal, hstart, hgoal, hrest⟩ := places_of_replaceFile hreplace
  obtain ⟨-, -, other, _, hother, hleads⟩ :=
    enters_of_place h.hasExtension_temporary.isNamed hstart
  obtain ⟨hpath, hname, directory, left, henters, hends⟩ := enters_of_place h.isNamed hgoal
  rw [h.way_temporary] at hother
  rw [h.lastName_temporary] at hleads
  -- The ways to the file and to its sibling are the same.
  obtain ⟨rfl, rfl⟩ := henters.eq_of_settles (.refl tree) hother
  obtain rfl := hends fun _ _ => rfl
  obtain rfl := hleads fun _ _ => rfl
  refine ⟨hpath, hname, _, _, henters, hstart, fun hlink => ?_⟩
  obtain ⟨hdirectory, hrest⟩ := hrest hlink
  obtain ⟨hover, hreplaces⟩ := hrest (sibling_ne _ path).symm
  exact ⟨hover, hdirectory, hreplaces⟩

/-- A file that is no link is extended where it is. -/
theorem exists_of_extendFile {content : ByteArray} (h : Path.IsNamed path)
    (hextend : tree.extendFile path content = (tree', none)) :
    Admissible path ∧ IsName (Path.lastName path) ∧ ∃ directory left,
      Enters tree maxLinks [] (Path.way path) directory left ∧
      ((∀ target, tree.get? (directory ++ [Path.lastName path]) ≠ some (.link target)) →
        tree.get? (directory ++ [Path.lastName path]) ≠ some .directory ∧
        tree' = tree.fill (directory ++ [Path.lastName path])
          ((tree.content? (directory ++ [Path.lastName path])).getD ByteArray.empty ++
            content)) := by
  obtain ⟨happend, -⟩ := (cases_of_extendFile hextend).resolve_left fun h => h.2 rfl
  obtain ⟨goal, hgoal, hdirectory, rfl⟩ := append_eq_ok happend
  obtain ⟨hpath, hname, directory, left, henters, hends⟩ := enters_of_place h hgoal
  refine ⟨hpath, hname, directory, left, henters, fun hlink => ?_⟩
  obtain rfl := hends fun target htarget => absurd htarget (hlink target)
  exact ⟨hdirectory, rfl⟩

/-- A text is written if the directory of the file can be made. -/
theorem cases_of_writeText {mode : WriteMode} {fault : Option FileError}
    (hwrite : tree.writeText path text mode = (tree', fault)) :
    tree' = (tree.makeParent path).1 ∧ fault ≠ none ∨
      (tree.makeParent path).1.putFile path text.toUTF8 mode = (tree', fault) := by
  unfold writeText at hwrite
  split at hwrite
  · next hparent =>
    rw [hparent]
    exact .inr hwrite
  · next hfailed =>
    refine .inl ⟨by rw [hwrite], ?_⟩
    rintro rfl
    exact hfailed tree' hwrite

theorem cases_of_writeCodec {mode : WriteMode} {fault : Option FileError}
    (hwrite : tree.writeCodec path text mode = (tree', fault)) :
    tree' = (tree.makeParent path).1 ∧ fault ≠ none ∨
      (tree.makeParent path).1.putFile path (sealedText text).toUTF8 mode = (tree', fault) :=
  cases_of_writeText hwrite

theorem putFile_of_writeCodec {mode : WriteMode}
    (hwrite : tree.writeCodec path text mode = (tree', none)) :
    (tree.makeParent path).1.putFile path (sealedText text).toUTF8 mode = (tree', none) :=
  (cases_of_writeCodec hwrite).resolve_left fun h => h.2 rfl

end CodecFiles

end WireCodecs.FileTree
