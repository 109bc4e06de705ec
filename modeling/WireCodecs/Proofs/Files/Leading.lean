import WireCodecs.Proofs.Files.Walk

/-! Where a path leads. A walk that succeeds goes through directories and links to a directory, or
to an entry that is none, or to a place where nothing is yet. It can be taken again as long as the
directories stay and the links are the same ones. All directories above a place that is entered are
there, so a path that ends in a slash or in a step leads to a directory or nowhere. -/

namespace WireCodecs.FileTree

section Leading

variable {tree tree' : FileTree} {follow : Bool} {links : Nat} {place goal : FilePlace}
  {todo : List String}

/-- The steps `todo` from `place` lead to `goal`, following no more links than `links`. -/
inductive Leads (tree : FileTree) (follow : Bool) : (links : Nat) → (place : FilePlace) →
    (todo : List String) → (goal : FilePlace) → Prop
  | here {links : Nat} {place : FilePlace} : Leads tree follow links place [] place
  | stay {links : Nat} {place goal : FilePlace} {rest : List String}
      (h : Leads tree follow links place rest goal) :
      Leads tree follow links place ("." :: rest) goal
  | up {links : Nat} {place goal : FilePlace} {rest : List String}
      (h : Leads tree follow links place.dropLast rest goal) :
      Leads tree follow links place (".." :: rest) goal
  | directory {links : Nat} {place goal : FilePlace} {name : String} {rest : List String}
      (hname : IsName name) (hentry : tree.get? (place ++ [name]) = some .directory)
      (h : Leads tree follow links (place ++ [name]) rest goal) :
      Leads tree follow links place (name :: rest) goal
  | link {links : Nat} {place goal : FilePlace} {name target : String} {rest : List String}
      (hname : IsName name) (hentry : tree.get? (place ++ [name]) = some (.link target))
      (hfollow : rest ≠ [] ∨ follow = true)
      (h : Leads tree follow links (if Path.isAbsolute target then [] else place)
        (steps target ++ rest) goal) : Leads tree follow (links + 1) place (name :: rest) goal
  | last {links : Nat} {place : FilePlace} {name : String} (hname : IsName name)
      (hentry : tree.get? (place ++ [name]) ≠ some .directory)
      (hlink : ∀ target, tree.get? (place ++ [name]) = some (.link target) → follow = false) :
      Leads tree follow links place [name] (place ++ [name])

theorem walk_of_leads (h : Leads tree follow links place todo goal) :
    tree.walk follow links place todo = .ok goal := by
  induction h with
  | here => exact walk_nil
  | stay _ ih => rw [walk_dot, ih]
  | up _ ih => rw [walk_dots, ih]
  | directory hname hentry _ ih =>
    exact (walk_name_eq_ok_iff hname.ne_dot hname.ne_dots).mpr ⟨hname, .directory hentry ih⟩
  | link hname hentry hfollow _ ih =>
    exact (walk_name_eq_ok_iff hname.ne_dot hname.ne_dots).mpr ⟨hname, .link hentry hfollow rfl ih⟩
  | last hname hentry hlink =>
    exact (walk_name_eq_ok_iff hname.ne_dot hname.ne_dots).mpr ⟨hname, .last rfl rfl hentry hlink⟩

/-- The induction is on the links that can still be followed, and for each number of them on the
steps. -/
theorem walk_eq_ok_iff :
    tree.walk follow links place todo = .ok goal ↔ Leads tree follow links place todo goal := by
  refine ⟨fun h => ?_, walk_of_leads⟩
  induction links using Nat.strongRecOn generalizing place todo with
  | ind links ihLinks =>
  induction todo generalizing place with
  | nil =>
    rw [walk_nil] at h
    cases h
    exact .here
  | cons step rest ih =>
    by_cases hdot : step = "."
    · subst hdot
      exact .stay (ih (walk_dot rest ▸ h))
    by_cases hdots : step = ".."
    · subst hdots
      exact .up (ih (walk_dots rest ▸ h))
    obtain ⟨hname, hpasses⟩ := (walk_name_eq_ok_iff hdot hdots).mp h
    cases hpasses with
    | directory hentry hrest => exact .directory hname hentry (ih hrest)
    | link hentry hfollow hlinks hrest =>
      subst hlinks
      exact .link hname hentry hfollow (ihLinks _ (Nat.lt_succ_self _) hrest)
    | last hrest hgoal hentry hlink =>
      subst hrest hgoal
      exact .last hname hentry hlink

/-- What leads somewhere still leads there as long as directories stay and links are the same. -/
theorem Leads.mono (h : Leads tree follow links place todo goal)
    (hdirectory : ∀ place, tree.get? place = some .directory → tree'.get? place = some .directory)
    (hlink : ∀ place target,
      tree'.get? place = some (.link target) ↔ tree.get? place = some (.link target)) :
    Leads tree' follow links place todo goal := by
  induction h with
  | here => exact .here
  | stay _ ih => exact .stay ih
  | up _ ih => exact .up ih
  | directory hname hentry _ ih => exact .directory hname (hdirectory _ hentry) ih
  | link hname hentry hfollow _ ih => exact .link hname ((hlink _ _).mpr hentry) hfollow ih
  | @last _ place name hname _ hends =>
    -- A directory may have been made where nothing was.
    by_cases hentry : tree'.get? (place ++ [name]) = some .directory
    · exact .directory hname hentry .here
    · exact .last hname hentry fun target htarget => hends target ((hlink _ _).mp htarget)

end Leading

section Opening

variable {tree : FileTree} {follow : Bool} {links left : Nat} {place goal : FilePlace}
  {todo : List String}

/-- Whether a place is a directory, and all places above it are. -/
def IsOpen (tree : FileTree) (place : FilePlace) : Prop :=
  ∀ front, front <+: place → tree.get? front = some .directory

theorem IsOpen.root (tree : FileTree) : tree.IsOpen [] := by
  intro front hfront
  rw [List.prefix_nil.mp hfront]
  rfl

theorem IsOpen.get? (h : tree.IsOpen place) : tree.get? place = some .directory :=
  h place (List.prefix_refl place)

theorem IsOpen.dropLast (h : tree.IsOpen place) : tree.IsOpen place.dropLast :=
  fun front hfront => h front (hfront.trans (List.dropLast_prefix place))

theorem IsOpen.concat (h : tree.IsOpen place) {name : String}
    (hentry : tree.get? (place ++ [name]) = some .directory) : tree.IsOpen (place ++ [name]) := by
  intro front hfront
  rcases List.prefix_concat_iff.mp hfront with rfl | hfront
  · exact hentry
  · exact h front hfront

theorem Enters.isOpen (h : Enters tree links place todo goal left) (hopen : tree.IsOpen place) :
    tree.IsOpen goal := by
  induction h with
  | here => exact hopen
  | stay _ _ ih => exact ih hopen
  | up _ _ ih => exact ih hopen.dropLast
  | directory _ hentry _ ih => exact ih (hopen.concat hentry)
  | link _ _ _ ih =>
    refine ih ?_
    split_ifs
    · exact .root tree
    · exact hopen

/-- A link at the end of the way is not followed. -/
theorem Leads.follow_eq_false (h : Leads tree follow links place todo goal)
    (hopen : tree.IsOpen place) {target : String} (htarget : tree.get? goal = some (.link target)) :
    follow = false := by
  induction h with
  | here => simp [hopen.get?] at htarget
  | stay _ ih => exact ih hopen htarget
  | up _ ih => exact ih hopen.dropLast htarget
  | directory _ hentry _ ih => exact ih (hopen.concat hentry) htarget
  | link _ _ _ _ ih =>
    refine ih ?_ htarget
    split_ifs
    · exact .root tree
    · exact hopen
  | last _ _ hlink => exact hlink target htarget

/-- After a step to the same or the parent directory the walk is at a directory. -/
theorem get?_of_walk_step {name : String} (hname : name = "." ∨ name = "..")
    (h : tree.walk follow links [] (todo ++ [name]) = .ok goal) :
    tree.get? goal = some .directory := by
  obtain ⟨directory, left, henters, hlast⟩ := walk_concat_eq_ok_iff.mp h
  have hopen := henters.isOpen (.root tree)
  rcases hname with rfl | rfl
  · rw [walk_dot, walk_nil] at hlast
    cases hlast
    exact hopen.get?
  · rw [walk_dots, walk_nil] at hlast
    cases hlast
    exact hopen.dropLast.get?

/-- A path that a file system takes. -/
structure Admissible (path : String) : Prop where
  nul : Char.ofNat 0 ∉ path.toList
  ne_empty : path ≠ ""
  short : path.utf8ByteSize ≤ maxPath

theorem place_eq_ok_iff {path : String} : tree.place follow path = .ok goal ↔
    Admissible path ∧ tree.walk follow maxLinks [] (steps path) = .ok goal := by
  unfold place
  split
  · next hnul => simpa using fun h : Admissible path => absurd hnul (by simpa using h.nul)
  split
  · next hempty => simpa using fun h : Admissible path => absurd hempty h.ne_empty
  split
  · next hlong => simpa using fun h : Admissible path => absurd hlong (Nat.not_lt.mpr h.short)
  next hnul hempty hlong =>
  rw [and_iff_right ⟨by simpa using hnul, hempty, Nat.not_lt.mp hlong⟩]

/-- A path that leads to what is no directory ends in the name of an entry. -/
theorem isNamed_of_place {path : String} (h : tree.place follow path = .ok goal)
    (hgoal : tree.get? goal ≠ some .directory) : Path.IsNamed path := by
  obtain ⟨hpath, hwalk⟩ := place_eq_ok_iff.mp h
  have hslash : Path.endsInSlash path = false := by
    rw [← Bool.not_eq_true]
    intro hslash
    rw [steps, if_pos hslash] at hwalk
    exact hgoal (get?_of_walk_step (.inl rfl) hwalk)
  refine .of_endsIn hpath.ne_empty hslash ?_
  rw [← Bool.not_eq_true]
  intro hstep
  have hlast : Path.lastName path = "." ∨ Path.lastName path = ".." := by
    rw [endsInStep, Path.segments_eq, List.getLast?_concat] at hstep
    split at hstep <;> simp_all
  have hne : Path.lastName path ≠ "" := by
    rcases hlast with h | h <;> rw [h] <;> decide
  rw [steps, if_neg (by simp [hslash]), Path.segments_eq, List.filter_append,
    List.filter_cons_of_pos (by simpa using hne), List.filter_nil] at hwalk
  exact hgoal (get?_of_walk_step hlast hwalk)

/-- A path still leads where it led as long as directories stay and links are the same. -/
theorem place_mono {tree' : FileTree} {path : String} (h : tree.place follow path = .ok goal)
    (hdirectory : ∀ place, tree.get? place = some .directory → tree'.get? place = some .directory)
    (hlink : ∀ place target,
      tree'.get? place = some (.link target) ↔ tree.get? place = some (.link target)) :
    tree'.place follow path = .ok goal := by
  obtain ⟨hpath, hwalk⟩ := place_eq_ok_iff.mp h
  exact place_eq_ok_iff.mpr ⟨hpath, walk_of_leads ((walk_eq_ok_iff.mp hwalk).mono hdirectory hlink)⟩

/-- A link at the end of a path is not followed. -/
theorem follow_eq_false_of_place {path target : String} (h : tree.place follow path = .ok goal)
    (htarget : tree.get? goal = some (.link target)) : follow = false :=
  (walk_eq_ok_iff.mp (place_eq_ok_iff.mp h).2).follow_eq_false (.root tree) htarget

end Opening

end WireCodecs.FileTree
