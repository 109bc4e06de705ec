import WireCodecs.Proofs.Files.Path
import WireCodecs.Proofs.Files.Tree

/-! Walking to a directory. The steps of a path but the last go through directories and links, and
only what is there matters to them. A walk that still succeeds after directories were made and
links replaced by files ends where it ended before, and without links it ends where the steps
alone say. -/

namespace WireCodecs.FileTree

/-- A step that is the name of an entry. -/
structure IsName (name : String) : Prop where
  ne_dot : name ≠ "."
  ne_dots : name ≠ ".."
  short : name.utf8ByteSize ≤ maxName

/-- The steps `todo` from `place` lead to the directory `goal`, with `left` of the `links` links
that can be followed not used up. -/
inductive Enters (tree : FileTree) : (links : Nat) → (place : FilePlace) → (todo : List String) →
    (goal : FilePlace) → (left : Nat) → Prop
  | here {links : Nat} {place : FilePlace} : Enters tree links place [] place links
  | stay {links left : Nat} {place goal : FilePlace} {name : String} {rest : List String}
      (hname : name = ".") (h : Enters tree links place rest goal left) :
      Enters tree links place (name :: rest) goal left
  | up {links left : Nat} {place goal : FilePlace} {name : String} {rest : List String}
      (hname : name = "..") (h : Enters tree links place.dropLast rest goal left) :
      Enters tree links place (name :: rest) goal left
  | directory {links left : Nat} {place goal : FilePlace} {name : String} {rest : List String}
      (hname : IsName name) (hentry : tree.get? (place ++ [name]) = some .directory)
      (h : Enters tree links (place ++ [name]) rest goal left) :
      Enters tree links place (name :: rest) goal left
  | link {links left : Nat} {place goal : FilePlace} {name target : String} {rest : List String}
      (hname : IsName name) (hentry : tree.get? (place ++ [name]) = some (.link target))
      (h : Enters tree links (if Path.isAbsolute target then [] else place) (steps target ++ rest)
        goal left) :
      Enters tree (links + 1) place (name :: rest) goal left

section Walks

variable {tree : FileTree} {follow : Bool} {links : Nat} {place goal : FilePlace}

theorem walk_nil : tree.walk follow links place [] = .ok place := by
  cases links <;> rfl

theorem walk_dot (rest : List String) :
    tree.walk follow links place ("." :: rest) = tree.walk follow links place rest := by
  cases links <;> rfl

theorem walk_dots (rest : List String) :
    tree.walk follow links place (".." :: rest) = tree.walk follow links place.dropLast rest := by
  cases links <;> rfl

/-- What the step by a name leads to, by the entry that is there. -/
inductive Passes (tree : FileTree) (follow : Bool) (links : Nat) (place : FilePlace) (name : String)
    (rest : List String) (goal : FilePlace) : Prop
  | directory (hentry : tree.get? (place ++ [name]) = some .directory)
      (h : tree.walk follow links (place ++ [name]) rest = .ok goal)
  | link {target : String} {fewer : Nat}
      (hentry : tree.get? (place ++ [name]) = some (.link target))
      (hfollow : rest ≠ [] ∨ follow = true) (hlinks : links = fewer + 1)
      (h : tree.walk follow fewer (if Path.isAbsolute target then [] else place)
        (steps target ++ rest) = .ok goal)
  | last (hrest : rest = []) (hgoal : goal = place ++ [name])
      (hdirectory : tree.get? goal ≠ some .directory)
      (hlink : ∀ target, tree.get? goal = some (.link target) → follow = false)

/-- A step by a name leads on from a directory and from a link that is followed; from all else it
must be the last. -/
theorem walk_name_eq_ok_iff {name : String} {rest : List String} (hdot : name ≠ ".")
    (hdots : name ≠ "..") :
    tree.walk follow links place (name :: rest) = .ok goal ↔
      IsName name ∧ Passes tree follow links place name rest goal := by
  -- Following a link is a walk with one link less, and fails where none is left.
  have hjump : ∃ jump, (∀ todo, tree.walk follow links todo = tree.walkWith follow jump todo) ∧
      ∀ start todo, jump start todo = .ok goal ↔
        ∃ fewer, links = fewer + 1 ∧ tree.walk follow fewer start todo = .ok goal := by
    cases links with
    | zero => exact ⟨_, fun _ => rfl, by simp⟩
    | succ links => exact ⟨_, fun _ => rfl, by simp⟩
  obtain ⟨jump, hwalk, hjump⟩ := hjump
  have hname : IsName name ↔ ¬ maxName < name.utf8ByteSize :=
    ⟨fun h => Nat.not_lt.mpr h.short, fun h => ⟨hdot, hdots, Nat.not_lt.mp h⟩⟩
  rw [hwalk, walkWith.eq_4 _ _ _ _ _ _ hdot hdots, hname]
  split
  · next hlong => simp [hlong]
  next hshort =>
  simp only [hshort, not_false_eq_true, true_and]
  constructor
  · intro h
    split at h
    · next hentry => exact .directory hentry (by rw [hwalk]; exact h)
    · next hentry =>
      obtain ⟨hrest, rfl⟩ : rest = [] ∧ place ++ [name] = goal := by
        split at h <;> simp_all
      exact .last hrest rfl (by simp [hentry]) (by simp [hentry])
    · next target hentry =>
      split at h
      · next hlast =>
        rw [Bool.and_eq_true, List.isEmpty_iff, Bool.not_eq_true'] at hlast
        cases h
        exact .last hlast.1 rfl (by simp [hentry]) fun _ _ => hlast.2
      · next hgo =>
        obtain ⟨fewer, hlinks, h⟩ := (hjump _ _).mp h
        refine .link hentry ?_ hlinks h
        cases rest <;> simp_all
    · next hentry =>
      obtain ⟨hrest, rfl⟩ : rest = [] ∧ place ++ [name] = goal := by
        split at h <;> simp_all
      exact .last hrest rfl (by simp [hentry]) (by simp [hentry])
  · rintro (⟨hentry, h⟩ | ⟨hentry, hfollow, hlinks, h⟩ | ⟨rfl, rfl, hdirectory, hlink⟩)
    · rw [hwalk] at h
      simp only [hentry, h]
    · have hgo : (rest.isEmpty && !follow) = false := by
        cases rest <;> simp_all
      simp only [hentry, hgo, Bool.false_eq_true, if_false]
      exact (hjump _ _).mpr ⟨_, hlinks, h⟩
    · split
      · next hentry => exact absurd hentry hdirectory
      · rfl
      · next target hentry => simp [hlink target hentry]
      · rfl

/-- The walk to a name in a directory goes to the directory first. The induction is on the links
that can still be followed, and for each number of them on the steps. -/
theorem walk_concat_eq_ok_iff {todo : List String} {name : String} :
    tree.walk follow links place (todo ++ [name]) = .ok goal ↔
      ∃ directory left, Enters tree links place todo directory left ∧
        tree.walk follow left directory [name] = .ok goal := by
  induction links using Nat.strongRecOn generalizing place todo with
  | ind links ihLinks =>
  induction todo generalizing place with
  | nil =>
    constructor
    · exact fun h => ⟨place, links, .here, h⟩
    · rintro ⟨_, _, ⟨⟩, h⟩
      exact h
  | cons step rest ih =>
    rw [List.cons_append]
    by_cases hdot : step = "."
    · rw [hdot, walk_dot, ih]
      constructor
      · exact fun ⟨directory, left, hd, h⟩ => ⟨directory, left, .stay rfl hd, h⟩
      · rintro ⟨directory, left, hd, h⟩
        cases hd with
        | stay _ hd => exact ⟨directory, left, hd, h⟩
        | up hname => exact absurd hname (by decide)
        | directory hname => exact absurd rfl hname.ne_dot
        | link hname => exact absurd rfl hname.ne_dot
    by_cases hdots : step = ".."
    · rw [hdots, walk_dots, ih]
      constructor
      · exact fun ⟨directory, left, hd, h⟩ => ⟨directory, left, .up rfl hd, h⟩
      · rintro ⟨directory, left, hd, h⟩
        cases hd with
        | stay hname => exact absurd hname (by decide)
        | up _ hd => exact ⟨directory, left, hd, h⟩
        | directory hname => exact absurd rfl hname.ne_dots
        | link hname => exact absurd rfl hname.ne_dots
    rw [walk_name_eq_ok_iff hdot hdots]
    constructor
    · rintro ⟨hname, ⟨hentry, h⟩ | ⟨hentry, -, rfl, h⟩ | ⟨hrest, -, -, -⟩⟩
      · obtain ⟨directory, left, hd, h⟩ := ih.mp h
        exact ⟨directory, left, .directory hname hentry hd, h⟩
      · rw [← List.append_assoc] at h
        obtain ⟨directory, left, hd, h⟩ := (ihLinks _ (Nat.lt_succ_self _)).mp h
        exact ⟨directory, left, .link hname hentry hd, h⟩
      · simp at hrest
    · rintro ⟨directory, left, hd, h⟩
      cases hd with
      | stay hname => exact absurd hname hdot
      | up hname => exact absurd hname hdots
      | directory hname hentry hd => exact ⟨hname, .directory hentry (ih.mpr ⟨_, _, hd, h⟩)⟩
      | link hname hentry hd =>
        refine ⟨hname, .link hentry (.inl (by simp)) rfl ?_⟩
        rw [← List.append_assoc]
        exact (ihLinks _ (Nat.lt_succ_self _)).mpr ⟨_, _, hd, h⟩

/-- At an entry that is neither a directory nor a link the walk ends. -/
theorem walk_single_eq_ok_iff {name : String} (hdot : name ≠ ".") (hdots : name ≠ "..")
    (hlink : ∀ target, tree.get? (place ++ [name]) = some (.link target) → follow = false) :
    tree.walk follow links place [name] = .ok goal ↔ IsName name ∧ goal = place ++ [name] := by
  rw [walk_name_eq_ok_iff hdot hdots]
  refine and_congr_right fun _ => ?_
  constructor
  · rintro (⟨-, h⟩ | ⟨hentry, hfollow, -, -⟩ | ⟨-, rfl, -, -⟩)
    · rw [walk_nil] at h
      cases h
      rfl
    · simp_all
    · rfl
  · rintro rfl
    by_cases hentry : tree.get? (place ++ [name]) = some .directory
    · exact .directory hentry walk_nil
    · exact .last rfl rfl hentry hlink

end Walks

section Places

variable {tree tree' : FileTree} {links left left' : Nat} {place goal goal' : FilePlace}
  {todo : List String}

/-- The entries of `tree` that a way to a directory can go through are still there in `tree'`,
except that a link may have given way to a file. -/
structure Settles (tree tree' : FileTree) : Prop where
  directory : ∀ place, tree.get? place = some .directory → tree'.get? place = some .directory
  link : ∀ place target, tree.get? place = some (.link target) →
    tree'.get? place = some (.link target) ∨ ∃ content, tree'.get? place = some (.file content)

theorem Settles.refl (tree : FileTree) : Settles tree tree := ⟨fun _ h => h, fun _ _ h => .inl h⟩

/-- A way that is still open leads where it led before. -/
theorem Enters.eq_of_settles (h : Enters tree links place todo goal left)
    (hs : Settles tree tree') (h' : Enters tree' links place todo goal' left') :
    goal' = goal ∧ left' = left := by
  induction h with
  | here =>
    cases h'
    exact ⟨rfl, rfl⟩
  | stay hdot _ ih =>
    cases h' with
    | stay _ h' => exact ih h'
    | up hdots => simp [hdot] at hdots
    | directory hname => exact absurd hdot hname.ne_dot
    | link hname => exact absurd hdot hname.ne_dot
  | up hdots _ ih =>
    cases h' with
    | stay hdot => simp [hdots] at hdot
    | up _ h' => exact ih h'
    | directory hname => exact absurd hdots hname.ne_dots
    | link hname => exact absurd hdots hname.ne_dots
  | directory hname hentry _ ih =>
    cases h' with
    | stay hdot => exact absurd hdot hname.ne_dot
    | up hdots => exact absurd hdots hname.ne_dots
    | directory _ _ h' => exact ih h'
    | link _ hentry' => simp [hs.directory _ hentry] at hentry'
  | link hname hentry _ ih =>
    cases h' with
    | stay hdot => exact absurd hdot hname.ne_dot
    | up hdots => exact absurd hdots hname.ne_dots
    | directory _ hentry' =>
      rcases hs.link _ _ hentry with h | ⟨_, h⟩ <;> simp [h] at hentry'
    | link _ hentry' h' =>
      rcases hs.link _ _ hentry with h | ⟨_, h⟩
      · rw [h, Option.some.injEq, FileEntry.link.injEq] at hentry'
        subst hentry'
        exact ih h'
      · simp [h] at hentry'

/-- A way stays open as long as the directories and links that it may go through stay. -/
theorem Enters.mono (h : Enters tree links place todo goal left)
    (hdirectory : ∀ place, tree.get? place = some .directory → tree'.get? place = some .directory)
    (hlink : ∀ place target, tree.get? place = some (.link target) →
      tree'.get? place = some (.link target)) : Enters tree' links place todo goal left := by
  induction h with
  | here => exact .here
  | stay hname _ ih => exact .stay hname ih
  | up hname _ ih => exact .up hname ih
  | directory hname hentry _ ih => exact .directory hname (hdirectory _ hentry) ih
  | link hname hentry _ ih => exact .link hname (hlink _ _ hentry) ih

end Places

section LinkFree

/-- Whether a tree has no symbolic links. -/
def LinkFree (tree : FileTree) : Prop := ∀ place target, tree.get? place ≠ some (.link target)

theorem linkFree_empty : LinkFree empty := by
  intro place target h
  rw [get?_eq_link_iff, stored?] at h
  split at h <;> simp [empty] at h

theorem LinkFree.put {tree : FileTree} (h : tree.LinkFree) (place : FilePlace)
    {entry : FileEntry Nat} (hentry : ∀ target, entry ≠ .link target) :
    (tree.put place entry).LinkFree := by
  intro other target htarget
  rcases of_stored?_put (get?_eq_link_iff.mp htarget) with ⟨-, heq⟩ | hlink
  · exact hentry target heq.symm
  · exact h other target (get?_eq_link_iff.mpr hlink)

theorem LinkFree.record {tree : FileTree} (h : tree.LinkFree) (number : Nat)
    (content : ByteArray) : (tree.record number content).LinkFree :=
  fun place target htarget =>
    have hstored : (tree.record number content).stored? place = some (.link target) :=
      get?_eq_link_iff.mp htarget
    h place target (get?_eq_link_iff.mpr hstored)

theorem LinkFree.set {tree : FileTree} (h : tree.LinkFree) (place : FilePlace)
    {entry : FileEntry ByteArray} (hentry : ∀ target, entry ≠ .link target) :
    (tree.set place entry).LinkFree := by
  cases entry with
  | directory => exact h.put place (by simp)
  | file content => exact (h.put place (by simp)).record _ content
  | link target => exact absurd rfl (hentry target)

theorem linkFree_ofEntries {entries : List (FilePlace × FileEntry ByteArray)}
    (h : ∀ entry ∈ entries, ∀ target, entry.2 ≠ .link target) : (ofEntries entries).LinkFree := by
  suffices hfold : ∀ tree : FileTree, tree.LinkFree →
      (entries.foldl (fun tree entry => tree.set entry.1 entry.2) tree).LinkFree from
    hfold empty linkFree_empty
  induction entries with
  | nil => exact fun _ h => h
  | cons first rest ih =>
    exact fun tree hfree => ih (fun entry hmem => h entry (List.mem_cons_of_mem _ hmem)) _
      (hfree.set first.1 (h first List.mem_cons_self))

/-- Where one step leads without links. -/
def step (place : FilePlace) (name : String) : FilePlace :=
  if name = "." then place else if name = ".." then place.dropLast else place ++ [name]

/-- The place that a path names where no links are followed. -/
def named (path : String) : FilePlace :=
  (Path.way path).foldl step [] ++ [Path.lastName path]

/-- Without links the steps alone say where a way leads. -/
theorem LinkFree.eq_foldl_of_enters {tree : FileTree} {links left : Nat} {place goal : FilePlace}
    {todo : List String} (hfree : tree.LinkFree) (h : Enters tree links place todo goal left) :
    goal = todo.foldl step place := by
  induction h with
  | here => rfl
  | stay hdot _ ih => rw [ih, List.foldl_cons, step, if_pos hdot]
  | up hdots _ ih =>
    rw [ih, List.foldl_cons, step, if_neg (by simp [hdots]), if_pos hdots]
  | directory hname _ _ ih =>
    rw [ih, List.foldl_cons, step, if_neg hname.ne_dot, if_neg hname.ne_dots]
  | link _ hentry => exact absurd hentry (hfree _ _)

end LinkFree

end WireCodecs.FileTree
