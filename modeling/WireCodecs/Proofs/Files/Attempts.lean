import WireCodecs.Proofs.Files.Appending

/-! Attempts to write files, one after another, whether they succeed or fail. An attempt that fails
changes no file but a temporary sibling, and one that succeeds changes one file besides, which may
have several names if it is appended to. So what is in a file follows from the attempts that succeed
for it: the texts since it was last created. -/

namespace WireCodecs

theorem exists_eq_append_iff {name last : String} :
    (∃ stem, name = stem ++ last) ↔ last.toList <:+ name.toList := by
  constructor
  · rintro ⟨stem, rfl⟩
    exact ⟨stem.toList, by simp⟩
  · rintro ⟨stem, hstem⟩
    exact ⟨String.ofList stem, by rw [← String.toList_inj, ← hstem]; simp⟩

/-- Whether the name of a file is not that of a temporary sibling. -/
def Path.IsLive (path : String) : Prop := ∀ stem, Path.fileName? path ≠ some (stem ++ ".tmp")

instance (path : String) : Decidable (Path.IsLive path) :=
  decidable_of_iff (∀ name ∈ Path.fileName? path, ¬ ".tmp".toList <:+ name.toList) <| by
    simp only [← exists_eq_append_iff, not_exists]
    exact ⟨fun h stem hname => h _ hname stem rfl, fun h name hname stem hstem =>
      h stem (hstem ▸ hname)⟩

theorem Path.IsCodec.isLive {path : String} (h : Path.IsCodec path) : Path.IsLive path := by
  obtain ⟨extension, hpath, htmp⟩ := h
  intro stem hname
  rw [hpath.isNamed.fileName?, Option.some.injEq] at hname
  obtain ⟨front, -, -, hfront⟩ := hpath.name
  have hdot : stem ++ ".tmp" = stem ++ "." ++ "tmp" := by
    rw [String.append_assoc]
    rfl
  rw [hfront, hdot] at hname
  exact htmp (Path.extension_unique hpath.period (by decide) hname)

namespace FileTree

/-- Whether the name of a place is that of a temporary sibling. -/
def IsTemporary (place : FilePlace) : Prop := ∃ folder stem, place = folder ++ [stem ++ ".tmp"]

instance (place : FilePlace) : Decidable (IsTemporary place) :=
  decidable_of_iff (∃ name ∈ place.getLast?, ".tmp".toList <:+ name.toList) <| by
    simp only [← exists_eq_append_iff, Option.mem_def, List.getLast?_eq_some_iff]
    constructor
    · rintro ⟨name, ⟨folder, rfl⟩, stem, rfl⟩
      exact ⟨folder, stem, rfl⟩
    · rintro ⟨folder, stem, rfl⟩
      exact ⟨_, ⟨folder, rfl⟩, stem, rfl⟩

/-- The tree that a file is written to, with its directory made as far as possible. -/
def made (tree : FileTree) (write : CodecWrite) : FileTree := (tree.makeParent write.path).1

/-- The place that a file goes to. Only what is appended goes through a link. -/
def goal? (tree : FileTree) (write : CodecWrite) : Option FilePlace :=
  ((tree.made write).place (write.mode = .append) write.path).toOption

/-- The place that a file is written to first if it is created. -/
def start? (tree : FileTree) (write : CodecWrite) : Option FilePlace :=
  ((tree.made write).place false (Path.temporary write.path)).toOption

def attempt (tree : FileTree) (write : CodecWrite) : FileTree × Option FileError :=
  tree.writeCodec write.path write.text write.mode

/-- Whether a write changes what is at a place, if it succeeds. What is created is a file of its
own; what is appended to is found under all of its names. -/
def Changes (tree : FileTree) (write : CodecWrite) (place : FilePlace) : Prop :=
  ∃ goal ∈ tree.goal? write, place = goal ∨ write.mode = .append ∧ tree.sharesFile goal place

instance (tree : FileTree) (write : CodecWrite) (place : FilePlace) :
    Decidable (tree.Changes write place) :=
  inferInstanceAs (Decidable (∃ goal ∈ tree.goal? write, _))

/-- Whether a file that is created is not written through a link first, nor over a file that has
another name, unless that is the name of a temporary sibling as well. -/
structure WritesBeside (tree : FileTree) (write : CodecWrite) : Prop where
  link : write.mode = .create → (tree.made write).isLink (Path.temporary write.path) = false
  names : write.mode = .create → ∀ start ∈ tree.start? write, ∀ place,
    tree.sharesFile start place → IsTemporary place

/-- What an attempt to write a file leaves. -/
structure Leaves (tree : FileTree) (write : CodecWrite) (after : FileTree)
    (fault : Option FileError) : Prop where
  /-- The place of the file holds what was written, and so do its other names if it was appended to.
  It is read there, unless what was created took the place of a link. -/
  written : fault = none → ∃ goal, tree.goal? write = some goal ∧
    (∀ place, tree.Changes write place →
      after.content? place = some (write.apply (tree.content? place))) ∧
    ((write.mode = .create → (tree.made write).isLink write.path = false) →
      after.readBytes write.path = .ok (write.apply (tree.content? goal)))
  /-- A file that was created has no temporary sibling any more. -/
  cleared : fault = none → write.mode = .create →
    ∃ start, tree.start? write = some start ∧ after.get? start = none
  /-- A file that could be read is kept. -/
  kept : fault ≠ none → write.mode = .create → ∀ content,
    tree.readBytes write.path = .ok content → after.readBytes write.path = .ok content
  /-- The other files stay as they are. -/
  others : ∀ place, ¬ IsTemporary place → (fault = none → ¬ tree.Changes write place) →
    after.content? place = tree.content? place
  /-- No link is made. -/
  links : ∀ place target, after.get? place = some (.link target) →
    tree.get? place = some (.link target)
  /-- If every file has one name, it stays so. -/
  names : tree.HasNoHardLinks → after.HasNoHardLinks

section Places

variable {tree grown : FileTree} {path : String} {place goal : FilePlace} {content : ByteArray}

theorem isTemporary_of_place (hpath : Path.IsNamed (Path.temporary path))
    (hplace : tree.place false (Path.temporary path) = .ok place) : IsTemporary place := by
  obtain ⟨stem, hstem⟩ := hpath.exists_lastName_temporary
  obtain ⟨-, -, directory, -, -, hends⟩ := enters_of_place hpath hplace
  exact ⟨directory, stem, hstem ▸ hends fun _ _ => rfl⟩

theorem not_isTemporary_of_place (hlive : Path.IsLive path) (hpath : Path.IsNamed path)
    (hplace : tree.place false path = .ok place) : ¬ IsTemporary place := by
  rintro ⟨folder, stem, rfl⟩
  obtain ⟨-, -, directory, -, -, hends⟩ := enters_of_place hpath hplace
  have hname := List.singleton_inj.mp (List.append_inj' (hends fun _ _ => rfl) rfl).2
  exact hlive stem (by rw [hpath.fileName?, hname])

/-- A sibling that is no link is written where it is. -/
theorem isTemporary_of_follow (hlink : tree.isLink (Path.temporary path) = false)
    (hplace : tree.place true (Path.temporary path) = .ok place)
    (hdirectory : tree.get? place ≠ some .directory) :
    tree.place false (Path.temporary path) = .ok place ∧ IsTemporary place := by
  have hpath := isNamed_of_place hplace hdirectory
  obtain ⟨directory, hstart⟩ := exists_place_name hpath hplace
  have hfollow := place_follow hpath hstart (get?_ne_link_of_place hlink hstart)
  obtain rfl := Except.ok.inj (hfollow.symm.trans hplace)
  exact ⟨hstart, isTemporary_of_place hpath hstart⟩

theorem Keeps.place_eq_ok {follow : Bool} (h : Keeps tree grown)
    (hplace : tree.place follow path = .ok place) : grown.place follow path = .ok place :=
  place_mono hplace h.directory h.link

theorem Grows.readBytes (h : Grows tree grown) (hread : tree.readBytes path = .ok content) :
    grown.readBytes path = .ok content := by
  obtain ⟨place, hplace, hcontent⟩ := readBytes_eq_ok_iff.mp hread
  exact readBytes_eq_ok_iff.mpr ⟨place, h.keeps.place_eq_ok hplace, by rw [h.content?, hcontent]⟩

theorem grows_made (tree : FileTree) (write : CodecWrite) : Grows tree (tree.made write) :=
  grows_makeParent write.path

theorem goal?_eq_some_iff {write : CodecWrite} : tree.goal? write = some goal ↔
    (tree.made write).place (write.mode = .append) write.path = .ok goal := by
  unfold goal?
  cases (tree.made write).place (write.mode = .append) write.path <;> simp [Except.toOption]

end Places

section Steps

variable {tree after : FileTree} {write : CodecWrite} {fault : Option FileError}
  {content : ByteArray}

/-- If no file was written, all there was is kept. -/
theorem leaves_made (hfault : fault ≠ none) : Leaves tree write (tree.made write) fault where
  written h := absurd h hfault
  cleared h := absurd h hfault
  kept _ _ _ := (tree.grows_made write).readBytes
  others place _ _ := (tree.grows_made write).content? place
  links _ _ := (tree.grows_made write).link_of_get?
  names h place := (tree.grows_made write).isAlone_iff.mpr (h place)

theorem link_of_get?_fill {place spot : FilePlace} {target : String}
    (hdirectory : (tree.made write).get? place ≠ some .directory)
    (hlink : ∀ target, (tree.made write).get? place ≠ some (.link target))
    (h : ((tree.made write).fill place content).get? spot = some (.link target)) :
    tree.get? spot = some (.link target) :=
  (tree.grows_made write).link_of_get?
    ((get?_fill_eq_some_iff hdirectory hlink (by simp)).mp h)

theorem hasNoHardLinks_fill {place : FilePlace}
    (hdirectory : (tree.made write).get? place ≠ some .directory)
    (hlink : ∀ target, (tree.made write).get? place ≠ some (.link target))
    (h : tree.HasNoHardLinks) : ((tree.made write).fill place content).HasNoHardLinks :=
  fun spot => .fill hdirectory hlink ((tree.grows_made write).isAlone_iff.mpr (h spot))

/-- A file that can be read can be replaced. -/
theorem rename_of_readBytes {place : FilePlace}
    (hplace : tree.place true (Path.temporary write.path) = .ok place)
    (hdirectory : tree.get? place ≠ some .directory)
    (hstart : tree.place false (Path.temporary write.path) = .ok place)
    (hread : tree.readBytes write.path = .ok content) :
    ∃ renamed, (tree.fill place write.bytes).rename (Path.temporary write.path) write.path =
      .ok renamed := by
  have hlink := get?_ne_link_of_follow hplace
  obtain ⟨goal, hgoal, hfile⟩ := readBytes_eq_ok_iff.mp hread
  rw [content?_eq_some_iff] at hfile
  have hpath := isNamed_of_place hgoal (by simp [hfile])
  obtain ⟨directory, hname⟩ := exists_place_name hpath hgoal
  obtain ⟨number, hentry, -⟩ : ∃ number,
      (tree.fill place write.bytes).stored? place = some (.file number) ∧
        (tree.fill place write.bytes).contents number = write.bytes :=
    get?_eq_file_iff.mp (by rw [get?_fill hdirectory hlink, if_pos (.inl rfl)])
  refine ⟨_, rename_eq_ok_iff.mpr ⟨hpath, place, _, .file number,
    (place_fill_iff hplace hdirectory).mpr hstart, (place_fill_iff hplace hdirectory).mpr hname,
    hentry, fun hover => ?_, rfl⟩⟩
  rw [get?_fill_eq_some_iff hdirectory hlink (by simp)] at hover
  have hfollow := place_follow hpath hname (by simp [hover])
  obtain rfl := Except.ok.inj (hfollow.symm.trans hgoal)
  simp [hfile] at hover

/-- If a file cannot be created, at most its sibling was written. -/
theorem leaves_of_fault (hmode : write.mode = .create) (hbeside : tree.WritesBeside write)
    (hreplace : (tree.made write).replaceFile write.path write.bytes = (after, fault))
    (hfault : fault ≠ none) : Leaves tree write after fault := by
  have hgrown := tree.grows_made write
  rcases cases_of_replaceFile hreplace with
    ⟨rfl, -⟩ | ⟨written, hwrite, ⟨rfl, -, hrename⟩ | ⟨-, hnone⟩⟩
  · exact leaves_made hfault
  swap
  · exact absurd hnone hfault
  obtain ⟨place, hplace, hdirectory, rfl⟩ := write_eq_ok hwrite
  have hlink := get?_ne_link_of_follow hplace
  obtain ⟨hstart, htemporary⟩ := isTemporary_of_follow (hbeside.link hmode) hplace hdirectory
  refine ⟨fun h => absurd h hfault, fun h => absurd h hfault, fun _ _ content hread => ?_,
    fun other hother _ => ?_, fun _ _ => link_of_get?_fill hdirectory hlink,
    hasNoHardLinks_fill hdirectory hlink⟩
  · obtain ⟨renamed, hrenamed⟩ :=
      rename_of_readBytes hplace hdirectory hstart (hgrown.readBytes hread)
    exact absurd hrenamed (hrename renamed)
  · rw [← hgrown.content?]
    refine content?_congr ?_
    rw [get?_fill hdirectory hlink, if_neg]
    rintro (rfl | hshares)
    · exact hother htemporary
    · rw [hgrown.sharesFile] at hshares
      exact hother (hbeside.names hmode place (by simp [start?, hstart, Except.toOption]) other
        hshares)

/-- A file that is created replaces what was in its place, and its sibling is cleared. -/
theorem leaves_of_replaceFile (hmode : write.mode = .create) (hlive : Path.IsLive write.path)
    (hbeside : tree.WritesBeside write)
    (hreplace : (tree.made write).replaceFile write.path write.bytes = (after, none)) :
    Leaves tree write after none := by
  have hgrown := tree.grows_made write
  obtain ⟨hpath, start, goal, hstart, hgoal, hrest⟩ := places_of_replaceFile hreplace
  have hstartLink := get?_ne_link_of_place (hbeside.link hmode) hstart
  obtain ⟨hdirectory, hrest⟩ := hrest hstartLink
  have htemporary := isTemporary_of_place (isNamed_of_place hstart hdirectory) hstart
  have hlasting := not_isTemporary_of_place hlive hpath hgoal
  have hne : start ≠ goal := fun heq => hlasting (heq ▸ htemporary)
  obtain ⟨hover, hreplaces⟩ := hrest hne
  have hfirst : tree.start? write = some start := by
    rw [start?, hstart]
    rfl
  have hnames (place : FilePlace) (hshares : (tree.made write).sharesFile start place) :
      IsTemporary place := by
    rw [hgrown.sharesFile] at hshares
    exact hbeside.names hmode start hfirst place hshares
  have hplace : tree.goal? write = some goal := by
    rw [goal?_eq_some_iff, hmode]
    exact hgoal
  have hchanges (place : FilePlace) : tree.Changes write place ↔ place = goal := by
    simp [Changes, hplace, hmode]
  have happly (place : FilePlace) : write.apply (tree.content? place) = write.bytes := by
    rw [CodecWrite.apply, hmode]
  have hwritten : after.content? goal = some write.bytes :=
    content?_eq_some_iff.mpr hreplaces.written
  refine ⟨fun _ => ⟨goal, hplace, fun place hchange => ?_, fun hgoalLink => ?_⟩,
    fun _ _ => ⟨start, hfirst, ?_⟩, fun hfault => absurd rfl hfault, fun other hother hnot => ?_,
    fun other target hlink => hgrown.link_of_get? (hreplaces.of_get? (by simp) hlink),
    fun hone place => hreplaces.isAlone (hgrown.isAlone_iff.mpr (hone start)) hne
      (.inr (hgrown.isAlone_iff.mpr (hone place)))⟩
  · rw [(hchanges place).mp hchange, happly, hwritten]
  · have hgoalLink := get?_ne_link_of_place (hgoalLink hmode) hgoal
    have hkeeps := hreplaces.keeps hdirectory hover hstartLink hgoalLink
    have hfollow := hkeeps.place_eq_ok (place_follow hpath hgoal hgoalLink)
    exact readBytes_eq_ok_iff.mpr ⟨goal, hfollow, happly goal ▸ hwritten⟩
  · rw [hreplaces.cleared, if_neg fun hshares => hlasting (hnames goal hshares)]
  · rw [← hgrown.content?]
    refine content?_congr ?_
    rw [hreplaces.others other (fun heq => hother (heq ▸ htemporary))
      (fun heq => hnot rfl ((hchanges other).mpr heq)),
      if_neg fun hshares => hother (hnames other hshares)]

/-- A file that is appended to is extended in its place, under all of its names. -/
theorem leaves_of_extendFile (hmode : write.mode = .append)
    (hextend : (tree.made write).extendFile write.path write.bytes = (after, fault)) :
    Leaves tree write after fault := by
  have hgrown := tree.grows_made write
  rcases cases_of_extendFile hextend with ⟨rfl, hfault⟩ | ⟨happend, rfl⟩
  · exact leaves_made hfault
  obtain ⟨goal, hgoal, hdirectory, rfl⟩ := append_eq_ok happend
  have hlink := get?_ne_link_of_follow hgoal
  have hplace : tree.goal? write = some goal := by
    rw [goal?_eq_some_iff, hmode]
    exact hgoal
  have hchanges (place : FilePlace) : tree.Changes write place ↔
      place = goal ∨ (tree.made write).sharesFile goal place := by
    simp [Changes, hplace, hmode, hgrown.sharesFile]
  have happly : write.apply (tree.content? goal) =
      ((tree.made write).content? goal).getD ByteArray.empty ++ write.bytes := by
    rw [CodecWrite.apply, hmode, hgrown.content?]
  -- All names of the file have what is in it before.
  have hsame {place : FilePlace} (hchange : tree.Changes write place) :
      tree.content? place = tree.content? goal := by
    rcases (hchanges place).mp hchange with rfl | hshares
    · rfl
    · obtain ⟨found, hgoalFile, hplaceFile⟩ := get?_of_sharesFile hshares
      rw [← hgrown.content?, ← hgrown.content?, content?_eq_some_iff.mpr hgoalFile,
        content?_eq_some_iff.mpr hplaceFile]
  have hwritten {place : FilePlace} (hchange : tree.Changes write place) :
      ((tree.made write).fill goal (write.apply (tree.content? goal))).content? place =
        some (write.apply (tree.content? goal)) := by
    rw [content?_eq_some_iff, get?_fill hdirectory hlink, if_pos ((hchanges place).mp hchange)]
  rw [← happly]
  refine ⟨fun _ => ⟨goal, hplace, fun place hchange => ?_, fun _ => ?_⟩, fun _ hcreate => ?_,
    fun hfault => absurd rfl hfault, fun other _ hnot => ?_,
    fun _ _ => link_of_get?_fill hdirectory hlink, hasNoHardLinks_fill hdirectory hlink⟩
  · rw [hwritten hchange, hsame hchange]
  · exact readBytes_eq_ok_iff.mpr ⟨goal, (place_fill_iff hgoal hdirectory).mpr hgoal,
      hwritten ((hchanges goal).mpr (.inl rfl))⟩
  · simp [hmode] at hcreate
  · rw [← hgrown.content? other]
    refine content?_congr ?_
    rw [get?_fill hdirectory hlink, if_neg fun h => hnot rfl ((hchanges other).mpr h)]

theorem leaves_attempt (hlive : Path.IsLive write.path) (hbeside : tree.WritesBeside write) :
    Leaves tree write (tree.attempt write).1 (tree.attempt write).2 := by
  obtain ⟨after, fault, hattempt⟩ : ∃ after fault, tree.attempt write = (after, fault) :=
    ⟨_, _, rfl⟩
  rw [hattempt]
  rcases cases_of_writeCodec hattempt with ⟨rfl, hfault⟩ | hput
  · exact leaves_made hfault
  cases hmode : write.mode with
  | append =>
    rw [hmode] at hput
    exact leaves_of_extendFile hmode hput
  | create =>
    rw [hmode] at hput
    by_cases hfault : fault = none
    · subst hfault
      exact leaves_of_replaceFile hmode hlive hbeside hput
    · exact leaves_of_fault hmode hbeside hput hfault

end Steps

section Runs

/-- The attempts with the trees that they start from. -/
def turns : FileTree → List CodecWrite → List (FileTree × CodecWrite)
  | _, [] => []
  | tree, write :: writes => (tree, write) :: turns (tree.attempt write).1 writes

theorem snd_mem_of_mem_turns {tree : FileTree} {writes : List CodecWrite}
    {turn : FileTree × CodecWrite} (h : turn ∈ turns tree writes) : turn.2 ∈ writes := by
  induction writes generalizing tree with
  | nil => cases h
  | cons write writes ih =>
    rcases List.mem_cons.mp h with rfl | h
    · exact List.mem_cons_self
    · exact List.mem_cons_of_mem _ (ih h)

/-- What the attempts leave. -/
def afterAll (tree : FileTree) (writes : List CodecWrite) : FileTree :=
  writes.foldl (fun tree write => (tree.attempt write).1) tree

/-- The writes to what is at a place that succeed. -/
def writesTo (place : FilePlace) (tree : FileTree) (writes : List CodecWrite) : List CodecWrite :=
  ((turns tree writes).filter fun (tree, write) =>
    (tree.attempt write).2 = none ∧ tree.Changes write place).map (·.2)

variable {tree : FileTree} {writes : List CodecWrite} {place : FilePlace}

theorem writesTo_cons (write : CodecWrite) : writesTo place tree (write :: writes) =
    if (tree.attempt write).2 = none ∧ tree.Changes write place then
      write :: writesTo place (tree.attempt write).1 writes
    else writesTo place (tree.attempt write).1 writes := by
  simp only [writesTo, turns, List.filter_cons, decide_eq_true_eq]
  split <;> rfl

/-- What is in a file follows from the writes to it that succeed. The induction is on the attempts.
-/
theorem content?_afterAll (hlive : ∀ write ∈ writes, Path.IsLive write.path)
    (hbeside : ∀ turn ∈ turns tree writes, turn.1.WritesBeside turn.2)
    (hplace : ¬ IsTemporary place) : (tree.afterAll writes).content? place =
      contentAfter (fun _ => place) place (writesTo place tree writes) (tree.content? place) := by
  induction writes generalizing tree with
  | nil => rfl
  | cons write writes ih =>
    have hleaves := leaves_attempt (hlive write List.mem_cons_self) (hbeside _ List.mem_cons_self)
    have hrest := ih (fun other hother => hlive other (List.mem_cons_of_mem _ hother))
      (fun turn hturn => hbeside turn (List.mem_cons_of_mem _ hturn))
    rw [afterAll, List.foldl_cons, ← afterAll, hrest, writesTo_cons]
    split_ifs with hwrite
    · obtain ⟨goal, -, hcontent, -⟩ := hleaves.written hwrite.1
      rw [contentAfter, if_pos rfl, hcontent place hwrite.2]
    · rw [hleaves.others place hplace fun hfault hchange => hwrite ⟨hfault, hchange⟩]

/-- Where there are no links of either kind, nothing is written through one. -/
theorem LinkFree.writesBeside (hfree : tree.LinkFree) (hone : tree.HasNoHardLinks)
    (hlive : ∀ write ∈ writes, Path.IsLive write.path) :
    ∀ turn ∈ turns tree writes, turn.1.WritesBeside turn.2 := by
  induction writes generalizing tree with
  | nil => exact fun _ hturn => absurd hturn List.not_mem_nil
  | cons write writes ih =>
    have hbeside : tree.WritesBeside write := by
      have hgrown := tree.grows_made write
      have hmade : (tree.made write).LinkFree := fun place target htarget =>
        hfree place target (hgrown.link_of_get? htarget)
      refine ⟨fun _ => ?_, fun _ start hstart place hshares => ?_⟩
      · unfold isLink
        split
        · split
          · next htarget => exact absurd htarget (hmade _ _)
          · rfl
        · rfl
      · rw [hone start place hshares]
        have hplace : (tree.made write).place false (Path.temporary write.path) = .ok start :=
          eq_ok_of_toOption hstart
        obtain ⟨_, hfile, -⟩ := get?_of_sharesFile ((hgrown.sharesFile start place).trans hshares)
        exact isTemporary_of_place (isNamed_of_place hplace (by simp [hfile])) hplace
    have hleaves := leaves_attempt (hlive write List.mem_cons_self) hbeside
    rintro turn (_ | ⟨_, hturn⟩)
    · exact hbeside
    · exact ih (fun place target htarget => hfree place target (hleaves.links place target htarget))
        (hleaves.names hone) (fun other hother => hlive other (List.mem_cons_of_mem _ hother)) turn
        hturn

/-- What was written, one text after the other. -/
def joined (writes : List CodecWrite) : ByteArray :=
  (String.join (writes.map (sealedText ·.text))).toUTF8

/-- What is found in a file after the writes to it, by what was in it before. -/
structure Holds (present : Option ByteArray) (writes : List CodecWrite) (found : Option ByteArray) :
    Prop where
  untouched : writes = [] → found = present
  extended : writes ≠ [] → (∀ write ∈ writes, write.mode = .append) →
    found = some (present.getD ByteArray.empty ++ joined writes)
  created : ∀ before write since, writes = before ++ write :: since → write.mode = .create →
    (∀ other ∈ since, other.mode = .append) → found = some (joined (write :: since))

theorem joined_cons (write : CodecWrite) (writes : List CodecWrite) :
    joined (write :: writes) = write.bytes ++ joined writes := by
  simp [joined, CodecWrite.bytes]

theorem contentAfter_of_appends (h : ∀ write ∈ writes, write.mode = .append)
    (content : ByteArray) : contentAfter (fun _ => place) place writes (some content) =
      some (content ++ joined writes) := by
  induction writes generalizing content with
  | nil => simp [contentAfter, joined]
  | cons write writes ih =>
    rw [contentAfter, if_pos rfl, CodecWrite.apply, h write List.mem_cons_self,
      ih fun other hother => h other (List.mem_cons_of_mem _ hother), joined_cons]
    simp [ByteArray.append_assoc]

/-- A file holds the texts since it was last created. -/
theorem holds_contentAfter (present : Option ByteArray) :
    Holds present writes (contentAfter (fun _ => place) place writes present) where
  untouched h := by
    rw [h]
    rfl
  extended hne happend := by
    obtain ⟨write, rest, rfl⟩ := List.exists_cons_of_ne_nil hne
    rw [contentAfter, if_pos rfl, CodecWrite.apply, happend write List.mem_cons_self,
      contentAfter_of_appends fun other hother => happend other (List.mem_cons_of_mem _ hother),
      joined_cons]
    simp [ByteArray.append_assoc]
  created before write since hwrites hcreate happend := by
    rw [hwrites, contentAfter_append, contentAfter, if_pos rfl, CodecWrite.apply, hcreate,
      contentAfter_of_appends happend, joined_cons]

end Runs

end FileTree

end WireCodecs
