import WireCodecs.Proofs.Files.Writing

/-! Codec files written one after another. If no link stands in the place of a file or of its
sibling, the links stay as they are, so a path leads to one place throughout. If the siblings are
no other names of files, no file gets a second name. What is in a file at the end follows then from
the writes to its place alone: the last one that creates it, and all that append to it
afterwards. -/

namespace WireCodecs

/-- A codec file to write. -/
structure CodecWrite where
  path : String
  text : String
  mode : WriteMode
  deriving DecidableEq, Repr

/-- A path whose last name has an extension, and not that of a temporary sibling. -/
def Path.IsCodec (path : String) : Prop :=
  ∃ extension, HasExtension extension path ∧ extension ≠ "tmp"

namespace CodecWrite

def bytes (write : CodecWrite) : ByteArray := (sealedText write.text).toUTF8

/-- What is in the file after the write, by what was in it before. -/
def apply (write : CodecWrite) (present : Option ByteArray) : ByteArray :=
  match write.mode with
  | .create => write.bytes
  | .append => present.getD ByteArray.empty ++ write.bytes

end CodecWrite

/-- What is in the file at a place after the writes, by what was in it before; `locate` gives the
places of paths. -/
def contentAfter (locate : String → FilePlace) (place : FilePlace) :
    List CodecWrite → Option ByteArray → Option ByteArray
  | [], present => present
  | write :: writes, present =>
    contentAfter locate place writes
      (if locate write.path = place then some (write.apply present) else present)

section ContentAfter

variable {locate : String → FilePlace} {place : FilePlace}

theorem contentAfter_append (writes writes' : List CodecWrite) (present : Option ByteArray) :
    contentAfter locate place (writes ++ writes') present =
      contentAfter locate place writes' (contentAfter locate place writes present) := by
  induction writes generalizing present with
  | nil => rfl
  | cons write writes ih => exact ih _

theorem contentAfter_of_notMem {writes : List CodecWrite}
    (h : ∀ write ∈ writes, locate write.path ≠ place) (present : Option ByteArray) :
    contentAfter locate place writes present = present := by
  induction writes with
  | nil => rfl
  | cons write writes ih =>
    rw [contentAfter, if_neg (h write List.mem_cons_self)]
    exact ih fun other hother => h other (List.mem_cons_of_mem _ hother)

theorem isSome_contentAfter {writes : List CodecWrite} {present : Option ByteArray}
    (h : present.isSome ∨ ∃ write ∈ writes, locate write.path = place) :
    (contentAfter locate place writes present).isSome := by
  induction writes generalizing present with
  | nil =>
    rcases h with h | ⟨write, hmem, -⟩
    · exact h
    · cases hmem
  | cons write writes ih =>
    rw [contentAfter]
    apply ih
    by_cases hplace : locate write.path = place
    · simp [hplace]
    · rw [if_neg hplace]
      rcases h with h | ⟨other, hmem, hother⟩
      · exact .inl h
      · rcases List.mem_cons.mp hmem with rfl | hmem
        · exact absurd hother hplace
        · exact .inr ⟨other, hmem, hother⟩

end ContentAfter

/-- Every file is created before anything is appended to it, unless it is one of those given. -/
def CreatesFirst : (created : List String) → List CodecWrite → Prop
  | _, [] => True
  | created, write :: writes =>
    (write.mode = .append → write.path ∈ created) ∧ CreatesFirst (write.path :: created) writes

section CreatesFirst

variable {created : List String} {writes writes' : List CodecWrite}

theorem createsFirst_of_creates (h : ∀ write ∈ writes, write.mode = .create) :
    CreatesFirst created writes := by
  induction writes generalizing created with
  | nil => trivial
  | cons write writes ih =>
    exact ⟨fun hmode => by simp [h write List.mem_cons_self] at hmode,
      ih fun other hother => h other (List.mem_cons_of_mem _ hother)⟩

theorem createsFirst_of_mem (h : ∀ write ∈ writes, write.path ∈ created) :
    CreatesFirst created writes := by
  induction writes generalizing created with
  | nil => trivial
  | cons write writes ih =>
    exact ⟨fun _ => h write List.mem_cons_self, ih fun other hother =>
      List.mem_cons_of_mem _ (h other (List.mem_cons_of_mem _ hother))⟩

theorem CreatesFirst.append (h : CreatesFirst created writes)
    (h' : ∀ created' : List String, (∀ path ∈ created, path ∈ created') →
      (∀ write ∈ writes, write.path ∈ created') → CreatesFirst created' writes') :
    CreatesFirst created (writes ++ writes') := by
  induction writes generalizing created with
  | nil => exact h' created (fun _ h => h) (by simp)
  | cons write writes ih =>
    refine ⟨h.1, ih h.2 fun created' hcreated hwrites => h' created' (fun path hpath => ?_) ?_⟩
    · exact hcreated path (List.mem_cons_of_mem _ hpath)
    · exact List.forall_mem_cons.mpr ⟨hcreated _ List.mem_cons_self, hwrites⟩

theorem createsFirst_flatMap {ι : Type} {f : ι → List CodecWrite} {items : List ι}
    (h : ∀ item ∈ items, ∀ created, CreatesFirst created (f item)) :
    CreatesFirst created (items.flatMap f) := by
  induction items generalizing created with
  | nil => trivial
  | cons item items ih =>
    exact (h item List.mem_cons_self created).append fun _ _ _ =>
      ih fun other hother => h other (List.mem_cons_of_mem _ hother)

end CreatesFirst

namespace FileTree

/-- Each file is written with success to the tree that the one before leaves. -/
def Performed : List CodecWrite → FileTree → FileTree → Prop
  | [], tree, tree' => tree' = tree
  | write :: writes, tree, tree' =>
    ∃ between, tree.writeCodec write.path write.text write.mode = (between, none) ∧
      Performed writes between tree'

theorem performed_append {writes writes' : List CodecWrite} {tree tree' : FileTree} :
    Performed (writes ++ writes') tree tree' ↔
      ∃ between, Performed writes tree between ∧ Performed writes' between tree' := by
  induction writes generalizing tree with
  | nil => simp [Performed]
  | cons write writes ih =>
    simp only [List.cons_append, Performed, ih]
    constructor
    · rintro ⟨first, hfirst, between, hwrites, hrest⟩
      exact ⟨between, ⟨first, hfirst, hwrites⟩, hrest⟩
    · rintro ⟨between, ⟨first, hfirst, hwrites⟩, hrest⟩
      exact ⟨first, hfirst, between, hwrites, hrest⟩

/-- The path leads to a name in a directory. -/
structure Reaches (tree : FileTree) (path : String) (directory : FilePlace) : Prop where
  admissible : Admissible path
  name : IsName (Path.lastName path)
  enters : ∃ left, Enters tree maxLinks [] (Path.way path) directory left

/-- No link of the tree has the name of one of the files, or of its temporary sibling. -/
def ClearFor (tree : FileTree) (writes : List CodecWrite) : Prop :=
  ∀ place target, tree.get? place = some (.link target) → ∀ write ∈ writes, ∀ directory,
    place ≠ directory ++ [Path.lastName write.path] ∧ place ≠ sibling directory write.path

/-- In the place that a file has in the end, its temporary sibling is not another name of a file. -/
def AloneFor (tree tree' : FileTree) (writes : List CodecWrite) : Prop :=
  ∀ write ∈ writes, ∀ directory, tree'.Reaches write.path directory →
    tree.IsAlone (sibling directory write.path)

theorem LinkFree.clearFor {tree : FileTree} (h : tree.LinkFree) (writes : List CodecWrite) :
    tree.ClearFor writes :=
  fun place target htarget => absurd htarget (h place target)

theorem HasNoHardLinks.aloneFor {tree : FileTree} (h : tree.HasNoHardLinks) (tree' : FileTree)
    (writes : List CodecWrite) : AloneFor tree tree' writes :=
  fun write _ directory _ => h (sibling directory write.path)

/-- The directories and links of a tree are still there, and there are no other links. -/
structure Keeps (tree tree' : FileTree) : Prop where
  directory : ∀ place, tree.get? place = some .directory → tree'.get? place = some .directory
  link : ∀ place target,
    tree'.get? place = some (.link target) ↔ tree.get? place = some (.link target)

namespace Keeps

variable {tree tree' tree'' : FileTree} {path : String} {directory : FilePlace}
  {writes : List CodecWrite}

theorem refl (tree : FileTree) : Keeps tree tree := ⟨fun _ h => h, fun _ _ => Iff.rfl⟩

theorem trans (h : Keeps tree tree') (h' : Keeps tree' tree'') : Keeps tree tree'' where
  directory place hplace := h'.directory place (h.directory place hplace)
  link place target := (h'.link place target).trans (h.link place target)

theorem reaches (h : Keeps tree tree') (hreaches : tree.Reaches path directory) :
    tree'.Reaches path directory := by
  obtain ⟨hadmissible, hname, left, henters⟩ := hreaches
  exact ⟨hadmissible, hname, left,
    henters.mono h.directory fun place target => (h.link place target).mpr⟩

theorem clearFor (h : Keeps tree tree') (hclear : tree.ClearFor writes) : tree'.ClearFor writes :=
  fun place target htarget => hclear place target ((h.link place target).mp htarget)

theorem linkFree (h : Keeps tree tree') (hfree : tree.LinkFree) : tree'.LinkFree :=
  fun place target htarget => hfree place target ((h.link place target).mp htarget)

end Keeps

theorem Grows.keeps {tree tree' : FileTree} (h : Grows tree tree') : Keeps tree tree' where
  directory _ := h.get?_eq_some
  link _ _ := ⟨h.link_of_get?, h.get?_eq_some⟩

/-- A write to a file takes no directory away, and no link that is not at its goal. -/
theorem Replaces.keeps {tree tree' : FileTree} {start goal : FilePlace} {content : ByteArray}
    (h : Replaces tree tree' start goal content) (hstart : tree.get? start ≠ some .directory)
    (hgoal : tree.get? goal ≠ some .directory)
    (hlink : ∀ target, tree.get? start ≠ some (.link target))
    (hlink' : ∀ target, tree.get? goal ≠ some (.link target)) : Keeps tree tree' where
  directory _ hplace :=
    h.get?_eq_some (by simp) hplace hstart fun heq => hgoal (heq ▸ hplace)
  link _ target := ⟨h.of_get? (by simp), fun hplace =>
    h.get?_eq_some (by simp) hplace (hlink target) fun heq => hlink' target (heq ▸ hplace)⟩

theorem keeps_fill {tree : FileTree} {place : FilePlace} {content : ByteArray}
    (hdirectory : tree.get? place ≠ some .directory)
    (hlink : ∀ target, tree.get? place ≠ some (.link target)) :
    Keeps tree (tree.fill place content) where
  directory _ := (get?_fill_eq_some_iff hdirectory hlink (by simp)).mpr
  link _ _ := get?_fill_eq_some_iff hdirectory hlink (by simp)

theorem IsAlone.fill {tree : FileTree} {place spot : FilePlace} {content : ByteArray}
    (hdirectory : tree.get? place ≠ some .directory)
    (hlink : ∀ target, tree.get? place ≠ some (.link target)) (h : tree.IsAlone spot) :
    (tree.fill place content).IsAlone spot := by
  intro other hshares
  rcases (sharesFile_fill hdirectory hlink).mp hshares with ⟨rfl, rfl⟩ | hshares
  · rfl
  · exact h other hshares

section Steps

variable {tree tree' : FileTree}

/-- A codec file is not the temporary sibling of one. -/
theorem concat_lastName_ne_sibling {path other extension : String} (h : Path.IsCodec path)
    (hother : Path.HasExtension extension other) (place directory : FilePlace) :
    place ++ [Path.lastName path] ≠ sibling directory other := by
  intro heq
  obtain ⟨extension', hpath, htmp⟩ := h
  have hlast : Path.lastName path = Path.lastName (Path.temporary other) := by
    rw [hother.lastName_temporary]
    exact List.singleton_inj.mp (List.append_inj' heq rfl).2
  exact htmp (hpath.eq_of_lastName hother.hasExtension_temporary hlast)

theorem content?_congr {place : FilePlace} (h : tree'.get? place = tree.get? place) :
    tree'.content? place = tree.content? place := by
  rw [content?, content?, h]

/-- How a write reaches its file, in the tree with the directory made: a file that is created takes
its place from its sibling, a file that is appended to is no link and is extended. -/
inductive Reworks (grown tree' : FileTree) (write : CodecWrite) (directory : FilePlace) : Prop
  | create (hmode : write.mode = .create)
      (h : Replaces grown tree' (sibling directory write.path)
        (directory ++ [Path.lastName write.path]) write.bytes)
  | append (hmode : write.mode = .append)
      (hdirectory : grown.get? (directory ++ [Path.lastName write.path]) ≠ some .directory)
      (hlink : ∀ target,
        grown.get? (directory ++ [Path.lastName write.path]) ≠ some (.link target))
      (h : tree' = grown.fill (directory ++ [Path.lastName write.path])
        ((grown.content? (directory ++ [Path.lastName write.path])).getD ByteArray.empty ++
          write.bytes))

/-- Where no link is in the way, a write keeps all directories and links. -/
theorem reworks_of_writeCodec {write : CodecWrite} (hclear : tree.ClearFor [write])
    (hpath : Path.IsCodec write.path)
    (hwrite : tree.writeCodec write.path write.text write.mode = (tree', none)) :
    Keeps tree tree' ∧ ∃ directory, tree'.Reaches write.path directory ∧
      Reworks (tree.makeParent write.path).1 tree' write directory := by
  obtain ⟨path, text, mode⟩ := write
  obtain ⟨extension, hpath, -⟩ := hpath
  have hgrown : Grows tree (tree.makeParent path).1 := grows_makeParent path
  have hclear' := hgrown.keeps.clearFor hclear
  have hwrite := putFile_of_writeCodec hwrite
  have hfree (directory : FilePlace) (target : String) :
      (tree.makeParent path).1.get? (directory ++ [Path.lastName path]) ≠ some (.link target) ∧
        (tree.makeParent path).1.get? (sibling directory path) ≠ some (.link target) :=
    ⟨fun htarget => (hclear' _ target htarget _ List.mem_cons_self directory).1 rfl,
      fun htarget => (hclear' _ target htarget _ List.mem_cons_self directory).2 rfl⟩
  cases mode with
  | create =>
    obtain ⟨hadmissible, hname, directory, left, henters, -, hrest⟩ :=
      exists_of_replaceFile hpath hwrite
    obtain ⟨hgoal, hsibling, hreplaces⟩ := hrest fun target => (hfree directory target).2
    have hkeeps := hreplaces.keeps hsibling hgoal (fun target => (hfree directory target).2)
      fun target => (hfree directory target).1
    exact ⟨hgrown.keeps.trans hkeeps, directory,
      hkeeps.reaches ⟨hadmissible, hname, left, henters⟩, .create rfl hreplaces⟩
  | append =>
    obtain ⟨hadmissible, hname, directory, left, henters, hrest⟩ :=
      exists_of_extendFile hpath.isNamed hwrite
    obtain ⟨hgoal, htree⟩ := hrest fun target => (hfree directory target).1
    have hkeeps : Keeps (tree.makeParent path).1 tree' :=
      htree ▸ keeps_fill hgoal fun target => (hfree directory target).1
    exact ⟨hgrown.keeps.trans hkeeps, directory,
      hkeeps.reaches ⟨hadmissible, hname, left, henters⟩,
      .append rfl hgoal (fun target => (hfree directory target).1) htree⟩

/-- What is found at codec files once a write has changed its own. -/
theorem content?_of_get? {grown : FileTree} {write : CodecWrite} {directory : FilePlace}
    {extension : String} (hgrown : Grows tree grown)
    (hpath : Path.HasExtension extension write.path)
    (hget : ∀ place, place ≠ sibling directory write.path →
      tree'.get? place = if place = directory ++ [Path.lastName write.path] then
        some (.file (write.apply (tree.content? place))) else grown.get? place)
    {path : String} (hcodec : Path.IsCodec path) (folder : FilePlace) :
    tree'.content? (folder ++ [Path.lastName path]) =
      if directory ++ [Path.lastName write.path] = folder ++ [Path.lastName path] then
        some (write.apply (tree.content? (folder ++ [Path.lastName path])))
      else tree.content? (folder ++ [Path.lastName path]) := by
  have hplace := hget (folder ++ [Path.lastName path])
    (concat_lastName_ne_sibling hcodec hpath folder directory)
  split_ifs with heq
  · rw [content?_eq_some_iff, hplace, if_pos heq.symm]
  · rw [if_neg (Ne.symm heq)] at hplace
    rw [content?_congr hplace, hgrown.content?]

/-- What one write does: it changes the file in its place, which has no other name then, and no
other codec file. -/
structure StepsTo (tree tree' : FileTree) (write : CodecWrite) (directory : FilePlace) : Prop where
  content : ∀ path, Path.IsCodec path → ∀ folder,
    tree'.content? (folder ++ [Path.lastName path]) =
      if directory ++ [Path.lastName write.path] = folder ++ [Path.lastName path] then
        some (write.apply (tree.content? (folder ++ [Path.lastName path])))
      else tree.content? (folder ++ [Path.lastName path])
  alone : ∀ place, place = directory ++ [Path.lastName write.path] ∨ tree.IsAlone place →
    tree'.IsAlone place

/-- A file is created if its sibling is no other name of a file, and extended if it has one name
itself. -/
theorem Reworks.stepsTo {grown : FileTree} {write : CodecWrite} {directory : FilePlace}
    (h : Reworks grown tree' write directory) (hgrown : Grows tree grown)
    (hpath : Path.IsCodec write.path) (hsibling : tree.IsAlone (sibling directory write.path))
    (hgoal : write.mode = .append → tree.IsAlone (directory ++ [Path.lastName write.path])) :
    StepsTo tree tree' write directory := by
  obtain ⟨extension, hpath, -⟩ := hpath
  have hne := (sibling_ne directory write.path).symm
  have hone := hgrown.isAlone_iff.mpr hsibling
  cases h with
  | create hmode h =>
    refine ⟨fun path => content?_of_get? hgrown hpath fun place hplace => ?_,
      fun place hplace => h.isAlone hone hne (hplace.imp_right hgrown.isAlone_iff.mpr)⟩
    rw [h.get?_of_ne hone hplace, CodecWrite.apply, hmode]
  | append hmode hdirectory hlink h =>
    have hone' := hgrown.isAlone_iff.mpr (hgoal hmode)
    subst h
    refine ⟨fun path => content?_of_get? hgrown hpath fun place _ => ?_, fun place hplace =>
      .fill hdirectory hlink (hplace.elim (· ▸ hone') hgrown.isAlone_iff.mpr)⟩
    rw [get?_fill hdirectory hlink, if_congr (or_iff_left_of_imp (hone' place)) rfl rfl]
    split_ifs with hplace
    · rw [CodecWrite.apply, hmode, hgrown.content?, hplace]
    · rfl

end Steps

section Histories

variable {writes : List CodecWrite} {tree tree' : FileTree}

theorem ClearFor.mono {writes' : List CodecWrite} (h : tree.ClearFor writes)
    (hsub : ∀ write ∈ writes', write ∈ writes) : tree.ClearFor writes' :=
  fun place target htarget write hmem => h place target htarget write (hsub write hmem)

/-- The links and directories stay, and every path leads somewhere in the end. -/
theorem keeps_of_performed (hclear : tree.ClearFor writes)
    (hpaths : ∀ write ∈ writes, Path.IsCodec write.path) (h : Performed writes tree tree') :
    Keeps tree tree' ∧ ∀ write ∈ writes, ∃ directory, tree'.Reaches write.path directory := by
  induction writes generalizing tree with
  | nil =>
    cases h
    exact ⟨.refl _, by simp⟩
  | cons write writes ih =>
    obtain ⟨between, hwrite, hrest⟩ := h
    obtain ⟨hkeeps, directory, hreaches, -⟩ := reworks_of_writeCodec
      (hclear.mono (by simp)) (hpaths write List.mem_cons_self) hwrite
    obtain ⟨hkeeps', hreaches'⟩ := ih
      (hkeeps.clearFor (hclear.mono fun _ => List.mem_cons_of_mem _))
      (fun other hother => hpaths other (List.mem_cons_of_mem _ hother)) hrest
    refine ⟨hkeeps.trans hkeeps', fun other hother => ?_⟩
    rcases List.mem_cons.mp hother with rfl | hother
    · exact ⟨directory, hkeeps'.reaches hreaches⟩
    · exact hreaches' other hother

/-- What is in a codec file after the writes follows from the writes to its place, if it is created
before anything is appended to it. The induction is on the writes; a path leads to one place in all
trees between, and the files that were written have one name. -/
theorem content?_of_performed {locate : String → FilePlace} {created : List String}
    (hclear : tree.ClearFor writes) (halone : AloneFor tree tree' writes)
    (hpaths : ∀ write ∈ writes, Path.IsCodec write.path) (hcreates : CreatesFirst created writes)
    (hcreated : ∀ path ∈ created, tree.IsAlone (locate path)) (h : Performed writes tree tree')
    (hlocate : ∀ write ∈ writes, ∀ directory, tree'.Reaches write.path directory →
      locate write.path = directory ++ [Path.lastName write.path])
    {path : String} (hpath : Path.IsCodec path) (folder : FilePlace) :
    tree'.content? (folder ++ [Path.lastName path]) =
      contentAfter locate (folder ++ [Path.lastName path]) writes
        (tree.content? (folder ++ [Path.lastName path])) := by
  induction writes generalizing tree created with
  | nil =>
    cases h
    rfl
  | cons write writes ih =>
    obtain ⟨between, hwrite, hrest⟩ := h
    have hrestMem {other : CodecWrite} (hother : other ∈ writes) : other ∈ write :: writes :=
      List.mem_cons_of_mem _ hother
    obtain ⟨hkeeps, directory, hreaches, hreworks⟩ := reworks_of_writeCodec
      (hclear.mono (by simp)) (hpaths write List.mem_cons_self) hwrite
    have hclear' := hkeeps.clearFor (hclear.mono fun _ => hrestMem)
    have hreaches' := (keeps_of_performed hclear'
      (fun other hother => hpaths other (hrestMem hother)) hrest).1.reaches hreaches
    have hplace := hlocate write List.mem_cons_self directory hreaches'
    have hstep : StepsTo tree between write directory :=
      hreworks.stepsTo (grows_makeParent write.path) (hpaths write List.mem_cons_self)
        (halone write List.mem_cons_self directory hreaches')
        fun hmode => hplace ▸ hcreated _ (hcreates.1 hmode)
    rw [ih hclear' (fun other hother folder hfolder => hstep.alone _
        (.inr (halone other (hrestMem hother) folder hfolder)))
      (fun other hother => hpaths other (hrestMem hother)) hcreates.2 (fun other hother => ?_) hrest
      fun other hother => hlocate other (hrestMem hother), hstep.content path hpath folder,
      contentAfter, hplace]
    rcases List.mem_cons.mp hother with rfl | hother
    · exact hstep.alone _ (.inl hplace)
    · exact hstep.alone _ (.inr (hcreated other hother))

/-- A file that is reached is read as what is at its place. -/
theorem readBytes_of_reaches {path extension : String} {directory : FilePlace}
    {content : ByteArray} (hpath : Path.HasExtension extension path)
    (h : tree.Reaches path directory)
    (hcontent : tree.content? (directory ++ [Path.lastName path]) = some content) :
    tree.readBytes path = .ok content := by
  obtain ⟨hadmissible, hname, left, henters⟩ := h
  have hplace : tree.place true path = .ok (directory ++ [Path.lastName path]) :=
    place_of_enters hpath.isNamed hadmissible hname henters
      (by simp [content?_eq_some_iff.mp hcontent])
  exact readBytes_eq_ok_iff.mpr ⟨_, hplace, hcontent⟩

/-- Every file that was written can be read, and holds what the writes to its place left there. -/
theorem readBytes_of_performed {locate : String → FilePlace} (hclear : tree.ClearFor writes)
    (halone : AloneFor tree tree' writes) (hpaths : ∀ write ∈ writes, Path.IsCodec write.path)
    (hcreates : CreatesFirst [] writes) (h : Performed writes tree tree')
    (hlocate : ∀ write ∈ writes, ∀ directory, tree'.Reaches write.path directory →
      locate write.path = directory ++ [Path.lastName write.path])
    {write : CodecWrite} (hmem : write ∈ writes) :
    ∃ content, tree'.readBytes write.path = .ok content ∧
      contentAfter locate (locate write.path) writes (tree.content? (locate write.path)) =
        some content := by
  obtain ⟨directory, hwritten⟩ := (keeps_of_performed hclear hpaths h).2 write hmem
  obtain ⟨content, hfound⟩ : ∃ content, contentAfter locate (locate write.path) writes
      (tree.content? (locate write.path)) = some content :=
    Option.isSome_iff_exists.mp (isSome_contentAfter (.inr ⟨write, hmem, rfl⟩))
  have hcontent := content?_of_performed hclear halone hpaths hcreates (by simp) h hlocate
    (hpaths write hmem) directory
  obtain ⟨extension, hpath, -⟩ := hpaths write hmem
  refine ⟨content, readBytes_of_reaches hpath hwritten ?_, hfound⟩
  rw [hcontent, ← hlocate write hmem _ hwritten, hfound]

/-- The place of a path, where a link is not followed. -/
def placeOf (tree : FileTree) (path : String) : FilePlace :=
  match tree.place false path with
  | .ok place => place
  | .error _ => []

theorem placeOf_eq {path extension : String} {directory : FilePlace}
    (hpath : Path.HasExtension extension path) (h : tree.Reaches path directory) :
    tree.placeOf path = directory ++ [Path.lastName path] := by
  obtain ⟨hadmissible, hname, left, henters⟩ := h
  rw [placeOf, place_of_enters hpath.isNamed hadmissible hname henters fun _ _ => rfl]

/-- Without links a path leads to the place it names. -/
theorem LinkFree.named_eq (hfree : tree.LinkFree) {path : String} {directory : FilePlace}
    (h : tree.Reaches path directory) : named path = directory ++ [Path.lastName path] := by
  obtain ⟨-, -, left, henters⟩ := h
  rw [named, hfree.eq_foldl_of_enters henters]

theorem LinkFree.named_temporary (hfree : tree.LinkFree) {path extension : String}
    {directory : FilePlace} (hpath : Path.HasExtension extension path)
    (h : tree.Reaches path directory) :
    named (Path.temporary path) = sibling directory path := by
  obtain ⟨-, -, left, henters⟩ := h
  rw [named, hpath.way_temporary, hpath.lastName_temporary, ← hfree.eq_foldl_of_enters henters,
    sibling]

end Histories

end FileTree

end WireCodecs
