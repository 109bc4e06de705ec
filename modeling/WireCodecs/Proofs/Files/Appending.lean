import WireCodecs.Proofs.Files.History

/-! Files in one directory that are appended to, in a tree that may have links. A file that was just
put where it is has no link in its place, and the way to the directory cannot change while the files
are extended, so each file grows by the texts that are appended to its path, unless two of the paths
are names of one file. -/

namespace WireCodecs.FileTree

section Steps

variable {base tree grown tree' : FileTree} {extension path text : String} {directory : FilePlace}
  {left : Nat}

theorem Settles.grows (h : Settles base tree) (hgrown : Grows tree grown) : Settles base grown where
  directory place hplace := hgrown.get?_eq_some (h.directory place hplace)
  link place target hplace := by
    rcases h.link place target hplace with h | ⟨content, h⟩
    · exact .inl (hgrown.get?_eq_some h)
    · exact .inr ⟨content, hgrown.get?_eq_some h⟩

theorem Settles.fill {goal : FilePlace} {content : ByteArray} (h : Settles base tree)
    (hdirectory : tree.get? goal ≠ some .directory)
    (hlink : ∀ target, tree.get? goal ≠ some (.link target)) :
    Settles base (tree.fill goal content) where
  directory place hplace :=
    (get?_fill_eq_some_iff hdirectory hlink (by simp)).mpr (h.directory place hplace)
  link place target hplace := by
    rcases h.link place target hplace with htree | ⟨found, htree⟩
    · exact .inl ((get?_fill_eq_some_iff hdirectory hlink (by simp)).mpr htree)
    · rw [get?_fill hdirectory hlink]
      split_ifs
      · exact .inr ⟨content, rfl⟩
      · exact .inr ⟨found, htree⟩

theorem Replaces.settles {start goal : FilePlace} {content : ByteArray}
    (h : Replaces tree tree' start goal content) (hstart : tree.get? start ≠ some .directory)
    (hlink : ∀ target, tree.get? start ≠ some (.link target))
    (hgoal : tree.get? goal ≠ some .directory) : Settles tree tree' where
  directory place hplace :=
    h.get?_eq_some (by simp) hplace hstart fun heq => hgoal (heq ▸ hplace)
  link place target hplace := by
    by_cases heq : place = goal
    · exact .inr ⟨content, heq ▸ h.written⟩
    · exact .inl (h.get?_eq_some (by simp) hplace (hlink target) heq)

/-- Whether a path leads to a symbolic link. -/
def isLink (tree : FileTree) (path : String) : Bool :=
  match tree.place false path with
  | .ok place =>
    match tree.get? place with
    | some (.link _) => true
    | _ => false
  | .error _ => false

theorem get?_ne_link_of_place {place : FilePlace} (h : tree.isLink path = false)
    (hplace : tree.place false path = .ok place) (target : String) :
    tree.get? place ≠ some (.link target) := by
  intro htarget
  simp [isLink, hplace, htarget] at h

/-- Whether two paths lead to one file, where links are not followed. -/
def isSameFile (tree : FileTree) (path other : String) : Bool :=
  match tree.place false path, tree.place false other with
  | .ok place, .ok place' => tree.sharesFile place place'
  | _, _ => false

theorem not_sharesFile_of_place {other : String} {place place' : FilePlace}
    (h : tree.isSameFile path other = false) (hplace : tree.place false path = .ok place)
    (hplace' : tree.place false other = .ok place') : ¬ tree.sharesFile place place' := by
  rw [isSameFile, hplace, hplace'] at h
  simp only at h
  exact ne_true_of_eq_false h

/-- What a write that creates a file does, where the sibling of the file is no link. -/
theorem exists_of_create (hpath : Path.HasExtension extension path)
    (hwrite : tree.writeCodec path text .create = (tree', none)) :
    ∃ directory left, Enters (tree.makeParent path).1 maxLinks [] (Path.way path) directory left ∧
      (tree.makeParent path).1.place false (Path.temporary path) = .ok (sibling directory path) ∧
      ((∀ target, (tree.makeParent path).1.get? (sibling directory path) ≠ some (.link target)) →
        Settles (tree.makeParent path).1 tree' ∧
        Replaces (tree.makeParent path).1 tree' (sibling directory path)
          (directory ++ [Path.lastName path]) (sealedText text).toUTF8) := by
  obtain ⟨-, -, directory, left, henters, hplace, hrest⟩ :=
    exists_of_replaceFile hpath (putFile_of_writeCodec hwrite)
  refine ⟨directory, left, henters, hplace, fun hlink => ?_⟩
  obtain ⟨hgoal, hsibling, hreplaces⟩ := hrest hlink
  exact ⟨hreplaces.settles hsibling hlink hgoal, hreplaces⟩

/-- What a write that appends to a file does. -/
theorem exists_of_append {content : ByteArray} (hpath : Path.HasExtension extension path)
    (hbase : Settles base tree) (henters : Enters base maxLinks [] (Path.way path) directory left)
    (hfile : tree.get? (directory ++ [Path.lastName path]) = some (.file content))
    (hwrite : tree.writeCodec path text .append = (tree', none)) :
    Settles base tree' ∧ Enters tree' maxLinks [] (Path.way path) directory left ∧
      ∃ grown, Grows tree grown ∧ grown.get? (directory ++ [Path.lastName path]) =
          some (.file content) ∧
        tree' = grown.fill (directory ++ [Path.lastName path])
          (content ++ (sealedText text).toUTF8) := by
  have hgrown : Grows tree (tree.makeParent path).1 := grows_makeParent path
  obtain ⟨-, -, directory', left', henters', hrest⟩ :=
    exists_of_extendFile hpath.isNamed (putFile_of_writeCodec hwrite)
  obtain ⟨rfl, rfl⟩ := henters.eq_of_settles (hbase.grows hgrown) henters'
  have hfound := hgrown.get?_eq_some hfile
  have hlink (target : String) :
      (tree.makeParent path).1.get? (directory' ++ [Path.lastName path]) ≠
        some (.link target) := by simp [hfound]
  obtain ⟨hgoal, htree⟩ := hrest hlink
  rw [content?_eq_some_iff.mpr hfound, Option.getD_some] at htree
  have hkeeps : Keeps (tree.makeParent path).1 tree' := htree ▸ keeps_fill hgoal hlink
  exact ⟨htree ▸ (hbase.grows hgrown).fill hgoal hlink,
    henters'.mono hkeeps.directory fun place target => (hkeeps.link place target).mpr,
    _, hgrown, hfound, htree⟩

end Steps

section Runs

theorem admissible_of_performed {writes : List CodecWrite} {tree tree' : FileTree}
    (hperformed : Performed writes tree tree') {write : CodecWrite} (hmem : write ∈ writes)
    {extension : String} (hpath : Path.HasExtension extension write.path) :
    Admissible write.path ∧ IsName (Path.lastName write.path) := by
  induction writes generalizing tree with
  | nil => cases hmem
  | cons first writes ih =>
    obtain ⟨between, hwrite, hrest⟩ := hperformed
    rcases List.mem_cons.mp hmem with rfl | hmem
    · obtain ⟨path, text, mode⟩ := write
      cases mode with
      | create =>
        obtain ⟨hadmissible, hname, -⟩ :=
          exists_of_replaceFile hpath (putFile_of_writeCodec hwrite)
        exact ⟨hadmissible, hname⟩
      | append =>
        obtain ⟨hadmissible, hname, -⟩ :=
          exists_of_extendFile hpath.isNamed (putFile_of_writeCodec hwrite)
        exact ⟨hadmissible, hname⟩
    · exact ih hrest hmem

/-- The sealed texts that are appended to a path. -/
def appended (path : String) (writes : List CodecWrite) : String :=
  String.join ((writes.filter (·.path = path)).map (sealedText ·.text))

theorem appended_append (path : String) (writes writes' : List CodecWrite) :
    appended path (writes ++ writes') = appended path writes ++ appended path writes' := by
  simp [appended]

theorem appended_single (path : String) (write : CodecWrite) :
    appended path [write] = if write.path = path then sealedText write.text else "" := by
  by_cases h : write.path = path <;> simp [appended, h]

/-- Files with different names in one directory. -/
structure Neighbours (paths : List String) (way : List String) : Prop where
  extension : ∀ path ∈ paths, ∃ extension, Path.HasExtension extension path
  way : ∀ path ∈ paths, Path.way path = way
  injective : ∀ path ∈ paths, ∀ other ∈ paths, Path.lastName path = Path.lastName other →
    path = other

/-- The files in the directory with these names hold these texts, and no two are one file. -/
structure HoldApart (tree : FileTree) (directory : FilePlace) (paths : List String)
    (content : String → String) : Prop where
  files : ∀ path ∈ paths, tree.get? (directory ++ [Path.lastName path]) =
    some (.file (content path).toUTF8)
  apart : ∀ path ∈ paths, ∀ other ∈ paths, tree.sharesFile (directory ++ [Path.lastName path])
    (directory ++ [Path.lastName other]) → path = other

variable {base tree tree' : FileTree} {directory : FilePlace} {left : Nat} {paths way : List String}
  {writes : List CodecWrite} {content : String → String}

/-- One of the files grows by what is appended to it, the others stay. -/
theorem holdApart_of_append (hpaths : Neighbours paths way)
    (henters : Enters base maxLinks [] way directory left) (hbase : Settles base tree)
    (hfiles : HoldApart tree directory paths content) {write : CodecWrite}
    (hmode : write.mode = .append) (hmem : write.path ∈ paths)
    (hwrite : tree.writeCodec write.path write.text write.mode = (tree', none)) :
    Settles base tree' ∧ Enters tree' maxLinks [] way directory left ∧
      HoldApart tree' directory paths fun path => content path ++ appended path [write] := by
  obtain ⟨extension, hextension⟩ := hpaths.extension _ hmem
  have hway := hpaths.way _ hmem
  rw [hmode] at hwrite
  obtain ⟨hsettles, henters', grown, hgrown, hfound, rfl⟩ := exists_of_append hextension hbase
    (hway ▸ henters) (hfiles.files _ hmem) hwrite
  have hdirectory : grown.get? (directory ++ [Path.lastName write.path]) ≠ some .directory := by
    simp [hfound]
  have hlink (target : String) : grown.get? (directory ++ [Path.lastName write.path]) ≠
      some (.link target) := by
    simp [hfound]
  have hplaces {path other : String} (hpath : path ∈ paths) (hother : other ∈ paths)
      (h : directory ++ [Path.lastName path] = directory ++ [Path.lastName other]) :
      path = other :=
    hpaths.injective _ hpath _ hother (List.singleton_inj.mp (List.append_inj' h rfl).2)
  refine ⟨hsettles, hway ▸ henters', fun path hpath => ?_, fun path hpath other hother h => ?_⟩
  · rw [get?_fill hdirectory hlink, appended_single]
    by_cases heq : write.path = path
    · rw [heq, if_pos (.inl rfl), if_pos rfl]
      exact congrArg (some <| FileEntry.file ·) String.toByteArray_append.symm
    · rw [if_neg, if_neg heq, String.append_empty]
      · exact hgrown.get?_eq_some (hfiles.files path hpath)
      · rintro (hplace | hshares)
        · exact heq (hplaces hpath hmem hplace).symm
        · rw [hgrown.sharesFile] at hshares
          exact heq (hfiles.apart _ hmem _ hpath hshares)
  · rcases (sharesFile_fill hdirectory hlink).mp h with ⟨hfirst, hsecond⟩ | hshares
    · exact hplaces hpath hother (hfirst.trans hsecond.symm)
    · rw [hgrown.sharesFile] at hshares
      exact hfiles.apart _ hpath _ hother hshares

/-- Each of the files grows by the texts that are appended to it. The induction is on the writes;
after any of them the directory can still be entered. -/
theorem holdApart_of_appends (hpaths : Neighbours paths way)
    (henters : Enters base maxLinks [] way directory left) (hbase : Settles base tree)
    (hfiles : HoldApart tree directory paths content)
    (happend : ∀ write ∈ writes, write.mode = .append ∧ write.path ∈ paths)
    (hperformed : Performed writes tree tree') :
    Settles base tree' ∧ (writes ≠ [] → Enters tree' maxLinks [] way directory left) ∧
      HoldApart tree' directory paths fun path => content path ++ appended path writes := by
  induction writes generalizing tree content with
  | nil =>
    cases hperformed
    exact ⟨hbase, (absurd rfl ·), by simpa [appended] using hfiles.files, hfiles.apart⟩
  | cons write writes ih =>
    obtain ⟨between, hwrite, hrest⟩ := hperformed
    obtain ⟨hmode, hmem⟩ := happend write List.mem_cons_self
    obtain ⟨hsettles, hopen, hbetween⟩ :=
      holdApart_of_append hpaths henters hbase hfiles hmode hmem hwrite
    obtain ⟨hsettles', hopen', hend⟩ := ih hsettles hbetween
      (fun other hother => happend other (List.mem_cons_of_mem _ hother)) hrest
    refine ⟨hsettles', fun _ => ?_, fun path hpath => ?_, hend.apart⟩
    · cases writes with
      | nil =>
        cases hrest
        exact hopen
      | cons other writes => exact hopen' (List.cons_ne_nil _ _)
    · rw [hend.files path hpath, String.append_assoc, ← appended_append, List.singleton_append]

section Pairs

variable {header source headerText sourceText extension extension' : String}

/-- Two files in one directory that are created one after the other. -/
theorem holdApart_of_creates {second : FileTree} (hheader : Path.HasExtension extension header)
    (hsource : Path.HasExtension extension' source) (hextension : extension ≠ "tmp")
    (hway : Path.way header = Path.way source)
    (hname : Path.lastName header ≠ Path.lastName source)
    (hlink : (tree.makeParent header).1.isLink (Path.temporary header) = false)
    (hlink' : (tree.makeParent header).1.isLink (Path.temporary source) = false)
    (hsame : (tree.makeParent header).1.isSameFile (Path.temporary header)
      (Path.temporary source) = false)
    (hperformed : Performed [⟨header, headerText, .create⟩, ⟨source, sourceText, .create⟩] tree
      second) :
    ∃ base directory left, Enters base maxLinks [] (Path.way header) directory left ∧
      Settles base second ∧ HoldApart second directory [header, source]
        fun path => if path = header then sealedText headerText else sealedText sourceText := by
  have hcodec : Path.IsCodec header := ⟨extension, hheader, hextension⟩
  obtain ⟨first, hfirst, _, hsecond, rfl⟩ := hperformed
  obtain ⟨_, _, henters, hplace, hfirst⟩ := exists_of_create hheader hfirst
  obtain ⟨hsettles, hreplaces⟩ := hfirst (get?_ne_link_of_place hlink hplace)
  have hgrown : Grows first (first.makeParent source).1 := grows_makeParent source
  obtain ⟨directory, left, henters', hplace', hsecond⟩ := exists_of_create hsource hsecond
  rw [← hway] at henters'
  obtain ⟨rfl, rfl⟩ := henters.eq_of_settles (hsettles.grows hgrown) henters'
  have hne : directory ++ [Path.lastName header] ≠ directory ++ [Path.lastName source] := by
    intro h
    exact hname (List.singleton_inj.mp (List.append_inj' h rfl).2)
  have hsiblings : sibling directory source ≠ sibling directory header := by
    intro h
    have hlast := List.singleton_inj.mp (List.append_inj' h rfl).2
    exact hname ((String.append_left_inj _).mp hlast).symm
  have hcross := concat_lastName_ne_sibling hcodec hsource directory directory
  -- The second sibling is where it was from the start.
  have hstart : (tree.makeParent header).1.place false (Path.temporary source) =
      .ok (sibling directory source) := by
    obtain ⟨hadmissible, hshort, -⟩ :=
      enters_of_place hsource.hasExtension_temporary.isNamed hplace'
    rw [sibling, ← hsource.lastName_temporary]
    exact place_of_enters hsource.hasExtension_temporary.isNamed hadmissible hshort
      (by rwa [hsource.way_temporary, ← hway]) fun _ _ => rfl
  have hapart : ¬ (first.makeParent source).1.sharesFile (directory ++ [Path.lastName header])
      (sibling directory source) := by
    rw [hgrown.sharesFile, hreplaces.sharesFile _ _ (sibling_ne _ _) hsiblings, if_pos rfl,
      if_neg hcross.symm]
    rintro (⟨-, h⟩ | h)
    · exact hcross h.symm
    · exact not_sharesFile_of_place hsame hplace hstart h
  obtain ⟨hsettles', hreplaces'⟩ := hsecond fun target htarget => get?_ne_link_of_place hlink'
    hstart target (hreplaces.of_get? (by simp) (hgrown.link_of_get? htarget))
  have hheaderFile : second.get? (directory ++ [Path.lastName header]) =
      some (.file (sealedText headerText).toUTF8) := by
    rw [hreplaces'.others _ hcross hne, if_neg fun h => hapart (sharesFile_comm.mp h)]
    exact hgrown.get?_eq_some hreplaces.written
  have hother : ¬ second.sharesFile (directory ++ [Path.lastName header])
      (directory ++ [Path.lastName source]) := by
    rw [hreplaces'.sharesFile _ _ hcross (sibling_ne _ _), if_neg hne, if_pos rfl]
    exact not_or.mpr ⟨fun h => hne h.1, hapart⟩
  have hpaths : source ≠ header := fun h => hname (h ▸ rfl)
  refine ⟨_, directory, left, henters', hsettles', ?_, ?_⟩
  · simpa [hpaths] using ⟨hheaderFile, hreplaces'.written⟩
  · simpa [hpaths, hpaths.symm, hother] using fun h => hother (sharesFile_comm.mp h)

/-- Two files in one directory that are created and then appended to hold what was written to each,
one text after the other, if the sibling of neither is a link and the siblings are not one file. -/
theorem readBytes_of_shared (hheader : Path.HasExtension extension header)
    (hsource : Path.HasExtension extension' source) (hextension : extension ≠ "tmp")
    (hway : Path.way header = Path.way source)
    (hname : Path.lastName header ≠ Path.lastName source)
    (hlink : (tree.makeParent header).1.isLink (Path.temporary header) = false)
    (hlink' : (tree.makeParent header).1.isLink (Path.temporary source) = false)
    (hsame : (tree.makeParent header).1.isSameFile (Path.temporary header)
      (Path.temporary source) = false)
    (happend : ∀ write ∈ writes, write.mode = .append ∧ write.path ∈ [header, source])
    (hwrites : writes ≠ [])
    (hperformed : Performed
      ([⟨header, headerText, .create⟩, ⟨source, sourceText, .create⟩] ++ writes) tree tree') :
    tree'.readBytes header = .ok (sealedText headerText ++ appended header writes).toUTF8 ∧
      tree'.readBytes source = .ok (sealedText sourceText ++ appended source writes).toUTF8 := by
  obtain ⟨hheaderPath, hheaderName⟩ :=
    admissible_of_performed hperformed (List.mem_append_left _ List.mem_cons_self) hheader
  obtain ⟨hsourcePath, hsourceName⟩ := admissible_of_performed hperformed
    (List.mem_append_left _ (List.mem_cons_of_mem _ List.mem_cons_self)) hsource
  obtain ⟨second, hcreates, happends⟩ := performed_append.mp hperformed
  obtain ⟨base, directory, left, henters, hsettles, hfiles⟩ :=
    holdApart_of_creates hheader hsource hextension hway hname hlink hlink' hsame hcreates
  have hne : source ≠ header := fun h => hname (h ▸ rfl)
  have hpaths : Neighbours [header, source] (Path.way header) := by
    constructor
    · simpa using ⟨⟨_, hheader⟩, ⟨_, hsource⟩⟩
    · simpa using hway.symm
    · simp [hname, hname.symm]
  obtain ⟨-, hopen, hend⟩ := holdApart_of_appends hpaths henters hsettles hfiles happend happends
  have henters' := hopen hwrites
  have hheaderEnd := hend.files header (by simp)
  have hsourceEnd := hend.files source (by simp)
  rw [if_pos rfl] at hheaderEnd
  rw [if_neg hne] at hsourceEnd
  exact ⟨readBytes_of_reaches hheader ⟨hheaderPath, hheaderName, left, henters'⟩
      (content?_eq_some_iff.mpr hheaderEnd),
    readBytes_of_reaches hsource ⟨hsourcePath, hsourceName, left, hway ▸ henters'⟩
      (content?_eq_some_iff.mpr hsourceEnd)⟩

end Pairs

end Runs

end WireCodecs.FileTree
