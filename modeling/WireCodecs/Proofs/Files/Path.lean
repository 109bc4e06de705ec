import WireCodecs.Files.Access
import WireCodecs.Proofs.Text.Lines

/-! The segments of a path. The last one is the name of what the path stands for, the others are the
way to its directory. A file whose name has an extension lies in the directory it is joined to, and
the sibling it is written to first has the same way and one more extension. -/

namespace WireCodecs.Path

/-- The segments before the last slash. -/
def folder (path : String) : List String := (segments path).dropLast

/-- What follows the last slash. -/
def lastName (path : String) : String := (segments path).getLast?.getD ""

theorem segments_ne_nil (path : String) : segments path ≠ [] := by
  simpa [segments, Text.splitOn] using Text.splitChars_ne_nil '/' path.toList

theorem segments_eq (path : String) : segments path = folder path ++ [lastName path] := by
  obtain ⟨before, final, h⟩ := (List.eq_nil_or_concat (segments path)).resolve_left
    (segments_ne_nil path)
  rw [List.concat_eq_append] at h
  simp [folder, lastName, h]

theorem folder_of_segments {path name : String} {before : List String}
    (h : segments path = before ++ [name]) : folder path = before := by
  simp [folder, h]

theorem lastName_of_segments {path name : String} {before : List String}
    (h : segments path = before ++ [name]) : lastName path = name := by
  simp [lastName, h]

theorem ofSegments_segments (path : String) : ofSegments (segments path) = path :=
  Text.joinWith_splitOn '/' path

section Append

theorem segments_slash (front rest : String) :
    segments (front ++ "/" ++ rest) = segments front ++ segments rest := by
  simp [segments, Text.splitOn, Text.splitChars_append_cons]

/-- A text without slashes behind a path belongs to its last name. -/
theorem segments_append (front : String) {last : String} (h : '/' ∉ last.toList) :
    segments (front ++ last) = folder front ++ [lastName front ++ last] := by
  obtain ⟨pieces, piece, hfront, happend⟩ := Text.splitChars_append_of_notMem '/' front.toList
  have hsegments : segments front = pieces.map String.ofList ++ [String.ofList piece] := by
    simp [segments, Text.splitOn, hfront]
  rw [folder_of_segments hsegments, lastName_of_segments hsegments]
  simp [segments, Text.splitOn, happend last.toList h]

theorem segments_of_notMem {name : String} (h : '/' ∉ name.toList) : segments name = [name] := by
  simp [segments, Text.splitOn, Text.splitChars_of_notMem h]

theorem endsInSlash_iff (path : String) :
    endsInSlash path = true ↔ ∃ front, path = front ++ "/" := by
  rw [endsInSlash, decide_eq_true_iff, List.getLast?_eq_some_iff]
  constructor
  · rintro ⟨front, h⟩
    exact ⟨String.ofList front, by rw [← String.toList_inj, h]; simp⟩
  · rintro ⟨front, rfl⟩
    exact ⟨front.toList, by simp⟩

/-- Joining a path to a directory puts something in front and leaves its last name. -/
theorem exists_segments_join (base rest : String) :
    ∃ before, segments (join base rest) = before ++ segments rest := by
  unfold join
  split
  · exact ⟨[], rfl⟩
  · split
    · next h =>
      obtain ⟨front, rfl⟩ := (endsInSlash_iff base).mp h
      exact ⟨segments front, segments_slash front rest⟩
    · exact ⟨segments base, segments_slash base rest⟩

theorem lastName_join (base rest : String) : lastName (join base rest) = lastName rest := by
  obtain ⟨before, h⟩ := exists_segments_join base rest
  rw [segments_eq rest, ← List.append_assoc] at h
  exact lastName_of_segments h

/-- What joining puts in front of a path that is not absolute. -/
def lead (base : String) : String :=
  if base = "" then "" else if endsInSlash base then base else base ++ "/"

theorem join_of_relative {rest : String} (h : isAbsolute rest = false) (base : String) :
    join base rest = lead base ++ rest := by
  rw [join, lead, h, Bool.false_or]
  by_cases hempty : base = ""
  · simp [hempty]
  · by_cases hslash : endsInSlash base <;> simp [hempty, hslash]

@[simp] theorem join_empty (rest : String) : join "" rest = rest := by
  simp [join]

theorem join_of_absolute {rest : String} (h : isAbsolute rest = true) (base : String) :
    join base rest = rest := by
  rw [join, h, Bool.true_or, if_pos rfl]

theorem isAbsolute_append {front : String} (h : front ≠ "") (back : String) :
    isAbsolute (front ++ back) = isAbsolute front := by
  obtain ⟨c, chars, hlist⟩ := List.exists_cons_of_ne_nil fun hnil : front.toList = [] =>
    h (String.toList_inj.mp (hnil.trans rfl))
  simp [isAbsolute, hlist]

theorem endsInSlash_append {back : String} (h : back ≠ "") (front : String) :
    endsInSlash (front ++ back) = endsInSlash back := by
  have hlist : back.toList ≠ [] := fun hnil => h (String.toList_inj.mp (hnil.trans rfl))
  simp [endsInSlash, List.getLast?_append, List.getLast?_eq_some_getLast hlist]

theorem lead_lead (base : String) : lead (lead base) = lead base := by
  by_cases hempty : base = ""
  · simp [lead, hempty]
  · by_cases hslash : endsInSlash base
    · simp [lead, hempty, hslash]
    · have hend : endsInSlash (base ++ "/") = true := (endsInSlash_iff _).mpr ⟨base, rfl⟩
      simp [lead, hempty, hslash, hend]

theorem lead_join {rest : String} (h : isAbsolute rest = false) (base : String) :
    lead (join base rest) = lead base ++ lead rest := by
  rw [join_of_relative h]
  by_cases hempty : rest = ""
  · simp [hempty, lead_lead, show lead "" = "" from rfl]
  · have hne : lead base ++ rest ≠ "" := by simp [hempty]
    have hrest : lead rest = if endsInSlash rest then rest else rest ++ "/" := if_neg hempty
    rw [hrest, lead, if_neg hne, endsInSlash_append hempty]
    split
    · rfl
    · rw [String.append_assoc]

theorem isAbsolute_lead (base : String) : isAbsolute (lead base) = isAbsolute base := by
  rw [lead]
  split
  · next hempty => rw [hempty]
  · next hempty =>
    split
    · rfl
    · rw [isAbsolute_append hempty]

theorem isAbsolute_join {rest : String} (h : isAbsolute rest = false) (base : String) :
    isAbsolute (join base rest) = isAbsolute base := by
  rw [join_of_relative h, ← isAbsolute_lead base]
  by_cases hempty : lead base = ""
  · rw [hempty, String.empty_append, h]
    rfl
  · rw [isAbsolute_append hempty]

/-- A path in a directory below another one. -/
theorem join_join (base middle rest : String) :
    join (join base middle) rest = join base (join middle rest) := by
  cases hrest : isAbsolute rest with
  | true => simp only [join_of_absolute hrest]
  | false =>
    cases hmiddle : isAbsolute middle with
    | true =>
      rw [join_of_absolute hmiddle, join_of_absolute ((isAbsolute_join hrest middle).trans hmiddle)]
    | false =>
      rw [join_of_relative hrest, lead_join hmiddle,
        join_of_relative ((isAbsolute_join hrest middle).trans hmiddle), join_of_relative hrest,
        String.append_assoc]

theorem endsInSlash_of_lastName {path : String} (hempty : path ≠ "") (h : lastName path = "") :
    endsInSlash path = true := by
  obtain ⟨front, c, hpath⟩ := (List.eq_nil_or_concat path.toList).resolve_left fun hnil =>
    hempty (String.toList_inj.mp (hnil.trans rfl))
  rw [List.concat_eq_append] at hpath
  by_cases hc : c = '/'
  · simp [endsInSlash, hpath, hc]
  · have happend : path = String.ofList front ++ String.ofList [c] := by
      rw [← String.toList_inj, hpath]
      simp
    have hplain : '/' ∉ (String.ofList [c]).toList := by simpa using Ne.symm hc
    have hsegments := segments_append (String.ofList front) hplain
    rw [← happend] at hsegments
    have hlength := congrArg String.length (h.symm.trans (lastName_of_segments hsegments))
    simp at hlength

theorem slash_notMem_lastName (path : String) : '/' ∉ (lastName path).toList := by
  have hmem : lastName path ∈ segments path := by simp [segments_eq]
  simp only [segments, Text.splitOn, List.mem_map] at hmem
  obtain ⟨piece, hpiece, hname⟩ := hmem
  rw [← hname, String.toList_ofList]
  exact Text.not_mem_of_mem_splitChars hpiece

theorem lastName_of_notMem {path : String} (h : '/' ∉ path.toList) : lastName path = path := by
  rw [lastName, segments_of_notMem h]
  rfl

/-- Names without slashes that are joined to one directory lie in one folder. -/
theorem folder_join_eq (base : String) {name other : String} (hname : '/' ∉ name.toList)
    (hother : '/' ∉ other.toList) : folder (join base name) = folder (join base other) := by
  have habsolute {name : String} (h : '/' ∉ name.toList) : isAbsolute name = false := by
    rw [isAbsolute, decide_eq_false_iff_not]
    intro hhead
    exact h (List.mem_of_mem_head? hhead)
  have hjoin {name : String} (h : '/' ∉ name.toList) : folder (join base name) =
      if base = "" then [] else if endsInSlash base then (segments base).dropLast
        else segments base := by
    simp only [join, habsolute h, Bool.false_or, decide_eq_true_eq]
    split
    · exact folder_of_segments (segments_of_notMem h)
    · split
      · exact folder_of_segments (segments_append base h)
      · have hsegments := segments_slash base name
        rw [segments_of_notMem h] at hsegments
        exact folder_of_segments hsegments
  rw [hjoin hname, hjoin hother]

end Append

section Names

theorem trimSegments_concat (before : List String) {name : String} (h : isSilent name = false) :
    trimSegments (before ++ [name]) = before ++ [name] := by
  cases before with
  | nil =>
    have hname : name ≠ "" := by
      rintro rfl
      cases h
    unfold trimSegments
    split
    · next hnil => cases hnil
    · next hempty => simp_all
    · next hcons => simp_all
  | cons first rest => simp [trimSegments, h]

/-- Whether a path ends in the name of an entry, not in a slash or a step. -/
structure IsNamed (path : String) : Prop where
  ne_empty : lastName path ≠ ""
  ne_dot : lastName path ≠ "."
  ne_dots : lastName path ≠ ".."

namespace IsNamed

variable {path : String}

theorem isSilent_lastName (h : IsNamed path) : isSilent (lastName path) = false := by
  simp [isSilent, h.ne_empty, h.ne_dot]

theorem endsInSlash (h : IsNamed path) : endsInSlash path = false := by
  rw [← Bool.not_eq_true, endsInSlash_iff]
  rintro ⟨front, rfl⟩
  have hsegments := segments_slash front ""
  rw [String.append_empty, show segments "" = [""] from rfl] at hsegments
  exact h.ne_empty (lastName_of_segments hsegments)

theorem endsInStep (h : IsNamed path) : FileTree.endsInStep path = false := by
  unfold FileTree.endsInStep
  rw [segments_eq, List.getLast?_concat]
  have hdot := h.ne_dot
  have hdots := h.ne_dots
  split <;> simp_all

theorem of_endsIn (hempty : path ≠ "") (hslash : Path.endsInSlash path = false)
    (hstep : FileTree.endsInStep path = false) : IsNamed path where
  ne_empty h := by
    rw [endsInSlash_of_lastName hempty h] at hslash
    cases hslash
  ne_dot h := by simp [FileTree.endsInStep, segments_eq, h] at hstep
  ne_dots h := by simp [FileTree.endsInStep, segments_eq, h] at hstep

theorem dropSlashes (h : IsNamed path) : FileTree.dropSlashes path = path := by
  have hslash : path.toList.getLast? ≠ some '/' := by
    simpa [Path.endsInSlash] using h.endsInSlash
  have hdrop : path.toList.reverse.dropWhile (· == '/') = path.toList.reverse := by
    rw [List.getLast?_eq_head?_reverse] at hslash
    cases hr : path.toList.reverse with
    | nil => rfl
    | cons c rest =>
      rw [hr] at hslash
      simp_all
  rw [FileTree.dropSlashes, hdrop, List.reverse_reverse, String.ofList_toList]

theorem trimSegments (h : IsNamed path) :
    trimSegments (segments path) = folder path ++ [lastName path] := by
  rw [segments_eq, trimSegments_concat _ h.isSilent_lastName]

theorem fileName? (h : IsNamed path) : fileName? path = some (lastName path) := by
  rw [Path.fileName?, h.trimSegments, List.getLast?_concat]
  simp [h.ne_empty, h.ne_dot, h.ne_dots]

end IsNamed

end Names

section Extension

/-- Whether the last name of a path is a stem, a period and the extension. -/
structure HasExtension (extension path : String) : Prop where
  period : '.' ∉ extension.toList
  slash : '/' ∉ extension.toList
  name : ∃ stem, stem ≠ "" ∧ stem ≠ "." ∧ lastName path = stem ++ "." ++ extension

/-- What follows the last period of a name is its extension. -/
theorem splitName_append (stem : String) {extension : String} (hstem : stem ≠ "")
    (h : '.' ∉ extension.toList) :
    splitName (stem ++ "." ++ extension) = (stem, some extension) := by
  have hsplit : Text.splitOn '.' (stem ++ "." ++ extension) =
      Text.splitOn '.' stem ++ [extension] := by
    simp [Text.splitOn, Text.splitChars_append _ h]
  have hne : Text.splitOn '.' stem ≠ [] := by
    simpa [Text.splitOn] using Text.splitChars_ne_nil '.' stem.toList
  obtain ⟨first, pieces, hr⟩ := List.exists_cons_of_ne_nil (List.reverse_ne_nil_iff.mpr hne)
  have hjoin : Text.joinWith "." (first :: pieces).reverse = stem := by
    rw [← hr, List.reverse_reverse]
    exact Text.joinWith_splitOn '.' stem
  rw [splitName, hsplit, List.reverse_concat, hr]
  simp only [hjoin, if_neg hstem]

theorem extension_unique {stem stem' extension extension' : String} (h : '.' ∉ extension.toList)
    (h' : '.' ∉ extension'.toList) (heq : stem ++ "." ++ extension = stem' ++ "." ++ extension') :
    extension = extension' := by
  have hsplit (stem : String) {extension : String} (h : '.' ∉ extension.toList) :
      Text.splitOn '.' (stem ++ "." ++ extension) = Text.splitOn '.' stem ++ [extension] := by
    simp [Text.splitOn, Text.splitChars_append _ h]
  have hpieces := congrArg (Text.splitOn '.') heq
  rw [hsplit stem h, hsplit stem' h'] at hpieces
  simpa using (List.append_inj' hpieces rfl).2

theorem stem_period_ne {stem : String} (hempty : stem ≠ "") (hperiod : stem ≠ ".") (last : String) :
    stem ++ "." ++ last ≠ "" ∧ stem ++ "." ++ last ≠ "." ∧ stem ++ "." ++ last ≠ ".." := by
  simp only [ne_eq, ← String.toList_inj, String.toList_append] at hempty hperiod ⊢
  rcases hs : stem.toList with _ | ⟨c, rest⟩
  · simp [hs] at hempty
  · rw [hs] at hperiod
    rcases rest with _ | ⟨d, rest⟩ <;> simp_all

/-- What is put behind the last segment stands behind the whole path. -/
theorem ofSegments_concat_append (before : List String) (name last : String) :
    ofSegments (before ++ [name ++ last]) = ofSegments (before ++ [name]) ++ last := by
  induction before with
  | nil => rfl
  | cons first rest ih =>
    simp only [ofSegments, List.cons_append] at ih ⊢
    rw [Text.joinWith_cons (by simp), Text.joinWith_cons (by simp), ih, ← String.append_assoc]

theorem setExtension_eq (extension path : String) :
    Path.fileName? path = none ∧ setExtension extension path = path ∨
      ∃ front, setExtension extension path = front ++ "." ++ extension := by
  unfold setExtension
  split
  · next hnone => exact .inl ⟨hnone, rfl⟩
  · next name _ =>
    refine .inr ⟨ofSegments ((Path.trimSegments (segments path)).dropLast ++
      [(splitName name).1]), ?_⟩
    rw [← ofSegments_concat_append, ← ofSegments_concat_append]

/-- The sibling has an extension of its own, unless no name is left for it. -/
theorem exists_temporary (path : String) :
    Path.fileName? (temporary path) = none ∨ ∃ front, temporary path = front ++ ".tmp" := by
  have hset {extension rest lead : String} (h : temporary path = setExtension extension rest)
      (hlead : "." ++ extension = lead ++ ".tmp") :
      Path.fileName? (temporary path) = none ∨ ∃ front, temporary path = front ++ ".tmp" := by
    rcases setExtension_eq extension rest with ⟨hnone, hrest⟩ | ⟨front, hfront⟩
    · exact .inl (by rw [h, hrest, hnone])
    · refine .inr ⟨front ++ lead, ?_⟩
      rw [h, hfront, String.append_assoc, hlead, String.append_assoc]
  cases hextension : Path.extension? path with
  | none =>
    have htemporary : temporary path = setExtension "tmp" path := by
      simp only [temporary, withExtension, hextension]
    exact hset htemporary (show "." ++ "tmp" = "" ++ ".tmp" from rfl)
  | some extension =>
    have htemporary : temporary path = setExtension (extension ++ ".tmp")
        (String.ofList (path.toList.take (path.length - extension.length))) := by
      simp only [temporary, withExtension, hextension]
    exact hset htemporary String.append_assoc.symm

theorem IsNamed.exists_lastName_temporary {path : String} (h : IsNamed (temporary path)) :
    ∃ stem, lastName (temporary path) = stem ++ ".tmp" := by
  obtain ⟨front, hfront⟩ := (exists_temporary path).resolve_left (by simp [h.fileName?])
  rw [hfront]
  exact ⟨_, lastName_of_segments (segments_append front (by decide))⟩

variable {extension path : String}

namespace HasExtension

theorem isNamed (h : HasExtension extension path) : IsNamed path := by
  obtain ⟨stem, hempty, hperiod, hname⟩ := h.name
  obtain ⟨hne, hdot, hdots⟩ := stem_period_ne hempty hperiod extension
  exact ⟨hname ▸ hne, hname ▸ hdot, hname ▸ hdots⟩

theorem extension? (h : HasExtension extension path) : extension? path = some extension := by
  obtain ⟨stem, hempty, -, hname⟩ := h.name
  rw [Path.extension?, h.isNamed.fileName?, Option.bind_some, hname,
    splitName_append stem hempty h.period]

/-- The path is a front that keeps the period, and the extension. -/
theorem exists_append (h : HasExtension extension path) :
    ∃ front stem, path = front ++ extension ∧ folder front = folder path ∧
      lastName front = stem ++ "." ∧ stem ≠ "" ∧ stem ≠ "." := by
  obtain ⟨stem, hempty, hperiod, hname⟩ := h.name
  have hpath : path = ofSegments (folder path ++ [stem ++ "."]) ++ extension := by
    calc path = ofSegments (folder path ++ [stem ++ "." ++ extension]) := by
          rw [← hname, ← segments_eq, ofSegments_segments]
      _ = ofSegments (folder path ++ [stem ++ "."]) ++ extension :=
          ofSegments_concat_append _ _ _
  have hsegments := segments_eq path
  rw [hname] at hsegments
  generalize ofSegments (folder path ++ [stem ++ "."]) = front at hpath
  have hfront := segments_append front h.slash
  rw [← hpath, hsegments] at hfront
  obtain ⟨hfolder, hlast⟩ := List.append_inj' hfront rfl
  rw [List.singleton_inj, String.append_left_inj] at hlast
  exact ⟨front, stem, hpath, hfolder.symm, hlast.symm, hempty, hperiod⟩

/-- The sibling that a file is written to before it takes its place has one more extension. -/
theorem temporary (h : HasExtension extension path) : temporary path = path ++ ".tmp" := by
  obtain ⟨front, stem, hpath, hfolder, hlast, hempty, hperiod⟩ := h.exists_append
  have htake : String.ofList (path.toList.take (path.length - extension.length)) = front := by
    rw [hpath, String.toList_append, String.length_append, Nat.add_sub_cancel,
      ← String.length_toList, List.take_left, String.ofList_toList]
  have hne : stem ++ "." ≠ "" ∧ stem ++ "." ≠ "." ∧ stem ++ "." ≠ ".." := by
    simpa using stem_period_ne hempty hperiod ""
  have hnamed : IsNamed front := ⟨hlast ▸ hne.1, hlast ▸ hne.2.1, hlast ▸ hne.2.2⟩
  have hsegments : Path.trimSegments (segments front) = folder path ++ [stem ++ "."] := by
    rw [hnamed.trimSegments, hfolder, hlast]
  have hfile : Path.fileName? front = some (stem ++ ".") := by
    rw [hnamed.fileName?, hlast]
  have hsplit : splitName (stem ++ ".") = (stem, some "") := by
    simpa using splitName_append stem hempty (show '.' ∉ "".toList by simp)
  rw [Path.temporary, h.extension?]
  simp only
  rw [withExtension, h.extension?]
  simp only
  rw [htake, setExtension, hfile]
  simp only
  rw [hsegments, hsplit, List.dropLast_concat]
  calc ofSegments (folder path ++ [stem ++ "." ++ (extension ++ ".tmp")])
      = ofSegments (folder path ++ [stem ++ "." ++ extension ++ ".tmp"]) := by
        rw [@String.append_assoc (stem ++ ".") extension ".tmp"]
    _ = ofSegments (folder front ++ [lastName front ++ extension]) ++ ".tmp" := by
        rw [ofSegments_concat_append, hfolder, hlast]
    _ = path ++ ".tmp" := by
        rw [← segments_append front h.slash, ← hpath, ofSegments_segments]

/-- The sibling lies in the same folder. -/
theorem segments_temporary (h : HasExtension extension path) :
    segments (Path.temporary path) = folder path ++ [lastName path ++ ".tmp"] := by
  rw [h.temporary]
  exact segments_append path (by decide)

theorem hasExtension_temporary (h : HasExtension extension path) :
    HasExtension "tmp" (Path.temporary path) where
  period := by decide
  slash := by decide
  name := by
    refine ⟨lastName path, h.isNamed.ne_empty, h.isNamed.ne_dot, ?_⟩
    rw [lastName_of_segments h.segments_temporary, String.append_assoc]
    rfl

end HasExtension

theorem lastName_join_append (base stem : String) (hslash : '/' ∉ extension.toList) :
    lastName (join base (stem ++ "." ++ extension)) = lastName stem ++ "." ++ extension := by
  rw [lastName_join, String.append_assoc,
    lastName_of_segments (segments_append stem (by simpa using hslash)), String.append_assoc]

/-- A file that is named after a stem in a directory. -/
theorem hasExtension_join (base stem : String) (hperiod : '.' ∉ extension.toList)
    (hslash : '/' ∉ extension.toList) (hempty : lastName stem ≠ "") (hdot : lastName stem ≠ ".") :
    HasExtension extension (join base (stem ++ "." ++ extension)) where
  period := hperiod
  slash := hslash
  name := ⟨lastName stem, hempty, hdot, lastName_join_append base stem hslash⟩

/-- The file name without its extension. -/
def stem? (path : String) : Option String :=
  (Path.fileName? path).map fun name => (splitName name).1

/-- A file that is named after a text has the last name in this text for its stem. -/
theorem stem?_join (base stem : String) (hperiod : '.' ∉ extension.toList)
    (hslash : '/' ∉ extension.toList) (hempty : lastName stem ≠ "") (hdot : lastName stem ≠ ".") :
    stem? (join base (stem ++ "." ++ extension)) = some (lastName stem) := by
  rw [stem?, (hasExtension_join base stem hperiod hslash hempty hdot).isNamed.fileName?,
    lastName_join_append base stem hslash, Option.map_some, splitName_append _ hempty hperiod]

/-- Paths with one last name have one extension. -/
theorem HasExtension.eq_of_lastName {path' extension' : String} (h : HasExtension extension path)
    (h' : HasExtension extension' path') (heq : lastName path = lastName path') :
    extension = extension' := by
  obtain ⟨stem, -, -, hname⟩ := h.name
  obtain ⟨stem', -, -, hname'⟩ := h'.name
  rw [hname, hname'] at heq
  exact extension_unique h.period h'.period heq

end Extension

section Steps

variable {extension path : String}

/-- The steps to the directory of a path. -/
def way (path : String) : List String := (folder path).filter (· ≠ "")

theorem IsNamed.steps (h : IsNamed path) :
    FileTree.steps path = way path ++ [lastName path] := by
  rw [FileTree.steps, h.endsInSlash, segments_eq, List.filter_append, way]
  simp [h.ne_empty]

theorem HasExtension.way_temporary (h : HasExtension extension path) :
    way (Path.temporary path) = way path := by
  rw [way, folder_of_segments h.segments_temporary, way]

theorem HasExtension.lastName_temporary (h : HasExtension extension path) :
    lastName (Path.temporary path) = lastName path ++ ".tmp" :=
  lastName_of_segments h.segments_temporary

end Steps

end WireCodecs.Path
