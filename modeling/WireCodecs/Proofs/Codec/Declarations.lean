import Mathlib.Data.List.Nodup
import WireCodecs.Proofs.Code.Indentation
import WireCodecs.Proofs.Codec.Lacks

/-! The constants that a class or struct declares, each on a line of the text that is one level deep
and opens with the keywords of constants. Names of constants are put together from parts that are
known and parts that are not; the known beginnings and endings of two names can tell them apart
whatever the other parts are. -/

namespace WireCodecs

/-- A line that declares a constant. -/
structure Declaration where
  /-- What stands before the name. -/
  opening : String
  name : String
  definition : String
  deriving DecidableEq, Repr

def Declaration.line (declaration : Declaration) : String :=
  declaration.opening ++ declaration.name ++ " = " ++ declaration.definition ++ ";"

theorem Declaration.lacks_line {p : Char → Bool} [Text.Structural p] {declaration : Declaration}
    (hopening : Text.Lacks p declaration.opening) (hname : Text.Lacks p declaration.name)
    (hdefinition : Text.Lacks p declaration.definition) : Text.Lacks p declaration.line :=
  (((hopening.append hname).append (.literal rfl)).append hdefinition).append (.literal rfl)

/-- Whether a line starts with one of the openings. -/
def opensWith (openings : List String) (line : String) : Bool :=
  openings.any fun opening => (Text.afterStart? opening.toList line.toList).isSome

/-- The lines of a text that start with one of the openings. -/
def linesOpening (openings : List String) (text : String) : List String :=
  (Text.splitOn '\n' text).filter (opensWith openings)

section Openings

variable {openings : List String}

theorem opensWith_append {opening : String} (h : opening ∈ openings) (rest : String) :
    opensWith openings (opening ++ rest) = true := by
  have hrest : Text.afterStart? opening.toList (opening ++ rest).toList = some rest.toList :=
    Text.afterStart?_eq_some_iff.mpr String.toList_append
  exact List.any_eq_true.mpr ⟨opening, h, Option.isSome_of_eq_some hrest⟩

/-- Openings of lines one level deep: empty lines and deeper lines have none of them. -/
structure OneDeep (indent : String) (openings : List String) : Prop where
  newline_notMem : '\n' ∉ indent.toList
  empty : opensWith openings "" = false
  deeper : ∀ line, opensWith openings (indent ++ (indent ++ line)) = false

end Openings

namespace Code

/-- The lines with one of the openings that a piece of code writes. -/
def linesOpening (openings : List String) (indent : String) (depth : Nat) (code : Code Empty) :
    List String :=
  (code.writtenLines indent depth).filter (opensWith openings)

section Lines

variable {openings : List String} {indent : String} {depth : Nat}

@[simp] theorem linesOpening_append (first second : Code Empty) :
    (first ++ second).linesOpening openings indent depth =
      first.linesOpening openings indent depth ++ second.linesOpening openings indent depth := by
  simp only [linesOpening, writtenLines_eq_pageLines, trace_append, Event.pageLines_append,
    List.filter_append]

@[simp] theorem linesOpening_empty : empty.linesOpening openings indent depth = [] :=
  rfl

@[simp] theorem linesOpening_all (codes : List (Code Empty)) :
    (all codes).linesOpening openings indent depth =
      codes.flatMap (·.linesOpening openings indent depth) := by
  induction codes with
  | nil => rfl
  | cons code codes ih => rw [all, linesOpening_append, ih, List.flatMap_cons]

theorem linesOpening_line {text : String} (h : Text.Lacks Text.isFeed text) :
    (line text).linesOpening openings indent depth =
      [Page.lineText indent depth text].filter (opensWith openings) := by
  have hpieces : Text.splitOn '\n' text = [text] := by
    rw [Text.splitOn, Text.splitChars_of_notMem (Text.lacks_isFeed_iff.mp h), List.map_singleton,
      String.ofList_toList]
  rw [linesOpening, writtenLines_eq_pageLines, trace, Event.pageLines_ofLines, hpieces,
    List.map_singleton]

theorem linesOpening_block (header close : String) (body : Code Empty) :
    (block header close body).linesOpening openings indent depth =
      (line (header ++ " \x7b")).linesOpening openings indent depth ++
        body.linesOpening openings indent (depth + 1) ++
        (line close).linesOpening openings indent depth := by
  simp only [linesOpening, writtenLines_eq_pageLines, trace, Event.pageLines_append,
    List.filter_append]

theorem linesOpening_declaration {declaration : Declaration}
    (hopening : indent ++ declaration.opening ∈ openings)
    (hfeed : Text.Lacks Text.isFeed declaration.line) :
    (line declaration.line).linesOpening openings indent 1 = [indent ++ declaration.line] := by
  have hblank : ¬ Text.isBlankText declaration.line := by
    have hend : Text.isBlank ';' = false := by decide
    simp [Declaration.line, Text.isBlankText, hend]
  have hopens : opensWith openings (indent ++ declaration.line) = true := by
    simp only [Declaration.line, String.append_assoc]
    rw [← String.append_assoc]
    exact opensWith_append hopening _
  rw [linesOpening_line hfeed, Page.lineText, if_neg hblank, Page.indentation, Page.indentation,
    String.append_empty, List.filter_cons_of_pos hopens, List.filter_nil]

variable (hdeep : OneDeep indent openings)

include hdeep

/-- Where the text ends in a line feed, the empty line behind it is not counted. -/
theorem linesOpening_render (code : Code Empty) :
    WireCodecs.linesOpening openings (code.render indent) =
      code.linesOpening openings indent 0 := by
  have hsplit : Text.splitOn '\n' (code.render indent) = code.writtenLines indent 0 ++ [""] :=
    splitOn_written hdeep.newline_notMem 0 code
  rw [WireCodecs.linesOpening, hsplit, List.filter_append,
    List.filter_cons_of_neg (by simp [hdeep.empty]), List.filter_nil, List.append_nil,
    linesOpening]

theorem linesOpening_blank : blank.linesOpening openings indent depth = [] := by
  have hlines : blank.writtenLines indent depth = [""] :=
    (writtenLines_eq_pageLines blank).trans rfl
  rw [linesOpening, hlines, List.filter_cons_of_neg (by simp [hdeep.empty]), List.filter_nil]

theorem linesOpening_deeper (code : Code Empty) :
    code.linesOpening openings indent (depth + 2) = [] := by
  rw [linesOpening, writtenLines_succ, writtenLines_succ, List.filter_eq_nil_iff]
  intro line hline
  obtain ⟨once, honce, rfl⟩ := List.mem_map.mp hline
  obtain ⟨start, -, rfl⟩ := List.mem_map.mp honce
  by_cases hstart : start = ""
  · simp [Text.indentLine, hstart, hdeep.empty]
  · simp [Text.indentLine, hstart, hdeep.deeper]

theorem linesOpening_line_of_not {text : String} (hfeed : Text.Lacks Text.isFeed text)
    (h : opensWith openings (Page.indentation indent depth ++ text) = false) :
    (line text).linesOpening openings indent depth = [] := by
  have hwritten : opensWith openings (Page.lineText indent depth text) = false := by
    unfold Page.lineText
    split
    · exact hdeep.empty
    · exact h
  rw [linesOpening_line hfeed, List.filter_cons_of_neg (by simp [hwritten]), List.filter_nil]

/-- A line at the margin. -/
theorem linesOpening_margin {text : String} (hfeed : Text.Lacks Text.isFeed text)
    (h : opensWith openings text = false) : (line text).linesOpening openings indent 0 = [] :=
  linesOpening_line_of_not hdeep hfeed (by rwa [Page.indentation, String.empty_append])

/-- A line of a member. -/
theorem linesOpening_member {text : String} (hfeed : Text.Lacks Text.isFeed text)
    (h : opensWith openings (indent ++ text) = false) :
    (line text).linesOpening openings indent 1 = [] :=
  linesOpening_line_of_not hdeep hfeed
    (by rwa [Page.indentation, Page.indentation, String.append_empty])

variable {header close : String}

/-- A block that is a member itself has no lines one level deep inside. -/
theorem linesOpening_inner {body : Code Empty} (hheader : Text.Lacks Text.isFeed header)
    (hclose : Text.Lacks Text.isFeed close)
    (hopens : opensWith openings (indent ++ (header ++ " \x7b")) = false)
    (hcloses : opensWith openings (indent ++ close) = false) :
    (block header close body).linesOpening openings indent 1 = [] := by
  rw [linesOpening_block, linesOpening_deeper hdeep,
    linesOpening_member hdeep (hheader.append (by decide)) hopens,
    linesOpening_member hdeep hclose hcloses, List.append_nil, List.append_nil]

/-- Of a block at the margin the members count. -/
theorem linesOpening_outer {members : List (Code Empty)} (hheader : Text.Lacks Text.isFeed header)
    (hclose : Text.Lacks Text.isFeed close)
    (hopens : opensWith openings (header ++ " \x7b") = false)
    (hcloses : opensWith openings close = false) :
    (block header close (all members)).linesOpening openings indent 0 =
      members.flatMap (·.linesOpening openings indent 1) := by
  rw [linesOpening_block, linesOpening_margin hdeep (hheader.append (by decide)) hopens,
    linesOpening_margin hdeep hclose hcloses, linesOpening_all, List.nil_append, List.append_nil]

/-- A comment whose lead opens no line. -/
theorem linesOpening_comment {lead : String} (hlead : Text.Lacks Text.isFeed lead)
    (hopens : ∀ rest, opensWith openings (Page.indentation indent depth ++ (lead ++ rest)) = false)
    (htrimmed : opensWith openings (Page.indentation indent depth ++ Text.trimEnd lead) = false)
    (text : String) : (comment lead text).linesOpening openings indent depth = [] := by
  have hlines : (comment lead text).linesOpening openings indent depth =
      (Text.lines text).flatMap fun line =>
        (Code.line (Page.commentLine lead line)).linesOpening openings indent depth := by
    simp only [linesOpening, writtenLines_eq_pageLines, trace, Event.pageLines_flatMap,
      List.filter_flatMap]
  rw [hlines, List.flatMap_eq_nil_iff]
  intro line hline
  have hfeed : Text.Lacks Text.isFeed line :=
    Text.lacks_isFeed_iff.mpr (Text.newline_notMem_of_mem_lines hline)
  unfold Page.commentLine
  split
  · exact linesOpening_line_of_not hdeep hlead.trimEnd htrimmed
  · exact linesOpening_line_of_not hdeep (hlead.append hfeed) (hopens line)

end Lines

end Code

section Apart

variable {α β : Type} {xs ys : List α}

/-- Lists whose members differ in some respect share none. -/
theorem nodup_append_iff_of_key (key : α → β) (common : β) (hxs : ∀ x ∈ xs, key x = common)
    (hys : ∀ y ∈ ys, key y ≠ common) : (xs ++ ys).Nodup ↔ xs.Nodup ∧ ys.Nodup := by
  have hdisjoint : xs.Disjoint ys := fun a hx hy => hys a hy (hxs a hx)
  rw [List.nodup_append']
  exact ⟨fun h => ⟨h.1, h.2.1⟩, fun h => ⟨h.1, h.2, hdisjoint⟩⟩

/-- Names are as distinct as the forms between a common beginning and a common ending. -/
theorem nodup_map_iff_of_between {name form : α → String} (start tail : String)
    (h : ∀ x, name x = start ++ form x ++ tail) :
    (xs.map name).Nodup ↔ (xs.map form).Nodup := by
  have hinjective : Function.Injective fun middle => start ++ middle ++ tail := fun _ _ hnames =>
    (String.append_right_inj start).mp ((String.append_left_inj tail).mp hnames)
  rw [← List.nodup_map_iff (l := xs.map form) hinjective, List.map_map]
  simp only [funext h, Function.comp_def]

/-- The first characters of a name. -/
def beginning (name : String) : List Char := name.toList.take 3

/-- The last characters of a name, from the back. -/
def ending (name : String) : List Char := name.toList.reverse.take 3

theorem beginning_append {start : String} (h : 3 ≤ start.toList.length) (rest : String) :
    beginning (start ++ rest) = beginning start := by
  rw [beginning, beginning, String.toList_append, List.take_append_of_le_length h]

theorem ending_append {tail : String} (h : 3 ≤ tail.toList.length) (front : String) :
    ending (front ++ tail) = ending tail := by
  have hlength : 3 ≤ tail.toList.reverse.length := by rwa [List.length_reverse]
  rw [ending, ending, String.toList_append, List.reverse_append,
    List.take_append_of_le_length hlength]

/-- Names that begin as those of requests, responses and events do are apart from each other. -/
theorem nodup_roles_iff {requests responses events : List String}
    (hrequests : ∀ name ∈ requests, beginning name = ['R', 'E', 'Q'])
    (hresponses : ∀ name ∈ responses, beginning name = ['R', 'E', 'S'])
    (hevents : ∀ name ∈ events, beginning name = ['E', 'V', 'E']) :
    (requests ++ (responses ++ events)).Nodup ↔
      requests.Nodup ∧ responses.Nodup ∧ events.Nodup := by
  have hlast : (responses ++ events).Nodup ↔ responses.Nodup ∧ events.Nodup := by
    refine nodup_append_iff_of_key beginning _ hresponses fun name hname => ?_
    rw [hevents name hname]
    decide
  rw [← hlast]
  refine nodup_append_iff_of_key beginning _ hrequests fun name hname => ?_
  rcases List.mem_append.mp hname with hname | hname
  · rw [hresponses name hname]
    decide
  · rw [hevents name hname]
    decide

end Apart

section Forms

/-- The names of the fields with a width, as constants have them. -/
def TypeTable.fixedForms (table : TypeTable) (fields : List Field) : List String :=
  (table.partitionFields fields).1.map fun field => Naming.upperSnake field.name

/-- The labels of the events, as constants have them. -/
def Method.labelForms (method : Method) : List String :=
  method.events.zipIdx.map fun entry => Naming.upperSnake (RenderScope.eventLabel entry.2 entry.1)

/-- The names of the fields with a width in all events, each behind the label of its event. -/
def Method.eventFieldForms (table : TypeTable) (method : Method) : List String :=
  method.events.zipIdx.flatMap fun entry => (table.fixedForms entry.1.fields).map fun form =>
    Naming.upperSnake (RenderScope.eventLabel entry.2 entry.1) ++ "_" ++ form

/-- Where the forms of names take the names of constants from, no form is there twice. -/
structure Method.FormsDiffer (table : TypeTable) (method : Method) : Prop where
  request : (table.fixedForms method.request.fields).Nodup
  response : (table.fixedForms method.response.fields).Nodup
  labels : method.labelForms.Nodup
  eventFields : (method.eventFieldForms table).Nodup

namespace RenderScope

variable {scope : RenderScope}

theorem fixedForms_of_plan {direction : Direction} {fields : List Field} {plan : Plan}
    (h : scope.plan direction fields = .ok plan) :
    plan.fixed.map (fun planned => Naming.upperSnake planned.field.name) =
      scope.types.table.fixedForms fields := by
  rw [TypeTable.fixedForms, ← map_fixed_of_plan h, List.map_map]
  rfl

variable {method : Method} {events : List PlannedEvent}
  (h : scope.planEvents 0 method.events = .ok events)

include h

theorem labelForms_of_planEvents :
    events.map (fun event => Naming.upperSnake event.label) = method.labelForms := by
  rw [Method.labelForms, eq_comm, ← List.forall₂_eq_eq_eq, List.forall₂_map_left_iff,
    List.forall₂_map_right_iff]
  refine (plansEvent_of_planEvents h).imp fun entry event hplanned => ?_
  rw [hplanned.label]

theorem eventFieldForms_of_planEvents :
    (events.flatMap fun event => event.plans.encode.fixed.map fun planned =>
        Naming.upperSnake event.label ++ "_" ++ Naming.upperSnake planned.field.name) =
      method.eventFieldForms scope.types.table := by
  rw [Method.eventFieldForms, List.flatMap_def, List.flatMap_def]
  refine congrArg List.flatten (Eq.symm ?_)
  rw [← List.forall₂_eq_eq_eq, List.forall₂_map_left_iff, List.forall₂_map_right_iff]
  refine (plansEvent_of_planEvents h).imp fun entry event hplanned => ?_
  rw [hplanned.label, ← fixedForms_of_plan (plans_eq_ok_iff.mp hplanned.plans).1, List.map_map]
  rfl

end RenderScope

end Forms

end WireCodecs
