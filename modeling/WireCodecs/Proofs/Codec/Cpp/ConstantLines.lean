import WireCodecs.Proofs.Codec.Cpp.Declarations
import WireCodecs.Proofs.Codec.Cpp.Lacks

/-! The lines of a C++ struct that declare constants, counted on the lines of the text. The
functions and the handler class of the struct open in other ways, and what is in the class is
deeper. -/

namespace WireCodecs.Cpp

open Text

def constantOpenings : List String :=
  ["    static constexpr int32_t ", "    static constexpr size_t "]

theorem oneDeep_constantOpenings : OneDeep indent constantOpenings where
  newline_notMem := by decide
  empty := by decide
  deeper line := by simp [opensWith, constantOpenings, indent, afterStart?]

/-- The constants among the lines of a member of a struct. -/
def constantLines (code : Code Empty) : List String :=
  code.linesOpening constantOpenings indent 1

theorem constantLines_append (first second : Code Empty) :
    constantLines (first ++ second) = constantLines first ++ constantLines second :=
  Code.linesOpening_append first second

theorem constantLines_all (codes : List (Code Empty)) :
    constantLines (.all codes) = codes.flatMap constantLines :=
  Code.linesOpening_all codes

theorem constantLines_blank : constantLines .blank = [] :=
  Code.linesOpening_blank oneDeep_constantOpenings

theorem constantLines_messageTypeCode {constant : String} (hconstant : Lacks isFeed constant)
    (id : MessageId) :
    constantLines (messageTypeCode constant id) =
      [indent ++ (messageTypeDeclaration constant id).line] := by
  have hopening : indent ++ (messageTypeDeclaration constant id).opening ∈ constantOpenings := by
    change indent ++ "static constexpr int32_t " ∈ constantOpenings
    decide
  have hhex : constantLines (.line ("//hex: " ++ id.hex)) = [] :=
    Code.linesOpening_member oneDeep_constantOpenings (.append (.literal rfl) id.lacks_hex)
      (by simp [opensWith, constantOpenings, afterStart?, indent])
  have hfeed : Lacks isFeed (messageTypeDeclaration constant id).line :=
    Declaration.lacks_line (.literal rfl) hconstant (lacks_toString _)
  have hcode : messageTypeCode constant id =
      .line ("//hex: " ++ id.hex) ++ .line (messageTypeDeclaration constant id).line := rfl
  rw [hcode, constantLines_append, hhex, List.nil_append]
  exact Code.linesOpening_declaration hopening hfeed

theorem line_frameSizeDeclaration (plan : Plan) :
    (frameSizeDeclaration plan).line = "static constexpr size_t REQUEST_INITIAL_FRAME_SIZE = " ++
      "ClientMessage::REQUEST_HEADER_LEN + " ++ toString plan.fixedSize ++ ";" := by
  have hstart : "static constexpr size_t REQUEST_INITIAL_FRAME_SIZE = " =
      "static constexpr size_t " ++ "REQUEST_INITIAL_FRAME_SIZE" ++ " = " := by
    simp
  unfold Declaration.line frameSizeDeclaration requestFrameSize
  rw [hstart]
  simp only [String.append_assoc]

theorem constantLines_frameSize (plan : Plan) :
    constantLines (.line ("static constexpr size_t REQUEST_INITIAL_FRAME_SIZE = " ++
        "ClientMessage::REQUEST_HEADER_LEN + " ++ toString plan.fixedSize ++ ";")) =
      [indent ++ (frameSizeDeclaration plan).line] := by
  have hopening : indent ++ (frameSizeDeclaration plan).opening ∈ constantOpenings := by
    change indent ++ "static constexpr size_t " ∈ constantOpenings
    decide
  have hfeed : Lacks isFeed (frameSizeDeclaration plan).line :=
    Declaration.lacks_line (.literal rfl) (.literal rfl) (.append (.literal rfl) (lacks_toString _))
  rw [← line_frameSizeDeclaration]
  exact Code.linesOpening_declaration hopening hfeed

theorem constantLines_requestDeclaration {plans : Plans} (h : plans.TextsLack isFeed) :
    constantLines (.line ("static ClientMessage encode_request(" ++ parameterList plans ++ ");")) =
      [] :=
  Code.linesOpening_member oneDeep_constantOpenings
    (.between rfl rfl (lacks_parameterList h.encode h.decode))
    (by simp [opensWith, constantOpenings, afterStart?, indent])

theorem constantLines_handlerClass (events : List PlannedEvent) :
    constantLines (.blank ++ handlerClass events) = [] := by
  have hclass : constantLines (handlerClass events) = [] :=
    Code.linesOpening_inner oneDeep_constantOpenings (by decide) (by decide) (by decide) (by decide)
  rw [constantLines_append, constantLines_blank, hclass, List.append_nil]

section Margin

theorem linesOpening_documentation (doc : Option String) :
    (documentation doc).linesOpening constantOpenings indent 0 = [] := by
  cases doc with
  | none => rfl
  | some doc =>
    have hopen := Code.linesOpening_margin oneDeep_constantOpenings
      (by decide : Lacks isFeed "/**") (by decide)
    have hclose := Code.linesOpening_margin oneDeep_constantOpenings
      (by decide : Lacks isFeed " */") (by decide)
    have hdoc : (Code.comment " * " (trim doc)).linesOpening constantOpenings indent 0 = [] :=
      Code.linesOpening_comment oneDeep_constantOpenings (by decide)
        (by simp [opensWith, constantOpenings, afterStart?, Page.indentation]) (by decide)
        (trim doc)
    rw [documentation, Code.linesOpening_append, Code.linesOpening_append, hopen, hdoc, hclose]
    rfl

theorem linesOpening_generatedNote :
    generatedNote.linesOpening constantOpenings indent 0 = [] := by
  refine Code.linesOpening_margin oneDeep_constantOpenings
    (.between rfl rfl lacks_fingerprintPlaceholder) ?_
  simp [opensWith, constantOpenings, afterStart?]

theorem linesOpening_struct {name : String} (hname : Lacks isFeed name)
    (members : List (Code Empty)) :
    (definition ("struct HAZELCAST_API " ++ name) members).linesOpening constantOpenings indent 0 =
      members.flatMap constantLines :=
  Code.linesOpening_outer oneDeep_constantOpenings (.append (.literal rfl) hname) (by decide)
    (by simp [opensWith, constantOpenings, afterStart?]) (by decide)

end Margin

/-- The plans of a method whose names lack characters of a kind. -/
structure PlannedMethod.TextsLack (p : Char → Bool) (plan : PlannedMethod) : Prop where
  request : plan.request.TextsLack p
  events : ∀ event ∈ plan.events, event.TextsLack p

theorem linesOpening_headerCode {service : String} {method : Method} {plan : PlannedMethod}
    (hservice : Lacks isFeed service) (hmethod : Lacks isFeed method.name)
    (hplan : plan.TextsLack isFeed) :
    (headerCode service method plan).linesOpening constantOpenings indent 0 =
      (plan.declarations method).map (indent ++ ·.line) := by
  have hevents :
      (plan.events.map fun event => messageTypeCode (eventConstant event) event.id).flatMap
        constantLines =
      plan.events.map fun event =>
        indent ++ (messageTypeDeclaration (eventConstant event) event.id).line := by
    rw [List.flatMap_map, List.map_eq_flatMap]
    exact List.flatMap_congr fun event hevent =>
      constantLines_messageTypeCode (lacks_eventConstant (hplan.events event hevent).label) event.id
  have hhandler : constantLines
      (if plan.events.isEmpty then .empty else .blank ++ handlerClass plan.events) = [] := by
    split
    · rfl
    · exact constantLines_handlerClass plan.events
  have hblank : Code.blank.linesOpening constantOpenings indent 0 = [] :=
    Code.linesOpening_blank oneDeep_constantOpenings
  simp only [headerCode, Code.linesOpening_all, List.flatMap_cons, List.flatMap_nil,
    linesOpening_generatedNote, linesOpening_documentation,
    linesOpening_struct (lacks_structName hservice hmethod), hblank, constantLines_all,
    constantLines_messageTypeCode (by decide : Lacks isFeed "REQUEST_MESSAGE_TYPE"),
    constantLines_messageTypeCode (by decide : Lacks isFeed "RESPONSE_MESSAGE_TYPE"), hevents,
    constantLines_frameSize, constantLines_requestDeclaration hplan.request, constantLines_blank,
    hhandler]
  simp [PlannedMethod.declarations]

section Codecs

variable {language : Language} {types : TypeScope} {namespaceName : String}

theorem textsLack_of_planMethod {p : Char → Bool} [Structural p] {method : Method}
    {plan : PlannedMethod} (hmethod : ∀ name ∈ method.names, Lacks p name)
    (h : planMethod ⟨language.mappingSet, types, namespaceName⟩ method = .ok plan) :
    plan.TextsLack p := by
  have hmessages : ∀ message ∈ method.messages, ∀ name ∈ message.names, Lacks p name :=
    fun message hmessage name hname =>
      hmethod name (.tail _ (List.mem_flatMap.mpr ⟨message, hmessage, hname⟩))
  have hfields : ∀ name ∈ method.request.fields.flatMap (·.names), Lacks p name :=
    fun name hname => hmessages _ List.mem_cons_self name (List.mem_append_right _ hname)
  obtain ⟨hrequest, hevents⟩ := planMethod_eq_ok_iff.mp h
  exact {
    request := RenderScope.textsLack_of_plans hfields hrequest
    events := RenderScope.textsLack_of_planEvents
      (fun message hmessage => hmessages message (.tail _ (.tail _ hmessage))) hevents }

/-- The constants of a method's struct, counted on the lines of its text. -/
theorem linesOpening_of_methodHeader {service text : String} {method : Method}
    (hservice : Lacks isFeed service) (hnames : ∀ name ∈ method.names, Lacks isFeed name)
    {plan : PlannedMethod}
    (hplan : planMethod ⟨language.mappingSet, types, namespaceName⟩ method = .ok plan)
    (h : methodHeader ⟨language.mappingSet, types, namespaceName⟩ service method = .ok text) :
    linesOpening constantOpenings text = (plan.declarations method).map (indent ++ ·.line) := by
  rw [methodHeader, hplan] at h
  rw [pure_eq_ok_iff.mp h, Code.linesOpening_render oneDeep_constantOpenings]
  exact linesOpening_headerCode hservice (hnames _ List.mem_cons_self)
    (textsLack_of_planMethod hnames hplan)

end Codecs

end WireCodecs.Cpp
