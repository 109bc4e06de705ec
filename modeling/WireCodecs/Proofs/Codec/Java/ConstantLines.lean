import WireCodecs.Proofs.Codec.Java.Declarations
import WireCodecs.Proofs.Codec.Java.Lacks

/-! The lines of a Java class that declare constants. Each member of the class is gone through:
constants are one level deep, what is in methods and inner classes is deeper, and the lines around
these go on with no keyword of constants behind `public static` and `private`. All of it is on the
lines of the text as long as names have no line feeds. -/

namespace WireCodecs.Java

open Text

def constantOpenings : List String :=
  ["    public static final int ", "    private static final int "]

theorem oneDeep_constantOpenings : OneDeep indent constantOpenings where
  newline_notMem := by decide
  empty := by decide
  deeper line := by simp [opensWith, constantOpenings, indent, afterStart?]

/-- What is no keyword opens no constant behind the keywords that constants begin with. -/
theorem opensWith_capitalised {word : String} (h : Naming.isCapitalised word) :
    opensWith constantOpenings ("    " ++ ("public static " ++ word)) = false ∧
      opensWith constantOpenings ("    " ++ ("private " ++ word)) = false := by
  unfold Naming.isCapitalised at h
  cases hword : word.toList with
  | nil => simp [opensWith, constantOpenings, afterStart?, hword]
  | cons first rest =>
    have hfirst : first.isLower = false := by simpa [hword] using h
    have hf : 'f' ≠ first := by rintro rfl; exact absurd hfirst (by decide)
    have hs : 's' ≠ first := by rintro rfl; exact absurd hfirst (by decide)
    simp [opensWith, constantOpenings, afterStart?, hword, hf, hs]

theorem isCapitalised_className (service method : String) :
    Naming.isCapitalised (className service method) :=
  Naming.isCapitalised_append (Naming.isCapitalised_append (Naming.isCapitalised_capital service)
    (Naming.isCapitalised_capital method)) (by decide)

/-- The constants among the lines of a member of a class. -/
def constantLines (code : Code Empty) : List String :=
  code.linesOpening constantOpenings indent 1

theorem constantLines_append (first second : Code Empty) :
    constantLines (first ++ second) = constantLines first ++ constantLines second :=
  Code.linesOpening_append first second

theorem constantLines_all (codes : List (Code Empty)) :
    constantLines (.all codes) = codes.flatMap constantLines :=
  Code.linesOpening_all codes

theorem constantLines_blank : constantLines .blank = [] :=
  Code.linesOpening_blank oneDeep_constantOpenings

theorem constantLines_braces {header : String} {body : List (Code Empty)}
    (hfeed : Lacks isFeed header)
    (hheader : opensWith constantOpenings ("    " ++ (header ++ " \x7b")) = false) :
    constantLines (.braces header body) = [] :=
  Code.linesOpening_inner oneDeep_constantOpenings hfeed (by decide) hheader (by decide)

theorem constantLines_constant {constant : Constant}
    (h : Lacks isFeed constant.name ∧ Lacks isFeed constant.definition) :
    constantLines constant.code = [indent ++ constant.declaration.line] := by
  have hopening : indent ++ constant.declaration.opening ∈ constantOpenings := by
    change indent ++ "private static final int " ∈ constantOpenings
    decide
  have hfeed : Lacks isFeed constant.declaration.line :=
    Declaration.lacks_line (.literal rfl) h.1 h.2
  have hcode : constant.code = .line constant.declaration.line := rfl
  rw [constantLines, hcode]
  exact Code.linesOpening_declaration hopening hfeed

theorem constantLines_offsetCode {lead base : String} {plan : Plan} (hlead : Lacks isFeed lead)
    (hbase : Lacks isFeed base) (hplan : plan.TextsLack isFeed) :
    constantLines (offsetCode lead base plan) =
      (offsetDeclarations lead base plan).map (indent ++ ·.line) := by
  rw [constantLines, offsetCode, Code.linesOpening_all, List.flatMap_map, offsetDeclarations,
    List.map_map, List.map_eq_flatMap]
  refine List.flatMap_congr fun constant hconstant => constantLines_constant ?_
  exact lacks_of_mem_offsetChain hlead
    (fun planned hmem => hplan planned (List.mem_of_mem_filter hmem)) hbase constant hconstant

theorem constantLines_messageTypeCode {lead : String} (hlead : Lacks isFeed lead) (id : MessageId) :
    constantLines (messageTypeCode lead id) =
      [indent ++ (messageTypeDeclaration lead id).line] := by
  have hopening : indent ++ (messageTypeDeclaration lead id).opening ∈ constantOpenings := by
    change indent ++ "public static final int " ∈ constantOpenings
    decide
  have hhex : (Code.line ("//hex: " ++ id.hex)).linesOpening constantOpenings indent 1 = [] :=
    Code.linesOpening_member oneDeep_constantOpenings (.append (.literal rfl) id.lacks_hex)
      (by simp [opensWith, constantOpenings, afterStart?, indent])
  have hfeed : Lacks isFeed (messageTypeDeclaration lead id).line :=
    Declaration.lacks_line (.literal rfl) (hlead.append (.literal rfl)) (lacks_toString _)
  have hcode : messageTypeCode lead id =
      .line ("//hex: " ++ id.hex) ++ .line (messageTypeDeclaration lead id).line := rfl
  rw [constantLines, hcode, Code.linesOpening_append, hhex, List.nil_append]
  exact Code.linesOpening_declaration hopening hfeed

theorem constantLines_eventConstants {event : PlannedEvent} (h : event.TextsLack isFeed) :
    constantLines (eventConstants event) = (eventDeclarations event).map (indent ++ ·.line) := by
  have hlead : Lacks isFeed (eventLead event.label) := lacks_eventLead h.label
  have hbase : Lacks isFeed eventBase := by decide
  have htype := constantLines_messageTypeCode hlead event.id
  have hoffsets := constantLines_offsetCode hlead hbase h.plans.encode
  rw [eventConstants, constantLines_append, htype, hoffsets, eventDeclarations, List.map_cons,
    List.singleton_append]

theorem constantLines_parametersClass {name : String} (hname : Lacks isFeed name) (plan : Plan) :
    constantLines (parametersClass name plan) = [] := by
  have hannotation : constantLines
      (.line ("@edu.umd.cs.findbugs.annotations.SuppressFBWarnings" ++
        "(\x7b\"URF_UNREAD_PUBLIC_OR_PROTECTED_FIELD\"\x7d)")) = [] :=
    Code.linesOpening_member oneDeep_constantOpenings (by decide) (by decide)
  have hclass := @constantLines_braces ("public static class " ++ name)
    [separated (plan.fields.map parameterField)] (.append (.literal rfl) hname)
    (by simp [opensWith, constantOpenings, afterStart?])
  rw [parametersClass, constantLines_append, hannotation, hclass, List.append_nil]

theorem constantLines_requestEncoder {operation : String} {plan : Plan}
    (h : plan.TextsLack isFeed) : constantLines (requestEncoder operation plan) = [] :=
  constantLines_braces (.between rfl rfl (lacks_parameterList h))
    (by simp [opensWith, constantOpenings, afterStart?])

theorem constantLines_responseEncoder {plan : Plan} (h : plan.TextsLack isFeed) :
    constantLines (responseEncoder plan) = [] :=
  constantLines_braces (.between rfl rfl (lacks_parameterList h))
    (by simp [opensWith, constantOpenings, afterStart?])

theorem constantLines_eventEncoder {event : PlannedEvent} (h : event.TextsLack isFeed) :
    constantLines (.blank ++ eventEncoder event) = [] := by
  have hencoder : constantLines (eventEncoder event) = [] :=
    constantLines_braces (.append (.append (.append (.append (.literal rfl) h.label) (.literal rfl))
      (lacks_parameterList h.plans.encode)) (.literal rfl))
      (by simp [opensWith, constantOpenings, afterStart?])
  rw [constantLines_append, constantLines_blank, hencoder, List.append_nil]

theorem constantLines_messageDecoder {codecClass name target lead : String} {plan : Plan}
    (hclass : Lacks isFeed codecClass) (hcapitalised : Naming.isCapitalised codecClass)
    (hname : Lacks isFeed name) :
    constantLines (messageDecoder codecClass name target lead plan) = [] := by
  have hparameters : Lacks isFeed (name ++ "Parameters") := hname.append (.literal rfl)
  refine constantLines_braces ?_ ?_
  · exact .append (.append (.append (.append (.between rfl rfl hclass) hparameters) (.literal rfl))
      hname) (.literal rfl)
  · simp only [String.append_assoc]
    refine (opensWith_capitalised (Naming.isCapitalised_append hcapitalised ?_)).1
    simp [Naming.isCapitalised]

theorem constantLines_constructor {name : String} (hname : Lacks isFeed name)
    (hcapitalised : Naming.isCapitalised name) :
    constantLines (.braces ("private " ++ name ++ "()") []) = [] := by
  refine constantLines_braces (.between rfl rfl hname) ?_
  simp only [String.append_assoc]
  exact (opensWith_capitalised (Naming.isCapitalised_append hcapitalised (by decide))).2

theorem constantLines_eventHandler (events : List PlannedEvent) :
    constantLines (.blank ++ eventHandler events) = [] := by
  have hhandler : constantLines (eventHandler events) = [] :=
    constantLines_braces (by decide) (by decide)
  rw [constantLines_append, constantLines_blank, hhandler, List.append_nil]

section Margin

theorem linesOpening_fileHeader {namespaceName : String} (h : Lacks isFeed namespaceName) :
    (fileHeader namespaceName).linesOpening constantOpenings indent 0 = [] := by
  have hfeed : Lacks isFeed ("package " ++ namespaceName ++ ";") := .between rfl rfl h
  have hpackage := Code.linesOpening_margin oneDeep_constantOpenings hfeed
    (by simp [opensWith, constantOpenings, afterStart?])
  have hblank : Code.blank.linesOpening constantOpenings indent 0 = [] :=
    Code.linesOpening_blank oneDeep_constantOpenings
  simp only [fileHeader, Code.linesOpening_all, List.flatMap_cons, List.flatMap_nil, hpackage,
    hblank]
  decide

theorem linesOpening_documentation (doc : Option String) {since : Option String}
    (h : ∀ version ∈ since, Lacks isFeed version) :
    (documentation doc since).linesOpening constantOpenings indent 0 = [] := by
  have hdoc (text : String) :
      (Code.comment " * " text).linesOpening constantOpenings indent 0 = [] :=
    Code.linesOpening_comment oneDeep_constantOpenings (by decide)
      (by simp [opensWith, constantOpenings, afterStart?, Page.indentation]) (by decide) text
  have hsince (version : String) (hversion : Lacks isFeed version) :
      (Code.line (" * @since " ++ version)).linesOpening constantOpenings indent 0 = [] :=
    Code.linesOpening_margin oneDeep_constantOpenings (.append (.literal rfl) hversion)
      (by simp [opensWith, constantOpenings, afterStart?])
  have hlines {first second : Code Empty}
      (hfirst : first.linesOpening constantOpenings indent 0 = [])
      (hsecond : second.linesOpening constantOpenings indent 0 = []) :
      (Code.line "/**" ++ first ++ second ++ Code.line " */").linesOpening constantOpenings indent
        0 = [] := by
    have hopen := Code.linesOpening_margin oneDeep_constantOpenings
      (by decide : Lacks isFeed "/**") (by decide)
    have hclose := Code.linesOpening_margin oneDeep_constantOpenings
      (by decide : Lacks isFeed " */") (by decide)
    simp only [Code.linesOpening_append, hopen, hfirst, hsecond, hclose, List.append_nil]
  cases doc with
  | none =>
    cases since with
    | none => rfl
    | some since => exact hlines rfl (hsince since (h since rfl))
  | some doc =>
    cases since with
    | none => exact hlines (hdoc (trim doc)) rfl
    | some since => exact hlines (hdoc (trim doc)) (hsince since (h since rfl))

theorem linesOpening_generatedNote :
    generatedNote.linesOpening constantOpenings indent 0 = [] := by
  refine Code.linesOpening_margin oneDeep_constantOpenings
    (.between rfl rfl lacks_fingerprintPlaceholder) ?_
  simp [opensWith, constantOpenings, afterStart?]

theorem linesOpening_class {name : String} (hname : Lacks isFeed name)
    (members : List (Code Empty)) :
    (Code.braces ("public final class " ++ name) members).linesOpening constantOpenings indent 0 =
      members.flatMap constantLines :=
  Code.linesOpening_outer oneDeep_constantOpenings (.append (.literal rfl) hname) (by decide)
    (by simp [opensWith, constantOpenings, afterStart?]) (by decide)

end Margin

/-- The plans of a method whose names lack characters of a kind. -/
structure PlannedMethod.TextsLack (p : Char → Bool) (plan : PlannedMethod) : Prop where
  request : plan.request.TextsLack p
  response : plan.response.TextsLack p
  events : ∀ event ∈ plan.events, event.TextsLack p

theorem linesOpening_methodCode {scope : RenderScope} {service : String} {method : Method}
    {plan : PlannedMethod} (hnamespace : Lacks isFeed scope.namespaceName)
    (hservice : Lacks isFeed service) (hmethod : Lacks isFeed method.name)
    (hsince : ∀ version ∈ method.since, Lacks isFeed version) (hplan : plan.TextsLack isFeed) :
    (methodCode scope service method plan).linesOpening constantOpenings indent 0 =
      (plan.declarations method).map (indent ++ ·.line) := by
  have hclass := lacks_className hservice hmethod
  have hrequest : Lacks isFeed requestLead := by decide
  have hresponse : Lacks isFeed responseLead := by decide
  have hconstants : (plan.events.map eventConstants).flatMap constantLines =
      (plan.events.flatMap eventDeclarations).map (indent ++ ·.line) := by
    rw [List.flatMap_map, List.map_flatMap]
    exact List.flatMap_congr fun event hevent =>
      constantLines_eventConstants (hplan.events event hevent)
  have hencoders : (plan.events.map fun event => Code.blank ++ eventEncoder event).flatMap
      constantLines = [] := by
    rw [List.flatMap_map, List.flatMap_eq_nil_iff]
    exact fun event hevent => constantLines_eventEncoder (hplan.events event hevent)
  have hcapitalised := isCapitalised_className service method.name
  have hparameters (plan : Plan) : constantLines (parametersClass "RequestParameters" plan) = [] ∧
      constantLines (parametersClass "ResponseParameters" plan) = [] :=
    ⟨constantLines_parametersClass (by decide) plan, constantLines_parametersClass (by decide) plan⟩
  have hdecoder (name target lead : String) (plan : Plan) (hname : Lacks isFeed name) :
      constantLines (messageDecoder (className service method.name) name target lead plan) = [] :=
    constantLines_messageDecoder hclass hcapitalised hname
  have hhandler : constantLines
      (if plan.events.isEmpty then .empty else .blank ++ eventHandler plan.events) = [] := by
    split
    · rfl
    · exact constantLines_eventHandler plan.events
  simp only [methodCode, Code.linesOpening_all, List.flatMap_cons, List.flatMap_nil,
    linesOpening_fileHeader hnamespace, linesOpening_documentation _ hsince,
    linesOpening_generatedNote, linesOpening_class hclass, constantLines_all,
    constantLines_messageTypeCode hrequest, constantLines_messageTypeCode hresponse,
    constantLines_offsetCode hrequest (by decide : Lacks isFeed requestBase) hplan.request.encode,
    constantLines_offsetCode hresponse (by decide : Lacks isFeed responseBase)
      hplan.response.encode,
    hconstants, hencoders, constantLines_constructor hclass hcapitalised, hhandler,
    constantLines_blank, hparameters,
    constantLines_requestEncoder hplan.request.encode,
    constantLines_responseEncoder hplan.response.encode,
    hdecoder "Request" _ _ _ (by decide), hdecoder "Response" _ _ _ (by decide)]
  simp only [PlannedMethod.declarations, List.map_cons, List.map_append, List.nil_append,
    List.append_nil, List.cons_append]

/-- A constant in the header of the class would come first. -/
theorem exists_linesOpening_methodCode {scope : RenderScope} {service : String} {method : Method}
    {plan : PlannedMethod} (hnamespace : Lacks isFeed scope.namespaceName)
    (hsince : ∀ version ∈ method.since, Lacks isFeed version) :
    ∃ rest, (methodCode scope service method plan).linesOpening constantOpenings indent 0 =
      (Code.line ("public final class " ++ className service method.name ++ " \x7b")).linesOpening
          constantOpenings indent 0 ++
        (indent ++ (messageTypeDeclaration requestLead method.request.id).line) :: rest := by
  have htype := constantLines_messageTypeCode (by decide : Lacks isFeed requestLead)
    method.request.id
  rw [constantLines] at htype
  simp only [methodCode, Code.linesOpening_all, List.flatMap_cons, List.flatMap_nil,
    linesOpening_fileHeader hnamespace, linesOpening_documentation _ hsince,
    linesOpening_generatedNote, Code.braces, Code.linesOpening_block, Nat.zero_add, htype,
    List.nil_append, List.cons_append, List.append_assoc]
  exact ⟨_, rfl⟩

section CustomTypes

variable {types : TypeScope} {namespaceName : String} {type : CustomType} {plans : Plans}

theorem constantLines_customDeclarations (hplans : plans.TextsLack isFeed) :
    constantLines (if plans.encode.fixed.isEmpty then .empty
        else offsetCode "" "0" plans.encode ++ .blank) =
      (customDeclarations plans).map (indent ++ ·.line) := by
  rw [customDeclarations]
  split
  · rfl
  · rw [constantLines_append, constantLines_blank, List.append_nil,
      constantLines_offsetCode (.literal rfl) (by decide) hplans.encode]

theorem constantLines_customEncoder {typeName receiver : String} (htype : Lacks isFeed typeName)
    (hreceiver : Lacks isFeed receiver) (body : List (Code Empty)) :
    constantLines (.braces ("public static void encode(ClientMessage clientMessage, " ++ typeName ++
      " " ++ receiver ++ ")") body) = [] := by
  refine constantLines_braces ?_ (by simp [opensWith, constantOpenings, afterStart?])
  exact .append (.append (.between rfl rfl htype) hreceiver) (.literal rfl)

theorem constantLines_customDecoder {typeName : String} (htype : Lacks isFeed typeName)
    (hcapitalised : Naming.isCapitalised typeName) (body : List (Code Empty)) :
    constantLines (.braces ("public static " ++ typeName ++
      " decode(ClientMessage.ForwardFrameIterator iterator)") body) = [] := by
  refine constantLines_braces (.between rfl rfl htype) ?_
  simp only [String.append_assoc]
  exact (opensWith_capitalised (Naming.isCapitalised_append hcapitalised (by decide))).1

theorem linesOpening_customCode (hnamespace : Lacks isFeed namespaceName)
    (hname : Lacks isFeed type.name) (hsince : ∀ version ∈ type.since, Lacks isFeed version)
    (hplans : plans.TextsLack isFeed) :
    (customCode ⟨mappingSet, types, namespaceName⟩ type plans).linesOpening constantOpenings
        indent 0 =
      (customDeclarations plans).map (indent ++ ·.line) := by
  have htype : Lacks isFeed (mappingSet.typeCase type.name) := Language.java.lacks_typeCase hname
  have hcapitalised : Naming.isCapitalised (mappingSet.typeCase type.name) :=
    Naming.isCapitalised_pascal type.name
  have hreceiver : Lacks isFeed (mappingSet.parameter (mappingSet.typeCase type.name)) :=
    Language.java.lacks_parameter htype
  have hclass : Lacks isFeed (mappingSet.typeCase type.name ++ "Codec") :=
    htype.append (.literal rfl)
  have hconstructor := constantLines_constructor hclass
    (Naming.isCapitalised_append hcapitalised (by decide))
  simp only [customCode, Code.linesOpening_all, List.flatMap_cons, List.flatMap_nil,
    linesOpening_fileHeader hnamespace, linesOpening_documentation _ hsince,
    linesOpening_generatedNote, linesOpening_class hclass,
    constantLines_customDeclarations hplans, hconstructor, constantLines_blank,
    constantLines_customEncoder htype hreceiver,
    constantLines_customDecoder htype hcapitalised, List.nil_append, List.append_nil]

end CustomTypes

section Codecs

variable {language : Language} {types : TypeScope} {namespaceName : String}

theorem textsLack_of_planMethod {p : Char → Bool} [Structural p] {method : Method}
    {plan : PlannedMethod} (hmethod : ∀ name ∈ method.names, Lacks p name)
    (h : planMethod ⟨language.mappingSet, types, namespaceName⟩ method = .ok plan) :
    plan.TextsLack p := by
  have hmessages : ∀ message ∈ method.messages, ∀ name ∈ message.names, Lacks p name :=
    fun message hmessage name hname =>
      hmethod name (.tail _ (List.mem_flatMap.mpr ⟨message, hmessage, hname⟩))
  have hfields : ∀ message ∈ method.messages, ∀ name ∈ message.fields.flatMap (·.names),
      Lacks p name :=
    fun message hmessage name hname =>
      hmessages message hmessage name (List.mem_append_right _ hname)
  obtain ⟨hrequest, hresponse, hevents⟩ := planMethod_eq_ok_iff.mp h
  exact {
    request := RenderScope.textsLack_of_plans (hfields _ List.mem_cons_self) hrequest
    response := RenderScope.textsLack_of_plans (hfields _ (.tail _ List.mem_cons_self)) hresponse
    events := RenderScope.textsLack_of_planEvents
      (fun message hmessage => hmessages message (.tail _ (.tail _ hmessage))) hevents }

/-- The constants of a method's class, counted on the lines of its text. -/
theorem linesOpening_of_methodCodec {service text : String} {method : Method}
    (hnamespace : Lacks isFeed namespaceName) (hservice : Lacks isFeed service)
    (hsince : ∀ version ∈ method.since, Lacks isFeed version)
    (hnames : ∀ name ∈ method.names, Lacks isFeed name) {plan : PlannedMethod}
    (hplan : planMethod ⟨language.mappingSet, types, namespaceName⟩ method = .ok plan)
    (h : methodCodec ⟨language.mappingSet, types, namespaceName⟩ service method = .ok text) :
    linesOpening constantOpenings text = (plan.declarations method).map (indent ++ ·.line) := by
  rw [methodCodec, hplan] at h
  rw [pure_eq_ok_iff.mp h, Code.linesOpening_render oneDeep_constantOpenings]
  exact linesOpening_methodCode hnamespace hservice (hnames _ List.mem_cons_self) hsince
    (textsLack_of_planMethod hnames hplan)

/-- The constants of a custom type's class, counted on the lines of its text. -/
theorem linesOpening_of_customCodec {type : CustomType} {text : String}
    (hnamespace : Lacks isFeed namespaceName)
    (hsince : ∀ version ∈ type.since, Lacks isFeed version)
    (hnames : ∀ name ∈ type.names, Lacks isFeed name) {plans : Plans}
    (hplans : RenderScope.plans ⟨mappingSet, types, namespaceName⟩ type.fields = .ok plans)
    (h : customCodec ⟨mappingSet, types, namespaceName⟩ type = .ok text) :
    linesOpening constantOpenings text = (customDeclarations plans).map (indent ++ ·.line) := by
  have hjava : RenderScope.plans ⟨Language.java.mappingSet, types, namespaceName⟩ type.fields =
      .ok plans := hplans
  have hlack : plans.TextsLack isFeed :=
    RenderScope.textsLack_of_plans (fun name hname => hnames name (.tail _ hname)) hjava
  rw [customCodec, hplans] at h
  rw [pure_eq_ok_iff.mp h, Code.linesOpening_render oneDeep_constantOpenings]
  exact linesOpening_customCode hnamespace (hnames _ List.mem_cons_self) hsince hlack

end Codecs

end WireCodecs.Java
