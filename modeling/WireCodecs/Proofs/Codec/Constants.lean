import WireCodecs.Proofs.Codec.Cpp.ConstantLines
import WireCodecs.Proofs.Codec.Java.ConstantLines

/-! When the generated code declares a constant twice. Nothing keeps the names of constants apart
but the names in the services, and these lose what the upper-snake form does not keep. Where no name
has a line feed, the constants are counted on the lines of the text. -/

namespace WireCodecs

/-- Where no name has a line feed, the constants that stand on the lines of a generated class or
struct are these declarations, one on a line. No constant is declared twice exactly if the forms of
the names that the constants are made of are distinct. -/
theorem constants_distinct_iff (types : TypeScope) (namespaceName : String) :
    let java : RenderScope := ⟨Java.mappingSet, types, namespaceName⟩
    let cpp : RenderScope := ⟨Cpp.mappingSet, types, namespaceName⟩
    (∀ service method text, Java.methodCodec java service method = .ok text →
      ∃ plan, Java.planMethod java method = .ok plan ∧
        let declarations := plan.declarations method
        ((∀ name ∈ namespaceName :: service :: (method.since.toList ++ method.names),
            '\n' ∉ name.toList) →
          linesOpening Java.constantOpenings text =
            declarations.map (Java.indent ++ ·.line)) ∧
        ((declarations.map (·.name)).Nodup ↔ method.FormsDiffer types.table)) ∧
    (∀ type text, Java.customCodec java type = .ok text →
      ∃ plans, java.plans type.fields = .ok plans ∧
        let declarations := Java.customDeclarations plans
        ((∀ name ∈ namespaceName :: (type.since.toList ++ type.names), '\n' ∉ name.toList) →
          linesOpening Java.constantOpenings text =
            declarations.map (Java.indent ++ ·.line)) ∧
        ((declarations.map (·.name)).Nodup ↔ (types.table.fixedForms type.fields).Nodup)) ∧
    (∀ service method text, Cpp.methodHeader cpp service method = .ok text →
      ∃ plan, Cpp.planMethod cpp method = .ok plan ∧
        let declarations := plan.declarations method
        ((∀ name ∈ service :: method.names, '\n' ∉ name.toList) →
          linesOpening Cpp.constantOpenings text = declarations.map (Cpp.indent ++ ·.line)) ∧
        ((declarations.map (·.name)).Nodup ↔ method.labelForms.Nodup)) := by
  intro java cpp
  have hjava : java = ⟨Language.java.mappingSet, types, namespaceName⟩ := rfl
  have hcpp : cpp = ⟨Language.cpp.mappingSet, types, namespaceName⟩ := rfl
  refine ⟨fun service method text h => ?_, fun type text h => ?_, fun service method text h => ?_⟩
  · obtain ⟨plan, hplan, -⟩ := bind_eq_ok_iff.mp h
    refine ⟨plan, hplan, fun hnames => ?_, Java.nodup_declarations_iff hplan⟩
    simp only [← Text.lacks_isFeed_iff, List.forall_mem_cons, List.forall_mem_append] at hnames
    obtain ⟨hnamespace, hservice, hsince, hnames⟩ := hnames
    rw [hjava] at hplan h
    exact Java.linesOpening_of_methodCodec hnamespace hservice
      (fun version hversion => hsince version (Option.mem_toList.mpr hversion)) hnames hplan h
  · obtain ⟨plans, hplans, -⟩ := bind_eq_ok_iff.mp h
    refine ⟨plans, hplans, fun hnames => ?_, Java.nodup_customDeclarations_iff hplans⟩
    simp only [← Text.lacks_isFeed_iff, List.forall_mem_cons, List.forall_mem_append] at hnames
    obtain ⟨hnamespace, hsince, hnames⟩ := hnames
    exact Java.linesOpening_of_customCodec hnamespace
      (fun version hversion => hsince version (Option.mem_toList.mpr hversion)) hnames hplans h
  · obtain ⟨plan, hplan, -⟩ := bind_eq_ok_iff.mp h
    refine ⟨plan, hplan, fun hnames => ?_, Cpp.nodup_declarations_iff hplan⟩
    simp only [← Text.lacks_isFeed_iff, List.forall_mem_cons] at hnames
    rw [hcpp] at hplan h
    exact Cpp.linesOpening_of_methodHeader hnames.1 hnames.2 hplan h

/-- A method with an event that has a name and one that has none, with a field of the same name in
all messages, and a type of two fields. -/
theorem constants_distinct_iff_named_and_unnamed :
    let types : TypeScope := ⟨.standard, []⟩
    let java : RenderScope := ⟨Java.mappingSet, types, "codec"⟩
    let cpp : RenderScope := ⟨Cpp.mappingSet, types, "codec"⟩
    let field (name : String) : Field := ⟨name, .primitive "Int32", false, none, none⟩
    let message (role : Role) (name : Option String) : Message :=
      ⟨.derive 1 1 role, name, [field "keyHash"]⟩
    let listen : Method := ⟨1, "listen", none, none, message .request none, message .response none,
      [message (.event 0) none, message (.event 1) (some "added")]⟩
    let pair : CustomType := ⟨"Pair", none, [field "first", field "second"]⟩
    (∃ text, Java.methodCodec java "map" listen = .ok text ∧
      ∃ plan : Java.PlannedMethod, Java.planMethod java listen = .ok plan ∧
        linesOpening Java.constantOpenings text =
          (plan.declarations listen).map (Java.indent ++ ·.line) ∧
        ((plan.declarations listen).map (·.name)).Nodup) ∧
    (∃ text, Java.customCodec java pair = .ok text ∧
      ∃ plans, java.plans pair.fields = .ok plans ∧
        linesOpening Java.constantOpenings text =
          (Java.customDeclarations plans).map (Java.indent ++ ·.line) ∧
        ((Java.customDeclarations plans).map (·.name)).Nodup) ∧
    ∃ text, Cpp.methodHeader cpp "map" listen = .ok text ∧
      ∃ plan : Cpp.PlannedMethod, Cpp.planMethod cpp listen = .ok plan ∧
        linesOpening Cpp.constantOpenings text =
          (plan.declarations listen).map (Cpp.indent ++ ·.line) ∧
        ((plan.declarations listen).map (·.name)).Nodup := by
  intro types java cpp field message listen pair
  obtain ⟨hmethods, htypes, hheaders⟩ := constants_distinct_iff types "codec"
  have hdiffer : listen.FormsDiffer TypeTable.standard :=
    ⟨by decide, by decide, by decide, by decide⟩
  have hpair : (TypeTable.standard.fixedForms pair.fields).Nodup := by decide
  have hclass : ∃ text, Java.methodCodec java "map" listen = .ok text := ⟨_, rfl⟩
  have htype : ∃ text, Java.customCodec java pair = .ok text := ⟨_, rfl⟩
  have hstruct : ∃ text, Cpp.methodHeader cpp "map" listen = .ok text := ⟨_, rfl⟩
  refine ⟨?_, ?_, ?_⟩
  · obtain ⟨text, htext⟩ := hclass
    obtain ⟨plan, hplan, hlines, hiff⟩ := hmethods "map" listen text htext
    exact ⟨text, htext, plan, hplan, hlines (by decide), hiff.mpr hdiffer⟩
  · obtain ⟨text, htext⟩ := htype
    obtain ⟨plans, hplans, hlines, hiff⟩ := htypes pair text htext
    exact ⟨text, htext, plans, hplans, hlines (by decide), hiff.mpr hpair⟩
  · obtain ⟨text, htext⟩ := hstruct
    obtain ⟨plan, hplan, hlines, hiff⟩ := hheaders "map" listen text htext
    exact ⟨text, htext, plan, hplan, hlines (by decide), hiff.mpr hdiffer.labels⟩

/-- Whether the fields of each message have distinct names, and the events that have a name. -/
structure Method.NamesDiffer (method : Method) : Prop where
  fields : ∀ message ∈ method.messages, (message.fields.map (·.name)).Nodup
  events : (method.events.filterMap (·.name)).Nodup

/-- Distinct names are not enough. Two spellings of a field's name have one form; an event can have
the name that the code gives to one without a name; the end of a label can be the beginning of a
field's name; and a name with a line feed can have the line of a constant in it. -/
theorem constants_repeated :
    let java : RenderScope := ⟨Java.mappingSet, ⟨.standard, []⟩, "codec"⟩
    let cpp : RenderScope := ⟨Cpp.mappingSet, ⟨.standard, []⟩, "codec"⟩
    let field (name : String) : Field := ⟨name, .primitive "Int32", false, none, none⟩
    let message (role : Role) (name : Option String) (fields : List Field) : Message :=
      ⟨.derive 1 1 role, name, fields⟩
    let listen (events : List Message) : Method :=
      ⟨1, "listen", none, none, message .request none [], message .response none [], events⟩
    let numbered := listen [message (.event 0) (some "event1") [], message (.event 1) none []]
    let joined := listen [message (.event 0) (some "item") [field "keyHash"],
      message (.event 1) (some "itemKey") [field "hash"]]
    let pair : CustomType := ⟨"Pair", none, [field "fooBar", field "foo_bar"]⟩
    let broken := "map\n    public static final int REQUEST_MESSAGE_TYPE = 65792;\n"
    ((pair.fields.map (·.name)).Nodup ∧ ∃ text, Java.customCodec java pair = .ok text ∧
      linesOpening Java.constantOpenings text =
        ["    private static final int FOO_BAR_FIELD_OFFSET = 0;",
          "    private static final int FOO_BAR_FIELD_OFFSET = FOO_BAR_FIELD_OFFSET + 4;",
          "    private static final int INITIAL_FRAME_SIZE = FOO_BAR_FIELD_OFFSET + 4;"]) ∧
    (∀ method ∈ [numbered, joined], method.NamesDiffer ∧
      ∃ text, Java.methodCodec java "map" method = .ok text ∧
      ∃ plan : Java.PlannedMethod, Java.planMethod java method = .ok plan ∧
        linesOpening Java.constantOpenings text =
          (plan.declarations method).map (Java.indent ++ ·.line) ∧
        ¬ ((plan.declarations method).map (·.name)).Nodup) ∧
    (∃ text, Cpp.methodHeader cpp "map" numbered = .ok text ∧
      ∃ plan : Cpp.PlannedMethod, Cpp.planMethod cpp numbered = .ok plan ∧
        linesOpening Cpp.constantOpenings text =
          (plan.declarations numbered).map (Cpp.indent ++ ·.line) ∧
        ¬ ((plan.declarations numbered).map (·.name)).Nodup) ∧
    (listen []).NamesDiffer ∧ ∃ text, Java.methodCodec java broken (listen []) = .ok text ∧
      ∃ rest, linesOpening Java.constantOpenings text =
        "    public static final int REQUEST_MESSAGE_TYPE = 65792;" ::
          "    public static final int REQUEST_MESSAGE_TYPE = 65792;" :: rest := by
  intro java cpp field message listen numbered joined pair broken
  have hlabels : ¬ numbered.labelForms.Nodup := by decide
  have hfields : ¬ (joined.eventFieldForms TypeTable.standard).Nodup := by decide
  have hclass : ∀ method : Method, ¬ method.FormsDiffer TypeTable.standard →
      (∀ name ∈ method.since.toList ++ method.names, '\n' ∉ name.toList) →
      ∀ text, Java.methodCodec java "map" method = .ok text →
      ∃ plan : Java.PlannedMethod, Java.planMethod java method = .ok plan ∧
        linesOpening Java.constantOpenings text =
          (plan.declarations method).map (Java.indent ++ ·.line) ∧
        ¬ ((plan.declarations method).map (·.name)).Nodup := by
    intro method hsame hnames text htext
    simp only [← Text.lacks_isFeed_iff, List.forall_mem_append] at hnames
    obtain ⟨plan, hplan, -⟩ := bind_eq_ok_iff.mp htext
    refine ⟨plan, hplan, ?_, mt (Java.nodup_declarations_iff hplan).mp hsame⟩
    have hjava : java = ⟨Language.java.mappingSet, ⟨.standard, []⟩, "codec"⟩ := rfl
    rw [hjava] at hplan htext
    exact Java.linesOpening_of_methodCodec (by decide) (by decide)
      (fun version hversion => hnames.1 version (Option.mem_toList.mpr hversion)) hnames.2 hplan
      htext
  have hnumbered : numbered.NamesDiffer := ⟨by decide, by decide⟩
  have hjoined : joined.NamesDiffer := ⟨by decide, by decide⟩
  refine ⟨⟨by decide, ?_⟩, ?_, ?_, ⟨by decide, by decide⟩, ?_⟩
  · have htype : ∃ text, Java.customCodec java pair = .ok text := ⟨_, rfl⟩
    obtain ⟨text, htext⟩ := htype
    obtain ⟨plans, hplans, -⟩ := bind_eq_ok_iff.mp htext
    refine ⟨text, htext, ?_⟩
    rw [Java.linesOpening_of_customCodec (by decide) (by simp [pair]) (by decide) hplans htext]
    cases hplans
    decide
  · rw [List.forall_mem_cons, List.forall_mem_singleton]
    exact ⟨⟨hnumbered, _, rfl, hclass numbered (fun h => hlabels h.labels) (by decide) _ rfl⟩,
      hjoined, _, rfl, hclass joined (fun h => hfields h.eventFields) (by decide) _ rfl⟩
  · have hstruct : ∃ text, Cpp.methodHeader cpp "map" numbered = .ok text := ⟨_, rfl⟩
    obtain ⟨text, htext⟩ := hstruct
    obtain ⟨plan, hplan, -⟩ := bind_eq_ok_iff.mp htext
    refine ⟨text, htext, plan, hplan, ?_, mt (Cpp.nodup_declarations_iff hplan).mp hlabels⟩
    have hcpp : cpp = ⟨Language.cpp.mappingSet, ⟨.standard, []⟩, "codec"⟩ := rfl
    rw [hcpp] at hplan htext
    exact Cpp.linesOpening_of_methodHeader (by decide) (by decide) hplan htext
  · have hclass : ∃ text, Java.methodCodec java broken (listen []) = .ok text := ⟨_, rfl⟩
    obtain ⟨text, htext⟩ := hclass
    obtain ⟨plan, hplan, h⟩ := bind_eq_ok_iff.mp htext
    have hheader : (Code.line ("public final class " ++ Java.className broken "listen" ++
        " \x7b")).linesOpening Java.constantOpenings Java.indent 0 =
        ["    public static final int REQUEST_MESSAGE_TYPE = 65792;"] := by decide
    have htype : Java.indent ++
        (Java.messageTypeDeclaration Java.requestLead (listen []).request.id).line =
        "    public static final int REQUEST_MESSAGE_TYPE = 65792;" := by decide
    obtain ⟨rest, hrest⟩ := @Java.exists_linesOpening_methodCode java broken (listen []) plan
      (by decide) (by simp [listen])
    refine ⟨text, htext, rest, ?_⟩
    rw [pure_eq_ok_iff.mp h, Code.linesOpening_render Java.oneDeep_constantOpenings, hrest, hheader,
      htype]
    rfl

end WireCodecs
