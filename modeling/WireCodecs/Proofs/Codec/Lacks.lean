import WireCodecs.Fingerprint.Placeholder
import WireCodecs.Proofs.Codec.Fields
import WireCodecs.Proofs.Naming
import WireCodecs.Proofs.Target.Java.Containers
import WireCodecs.Proofs.Text.Braces
import WireCodecs.Proofs.Text.Sum
import WireCodecs.Target.Registry

/-! What codecs are made of lacks the characters that give a text its structure if the documents
lack them: names in all their casings, identifiers and numbers, the mappings of types, and with them
the planned fields. So the structure of a codec is what the templates put there. -/

namespace WireCodecs

open Text

variable {p : Char → Bool} [Structural p]

namespace Text.Lacks

section Names

variable {name : String}

/-- A form of a name that has at most the marks of the name and underscores lacks what the name
lacks. -/
theorem of_marks {form : String} (h : Lacks p name)
    (hform : ∀ c, isMark c → c ≠ '_' → c ∈ form.toList → c ∈ name.toList) : Lacks p form := by
  refine lacks_iff.mpr fun c hc hp => lacks_iff.mp h c (hform c ?_ ?_ hc) hp
  all_goals
    rcases isStructural_iff.mp (Structural.isStructural c hp) with rfl | rfl | rfl <;> decide

theorem lowercase (h : Lacks p name) : Lacks p (lowercase name) :=
  h.of_marks fun _ hc _ => (mem_lowercase_iff hc name).mp

theorem capital (h : Lacks p name) : Lacks p (Naming.capital name) :=
  h.of_marks fun _ hc _ => (Naming.mem_capital_iff hc name).mp

theorem uncapital (h : Lacks p name) : Lacks p (Naming.uncapital name) :=
  h.of_marks fun _ hc _ => (Naming.mem_uncapital_iff hc name).mp

theorem upperSnake (h : Lacks p name) : Lacks p (Naming.upperSnake name) :=
  h.of_marks fun _ hc hne => (Naming.mem_upperSnake_iff hc hne name).mp

theorem snake (h : Lacks p name) : Lacks p (Naming.snake name) :=
  h.of_marks fun _ hc hne => (Naming.mem_snake_iff hc hne name).mp

theorem pascal (h : Lacks p name) : Lacks p (Naming.pascal name) :=
  h.of_marks fun _ hc _ hmem => ((Naming.mem_pascal_iff hc name).mp hmem).1

theorem escapeKeyword (h : Lacks p name) (keywords : List String) :
    Lacks p (escapeKeyword keywords name) := by
  unfold WireCodecs.escapeKeyword
  split
  · exact h.append (.literal rfl)
  · exact h

end Names

end Text.Lacks

section Numbers

theorem lacks_toString (n : Nat) : Lacks p (toString n) := by
  refine lacks_iff.mpr fun c hc hp => ?_
  have hdigit : c.isDigit = true := isDigit_of_mem_toString hc
  rcases isStructural_iff.mp (Structural.isStructural c hp) with rfl | rfl | rfl <;>
    exact absurd hdigit (by decide)

theorem not_isStructural_of_mem_toDigits {n : Nat} {c : Char} (h : c ∈ Nat.toDigits 16 n) :
    ¬ isStructural c := by
  have hdigits : ∀ digit < 16, ¬ isStructural (Nat.digitChar digit) := by decide
  induction n using Nat.strongRecOn with
  | ind n ih =>
    by_cases hlt : n < 16
    · rw [Nat.toDigits_of_lt_base hlt, List.mem_singleton] at h
      exact h ▸ hdigits n hlt
    · rw [Nat.toDigits_of_base_le (by decide) (by omega), List.mem_append,
        List.mem_singleton] at h
      rcases h with h | rfl
      · exact ih (n / 16) (by omega) h
      · exact hdigits _ (Nat.mod_lt n (by decide))

theorem MessageId.lacks_hex (id : MessageId) : Lacks p id.hex := by
  refine .append (.literal rfl) (.of_structural (lacks_iff.mpr fun c hc => ?_))
  rw [paddedHex, String.toList_ofList, List.mem_append, List.mem_replicate] at hc
  rcases hc with ⟨-, rfl⟩ | hc
  · decide
  · exact not_isStructural_of_mem_toDigits hc

end Numbers

theorem lacks_fingerprintPlaceholder : Lacks p fingerprintPlaceholder :=
  .of_structural (by decide)

section Mappings

theorem Direction.lacks_verb (direction : Direction) : Lacks p direction.verb :=
  .of_structural (by cases direction <;> decide)

structure TypeMapping.TextsLack (p : Char → Bool) (mapping : TypeMapping) : Prop where
  spelling : Lacks p mapping.spelling
  call : Lacks p mapping.op.call
  extraArgs : ∀ argument ∈ mapping.op.extraArgs, Lacks p argument

theorem TypeMapping.TextsLack.invoke {mapping : TypeMapping} (h : mapping.TextsLack p)
    {leading : List String} (hleading : ∀ argument ∈ leading, Lacks p argument) :
    Lacks p (mapping.op.invoke leading) := by
  have harguments : ∀ argument ∈ leading ++ mapping.op.extraArgs, Lacks p argument :=
    fun argument hmem => (List.mem_append.mp hmem).elim (hleading argument) (h.extraArgs argument)
  exact ((h.call.append (.literal rfl)).append (.joinWith (.literal rfl) harguments)).append
    (.literal rfl)

namespace Java

variable {direction : Direction} {scope : TypeScope} {type : TypeName} {mapping : TypeMapping}

theorem textsLack_framed {spelling codec verb : String} {extraArgs : List String}
    (hspelling : Lacks p spelling) (hcodec : Lacks p codec) (hverb : Lacks p verb)
    (hextra : ∀ argument ∈ extraArgs, Lacks p argument) :
    TypeMapping.TextsLack p ⟨spelling, framed codec verb extraArgs⟩ where
  spelling := hspelling
  call := (hcodec.append (.literal rfl)).append hverb
  extraArgs := hextra

theorem textsLack_of_primitiveMapping {name : String}
    (h : primitiveMapping direction scope.table name = .ok mapping) : mapping.TextsLack p := by
  have hfixed : ∀ entry ∈ fixedPrimitives, Lacks isStructural entry.2.spelling ∧
      Lacks isStructural entry.2.suffix := by decide +kernel
  have hframed : ∀ entry ∈ framedPrimitives, Lacks isStructural entry.2.1 ∧
      Lacks isStructural entry.2.2 := by decide +kernel
  unfold primitiveMapping at h
  split at h
  · next hlookup =>
    have hentry := hfixed _ (mem_of_lookup hlookup)
    split at h
    · cases h
      exact ⟨.of_structural hentry.1,
        .append (.append (.literal rfl) direction.lacks_verb) (.of_structural hentry.2),
        List.forall_mem_nil _⟩
    · cases h
  · next hlookup =>
    have hentry := hframed _ (mem_of_lookup hlookup)
    cases h
    exact textsLack_framed (.of_structural hentry.1) (.of_structural hentry.2) direction.lacks_verb
      (List.forall_mem_nil _)
  · cases h

theorem lacks_methodReference {call : String} (h : Lacks p call) :
    Lacks p (methodReference call) := by
  unfold methodReference
  split
  · next method first classes hparts =>
    have hparts : ∀ part ∈ method :: first :: classes, Lacks p part := by
      intro part hpart
      rw [← hparts, List.mem_reverse] at hpart
      exact h.splitOn '.' part hpart
    rw [List.forall_mem_cons] at hparts
    refine ((Lacks.joinWith (.literal rfl) ?_).append (.literal rfl)).append hparts.1
    exact fun part hpart => hparts.2 part (List.mem_reverse.mp hpart)
  · exact h

variable {element : TypeName} {elementMapping : Except Unmapped TypeMapping}

theorem lacks_of_elementSpelling {spelling : String}
    (hmapping : ∀ mapping, elementMapping = .ok mapping → mapping.TextsLack p)
    (h : elementSpelling element elementMapping = .ok spelling) : Lacks p spelling := by
  have hboxed : ∀ entry ∈ fixedPrimitives, Lacks isStructural entry.2.boxed := by decide +kernel
  have hown (h : (·.spelling) <$> elementMapping = .ok spelling) : Lacks p spelling := by
    obtain ⟨mapping, hok, rfl⟩ := map_eq_ok_iff.mp h
    exact (hmapping mapping hok).spelling
  unfold elementSpelling at h
  split at h
  · split at h
    · next hlookup =>
      cases h
      exact .of_structural (hboxed _ (mem_of_lookup hlookup))
    · exact hown h
  · exact hown h

theorem lacks_of_elementReference {reference : String}
    (hmapping : ∀ mapping, elementMapping = .ok mapping → mapping.TextsLack p)
    (h : elementReference element elementMapping = .ok reference) : Lacks p reference := by
  unfold elementReference at h
  split at h
  · split at h
    · cases h
      exact lacks_methodReference (hmapping _ rfl).call
    · cases h
  · cases h

theorem lacks_containerSpelling (direction : Direction) (type : TypeName)
    {elements : List String} (h : ∀ element ∈ elements, Lacks p element) :
    Lacks p (containerSpelling direction type elements) := by
  have hcollection : Lacks p (collection direction) :=
    .of_structural (by cases direction <;> decide)
  have harguments : Lacks p (Text.joinWith ", " elements) := .joinWith (.literal rfl) h
  unfold containerSpelling
  split
  · exact .between rfl rfl harguments
  · exact ((hcollection.append (.literal rfl)).append harguments).append (.literal rfl)
  · exact ((hcollection.append (.literal rfl)).append harguments).append (.literal rfl)

theorem textsLack_of_containerMapping {spelling codec verb : String}
    {references : Except Unmapped (List String)} (htype : Lacks p type.spelling)
    (hspelling : Lacks p spelling) (hcodec : Lacks p codec) (hverb : Lacks p verb)
    (hreferences : ∀ texts, references = .ok texts → ∀ text ∈ texts, Lacks p text)
    (h : containerMapping direction scope type spelling codec verb references = .ok mapping) :
    mapping.TextsLack p := by
  unfold containerMapping at h
  split at h
  · cases h
    exact textsLack_framed hspelling (htype.pascal.append (.literal rfl))
      direction.lacks_verb (List.forall_mem_nil _)
  · obtain ⟨texts, htexts, h⟩ := bind_eq_ok_iff.mp h
    rw [pure_eq_ok_iff.mp h]
    exact textsLack_framed hspelling hcodec hverb (hreferences texts htexts)

/-- The elements of a container lack what its spelling lacks, so the induction applies. -/
theorem textsLack_of_mapping (htype : Lacks p type.spelling)
    (h : Java.mapping direction scope type = .ok mapping) : mapping.TextsLack p := by
  induction type using TypeName.elementInduction generalizing mapping with
  | primitive name => exact textsLack_of_primitiveMapping h
  | custom name =>
    cases h
    have hclass : Lacks p (Naming.pascal name) := Lacks.pascal htype
    exact textsLack_framed hclass (hclass.append (.literal rfl)) direction.lacks_verb
      (List.forall_mem_nil _)
  | enum base name ih =>
    obtain ⟨inner, hinner, h⟩ := bind_eq_ok_iff.mp h
    rw [pure_eq_ok_iff.mp h]
    cases name with
    | none =>
      have hbase : Lacks p base.spelling := (Lacks.append_iff.mp htype).2
      exact ih hbase hinner
    | some name =>
      obtain ⟨hfront, hname⟩ := Lacks.append_iff.mp htype
      have hbase := (Lacks.append_iff.mp (Lacks.append_iff.mp hfront).1).2
      exact ⟨hname.pascal, (ih hbase hinner).call, (ih hbase hinner).extraArgs⟩
  | container type hcontainer ih =>
    have hmapping : ∀ element ∈ type.elements, ∀ mapping,
        Java.mapping direction scope element = .ok mapping → mapping.TextsLack p :=
      fun element helement _ =>
        ih element helement
          (htype.of_subset (TypeName.spelling_infix_of_mem_elements helement).subset)
    rw [mapping_of_isContainer direction scope hcontainer] at h
    obtain ⟨spellings, hspellings, h⟩ := bind_eq_ok_iff.mp h
    refine textsLack_of_containerMapping htype (lacks_containerSpelling direction type ?_)
      (.of_structural (by unfold containerCodec; split <;> decide)) ?_
      (fun references hreferences => ?_) h
    · intro spelling hmem
      obtain ⟨element, helement, hspelling⟩ := exists_mem_of_mapM hspellings hmem
      exact lacks_of_elementSpelling (hmapping element helement) hspelling
    · unfold containerVerb
      split
      · exact direction.lacks_verb.append (.literal rfl)
      · exact direction.lacks_verb
    · intro reference hmem
      obtain ⟨element, helement, hreference⟩ := exists_mem_of_mapM hreferences hmem
      exact lacks_of_elementReference (hmapping element helement) hreference

end Java

namespace Cpp

variable {customTypes : List String} {direction : Direction} {scope : TypeScope} {type : TypeName}

theorem lacks_of_valueType {text : String} (htype : Lacks p type.spelling)
    (h : valueType customTypes type = .ok text) : Lacks p text := by
  have hprimitives : ∀ entry ∈ primitives, Lacks isStructural entry.2 := by decide +kernel
  induction type generalizing text with
  | primitive name =>
    unfold valueType at h
    split at h
    · next hlookup =>
      cases h
      exact .of_structural (hprimitives _ (Java.mem_of_lookup hlookup))
    · cases h
  | custom name =>
    unfold valueType at h
    split at h
    · cases h
      exact Lacks.pascal htype
    · cases h
  | nullableList item _ => cases h
  | enum base name ih =>
    cases name with
    | none => exact ih (Lacks.append_iff.mp htype).2 h
    | some name =>
      have hfront := (Lacks.append_iff.mp (Lacks.append_iff.mp htype).1).1
      exact ih (Lacks.append_iff.mp hfront).2 h
  | list item ih =>
    obtain ⟨value, hvalue, h⟩ := bind_eq_ok_iff.mp h
    rw [pure_eq_ok_iff.mp h]
    have hitem := (Lacks.append_iff.mp htype).2
    exact .between rfl rfl (ih hitem hvalue)
  | map key value ihKey ihValue | entryList key value ihKey ihValue =>
    obtain ⟨k, hk, h⟩ := bind_eq_ok_iff.mp h
    obtain ⟨v, hv, h⟩ := bind_eq_ok_iff.mp h
    rw [pure_eq_ok_iff.mp h]
    obtain ⟨hfront, hvalue⟩ := Lacks.append_iff.mp htype
    have hkey := (Lacks.append_iff.mp (Lacks.append_iff.mp hfront).1).2
    exact .append (.append (.between rfl rfl (ihKey hkey hk)) (ihValue hvalue hv)) (.literal rfl)

theorem textsLack_of_mapping {mapping : TypeMapping} (htype : Lacks p type.spelling)
    (h : Cpp.mapping direction scope type = .ok mapping) : mapping.TextsLack p := by
  obtain ⟨value, hvalue, h⟩ := bind_eq_ok_iff.mp h
  have hvalue := lacks_of_valueType htype hvalue
  cases direction with
  | encode =>
    rw [pure_eq_ok_iff.mp h]
    refine ⟨?_, .literal rfl, List.forall_mem_nil _⟩
    unfold parameterType
    split
    · exact hvalue
    · exact .between rfl rfl hvalue
  | decode =>
    rw [pure_eq_ok_iff.mp h]
    exact ⟨hvalue, .between rfl rfl hvalue, List.forall_mem_nil _⟩

end Cpp

namespace Language

theorem textsLack_of_mapping (language : Language) {direction : Direction} {scope : TypeScope}
    {type : TypeName} {mapping : TypeMapping} (htype : Lacks p type.spelling)
    (h : language.mappingSet.mapping? direction scope type = .ok mapping) :
    mapping.TextsLack p := by
  cases language with
  | java => exact Java.textsLack_of_mapping htype h
  | cpp => exact Cpp.textsLack_of_mapping htype h

theorem lacks_parameter (language : Language) {name : String} (h : Lacks p name) :
    Lacks p (language.mappingSet.parameter name) := by
  cases language <;> exact h.uncapital.escapeKeyword _

theorem lacks_typeCase (language : Language) {name : String} (h : Lacks p name) :
    Lacks p (language.mappingSet.typeCase name) := by
  cases language <;> exact h.pascal

end Language

end Mappings

section Documents

/-- The name of a field and the name of its type. -/
def Field.names (field : Field) : List String := [field.name, field.type.spelling]

/-- The names of a field and what is said about it. -/
def Field.texts (field : Field) : List String :=
  field.names ++ (field.since.toList ++ field.doc.toList)

def Message.names (message : Message) : List String :=
  message.name.toList ++ message.fields.flatMap (·.names)

def Message.texts (message : Message) : List String :=
  message.name.toList ++ message.fields.flatMap (·.texts)

def Method.names (method : Method) : List String :=
  method.name :: method.messages.flatMap (·.names)

def Method.texts (method : Method) : List String :=
  method.name :: (method.since.toList ++ method.doc.toList ++ method.messages.flatMap (·.texts))

def CustomType.names (type : CustomType) : List String :=
  type.name :: type.fields.flatMap (·.names)

def CustomType.texts (type : CustomType) : List String :=
  type.name :: (type.since.toList ++ type.fields.flatMap (·.texts))

/-- The names, the documentation and the type names of a service, with those of all that is in
it. -/
def Service.texts (service : Service) : List String :=
  service.name :: (service.methods.flatMap (·.texts) ++ service.customTypes.flatMap (·.texts))

theorem Service.texts_of_method {service : Service} {method : Method}
    (h : method ∈ service.methods) : method.texts ⊆ service.texts :=
  fun _ htext => .tail _ (List.mem_append_left _ (List.mem_flatMap.mpr ⟨method, h, htext⟩))

theorem Service.texts_of_customType {service : Service} {type : CustomType}
    (h : type ∈ service.customTypes) : type.texts ⊆ service.texts :=
  fun _ htext => .tail _ (List.mem_append_right _ (List.mem_flatMap.mpr ⟨type, h, htext⟩))

end Documents

section Plans

/-- A planned field whose names lack characters of a kind. -/
structure PlannedField.TextsLack (p : Char → Bool) (planned : PlannedField) : Prop where
  name : Lacks p planned.field.name
  parameter : Lacks p planned.parameter
  mapping : planned.mapping.TextsLack p

def Plan.TextsLack (p : Char → Bool) (plan : Plan) : Prop :=
  ∀ planned ∈ plan.fields, planned.TextsLack p

structure Plans.TextsLack (p : Char → Bool) (plans : Plans) : Prop where
  encode : plans.encode.TextsLack p
  decode : plans.decode.TextsLack p

structure PlannedEvent.TextsLack (p : Char → Bool) (event : PlannedEvent) : Prop where
  label : Lacks p event.label
  plans : event.plans.TextsLack p

/-- A planned field without braces in its names and in what is said about it. -/
structure PlannedField.IsBraceless (planned : PlannedField) : Prop
    extends planned.TextsLack isBrace where
  texts : ∀ text ∈ planned.field.texts, Braceless text

def Plan.IsBraceless (plan : Plan) : Prop := ∀ planned ∈ plan.fields, planned.IsBraceless

structure Plans.IsBraceless (plans : Plans) : Prop where
  encode : plans.encode.IsBraceless
  decode : plans.decode.IsBraceless

structure PlannedEvent.IsBraceless (event : PlannedEvent) : Prop where
  label : Braceless event.label
  plans : event.plans.IsBraceless

theorem Plan.IsBraceless.textsLack {plan : Plan} (h : plan.IsBraceless) : plan.TextsLack isBrace :=
  fun planned hplanned => (h planned hplanned).toTextsLack

theorem Plan.IsBraceless.fixed {plan : Plan} (h : plan.IsBraceless) :
    ∀ planned ∈ plan.fixed, planned.IsBraceless :=
  fun planned hplanned => h planned (List.mem_of_mem_filter hplanned)

theorem Plan.IsBraceless.framed {plan : Plan} (h : plan.IsBraceless) :
    ∀ planned ∈ plan.framed, planned.IsBraceless :=
  fun planned hplanned => h planned (List.mem_of_mem_filter hplanned)

theorem Plan.IsBraceless.parameters {plan : Plan} (h : plan.IsBraceless) :
    ∀ parameter ∈ plan.parameters, Braceless parameter :=
  List.forall_mem_map.mpr fun planned hplanned => (h planned hplanned).parameter

namespace RenderScope

variable {language : Language} {types : TypeScope} {namespaceName : String} {fields : List Field}

theorem textsLack_of_plan {direction : Direction} {plan : Plan}
    (hfields : ∀ name ∈ fields.flatMap (·.names), Lacks p name)
    (h : RenderScope.plan ⟨language.mappingSet, types, namespaceName⟩ direction fields = .ok plan) :
    plan.TextsLack p := by
  intro planned hplanned
  obtain ⟨field, hfield, hplan⟩ := planField_of_mem h hplanned
  obtain ⟨mapping, hmapping, -, rfl⟩ := planField_eq_ok_iff.mp hplan
  have hnames : ∀ name ∈ field.names, Lacks p name := fun name hname =>
    hfields name (List.mem_flatMap.mpr ⟨field, hfield, hname⟩)
  have hname : Lacks p field.name := hnames _ List.mem_cons_self
  have htype : Lacks p field.type.spelling := hnames _ (.tail _ List.mem_cons_self)
  exact ⟨hname, language.lacks_parameter hname, language.textsLack_of_mapping htype hmapping⟩

theorem textsLack_of_plans {plans : Plans}
    (hfields : ∀ name ∈ fields.flatMap (·.names), Lacks p name)
    (h : RenderScope.plans ⟨language.mappingSet, types, namespaceName⟩ fields = .ok plans) :
    plans.TextsLack p := by
  obtain ⟨hencode, hdecode⟩ := plans_eq_ok_iff.mp h
  exact ⟨textsLack_of_plan hfields hencode, textsLack_of_plan hfields hdecode⟩

theorem isBraceless_of_plan {direction : Direction} {plan : Plan}
    (hfields : ∀ text ∈ fields.flatMap (·.texts), Braceless text)
    (h : RenderScope.plan ⟨language.mappingSet, types, namespaceName⟩ direction fields = .ok plan) :
    plan.IsBraceless := by
  have htexts : ∀ field ∈ fields, ∀ text ∈ field.texts, Braceless text :=
    fun field hfield text htext => hfields text (List.mem_flatMap.mpr ⟨field, hfield, htext⟩)
  intro planned hplanned
  obtain ⟨field, hfield, hplan⟩ := planField_of_mem h hplanned
  have hsame : planned.field = field := by
    obtain ⟨mapping, -, -, rfl⟩ := planField_eq_ok_iff.mp hplan
    rfl
  refine ⟨textsLack_of_plan (fun name hmem => ?_) h planned hplanned, hsame ▸ htexts field hfield⟩
  obtain ⟨owner, howner, hname⟩ := List.mem_flatMap.mp hmem
  exact htexts owner howner name (List.mem_append_left _ hname)

theorem isBraceless_of_plans {plans : Plans}
    (hfields : ∀ text ∈ fields.flatMap (·.texts), Braceless text)
    (h : RenderScope.plans ⟨language.mappingSet, types, namespaceName⟩ fields = .ok plans) :
    plans.IsBraceless := by
  obtain ⟨hencode, hdecode⟩ := plans_eq_ok_iff.mp h
  exact ⟨isBraceless_of_plan hfields hencode, isBraceless_of_plan hfields hdecode⟩

theorem lacks_eventLabel (index : Nat) {message : Message}
    (h : ∀ name ∈ message.name, Lacks p name) : Lacks p (eventLabel index message) := by
  unfold eventLabel
  split
  · next name hname => exact (h name hname).capital
  · exact .append (.literal rfl) (lacks_toString index)

section Events

variable {messages : List Message} {events : List PlannedEvent}

theorem exists_of_planEvents {scope : RenderScope} {index : Nat}
    (h : scope.planEvents index messages = .ok events) :
    ∀ event ∈ events, ∃ index, ∃ message ∈ messages, event.label = eventLabel index message ∧
      scope.plans message.fields = .ok event.plans := by
  obtain ⟨entries, hmessages, rfl, hplanned⟩ := exists_entries_of_planEvents h
  intro event hevent
  obtain ⟨⟨⟨message, place⟩, event⟩, hentry, rfl⟩ := List.mem_map.mp hevent
  have hmem : (message, place) ∈ messages.zipIdx index := by
    rw [← hmessages]
    exact List.mem_map_of_mem hentry
  exact ⟨place, message, List.fst_mem_of_mem_zipIdx hmem, (hplanned _ hentry).label,
    (hplanned _ hentry).plans⟩

theorem textsLack_of_planEvents
    (hmessages : ∀ message ∈ messages, ∀ name ∈ message.names, Lacks p name)
    (h : planEvents ⟨language.mappingSet, types, namespaceName⟩ 0 messages = .ok events) :
    ∀ event ∈ events, event.TextsLack p := by
  intro event hevent
  obtain ⟨index, message, hmessage, hlabel, hplans⟩ := exists_of_planEvents h event hevent
  have hnames := hmessages message hmessage
  rw [Message.names, List.forall_mem_append] at hnames
  refine ⟨?_, textsLack_of_plans hnames.2 hplans⟩
  rw [hlabel]
  exact lacks_eventLabel index fun name hname => hnames.1 name (Option.mem_toList.mpr hname)

theorem isBraceless_of_planEvents
    (hmessages : ∀ text ∈ messages.flatMap (·.texts), Braceless text)
    (h : planEvents ⟨language.mappingSet, types, namespaceName⟩ 0 messages = .ok events) :
    ∀ event ∈ events, event.IsBraceless := by
  intro event hevent
  obtain ⟨index, message, hmessage, hlabel, hplans⟩ := exists_of_planEvents h event hevent
  have htexts : ∀ text ∈ message.texts, Braceless text := fun text htext =>
    hmessages text (List.mem_flatMap.mpr ⟨message, hmessage, htext⟩)
  rw [Message.texts, List.forall_mem_append] at htexts
  refine ⟨?_, isBraceless_of_plans htexts.2 hplans⟩
  rw [hlabel]
  exact lacks_eventLabel index fun name hname => htexts.1 name (Option.mem_toList.mpr hname)

end Events

end RenderScope

end Plans

end WireCodecs
