import WireCodecs.Proofs.Codec.Fields

/-! When a message can be planned, and where its plan puts the fields. A field fits if its type has
a mapping whose operation is fixed exactly if the type has a width. A message is planned if all of
its fields fit, and otherwise the first field that does not is to blame. The two lists of positions
in a plan divide the positions of the fields, as the partition of the fields divides the fields. -/

namespace WireCodecs

section Positions

variable {α : Type} {p : α → Bool} {xs : List α}

theorem mem_positions_iff {i : Nat} :
    i ∈ positions p xs ↔ ∃ x, xs[i]? = some x ∧ p x = true := by
  simp only [positions, List.mem_map, List.mem_filter, Prod.exists, List.mk_mem_zipIdx_iff_getElem?]
  constructor
  · rintro ⟨x, _, ⟨hx, hp⟩, rfl⟩
    exact ⟨x, hx, hp⟩
  · rintro ⟨x, hx, hp⟩
    exact ⟨x, i, ⟨hx, hp⟩, rfl⟩

theorem pairwise_positions (p : α → Bool) (xs : List α) : (positions p xs).Pairwise (· < ·) := by
  have hall : (xs.zipIdx.map (·.2)).Pairwise (· < ·) := by
    rw [List.zipIdx_map_snd]
    exact List.pairwise_lt_range'
  exact hall.sublist (List.filter_sublist.map _)

/-- Looking up the positions gives the elements back. -/
theorem map_getElem?_positions (p : α → Bool) (xs : List α) :
    (positions p xs).map (xs[·]?) = (xs.filter p).map some := by
  have hlookup : ∀ entry ∈ xs.zipIdx.filter fun entry => p entry.1, xs[entry.2]? = some entry.1 :=
    fun entry hentry => List.mem_zipIdx_iff_getElem?.mp (List.mem_of_mem_filter hentry)
  have hfst : (xs.zipIdx.filter fun entry => p entry.1).map (·.1) = xs.filter p := by
    change (xs.zipIdx.filter (p ∘ Prod.fst)).map (·.1) = xs.filter p
    rw [← List.filter_map, List.zipIdx_map_fst]
  rw [positions, List.map_map, ← hfst, List.map_map]
  exact List.map_congr_left hlookup

end Positions

namespace RenderScope

variable {scope : RenderScope} {direction : Direction} {fields : List Field} {plan : Plan}

/-- Why a field cannot be planned. -/
def fault? (scope : RenderScope) (direction : Direction) (field : Field) : Option Unmapped :=
  match scope.set.mapping? direction scope.types field.type with
  | .error unmapped => some unmapped
  | .ok mapping =>
    if (field.type.fixedWidth? scope.types.table).isSome = mapping.op.isFixed then none
    else some (.ofType field.type)

theorem fault?_eq_none_iff {field : Field} :
    scope.fault? direction field = none ↔
      ∃ mapping, scope.set.mapping? direction scope.types field.type = .ok mapping ∧
        (field.type.fixedWidth? scope.types.table).isSome = mapping.op.isFixed := by
  rw [fault?]
  cases scope.set.mapping? direction scope.types field.type <;> simp

theorem failsFirst_planField (scope : RenderScope) (direction : Direction) (field : Field) :
    FailsFirst (scope.fault? direction field).toList (scope.planField direction field) := by
  rw [fault?, planField]
  cases scope.set.mapping? direction scope.types field.type with
  | error unmapped => exact .error unmapped []
  | ok mapping =>
    change FailsFirst (Option.toList (if _ then _ else _)) (if _ then _ else _)
    split
    · exact .ok _
    · exact .error _ []

/-- Planning stops at the first field with a fault. -/
theorem failsFirst_plan (scope : RenderScope) (direction : Direction) (fields : List Field) :
    FailsFirst (fields.filterMap (scope.fault? direction)) (scope.plan direction fields) := by
  rw [List.filterMap_eq_flatMap_toList]
  exact (FailsFirst.mapM fun field _ => scope.failsFirst_planField direction field).map _

theorem exists_plan_iff :
    (∃ plan, scope.plan direction fields = .ok plan) ↔ ∀ field ∈ fields,
      ∃ mapping, scope.set.mapping? direction scope.types field.type = .ok mapping ∧
        (field.type.fixedWidth? scope.types.table).isSome = mapping.op.isFixed := by
  rw [(scope.failsFirst_plan direction fields).exists_iff, List.filterMap_eq_nil_iff]
  exact forall₂_congr fun field _ => fault?_eq_none_iff

theorem fixedIndexes_of_plan (h : scope.plan direction fields = .ok plan) :
    plan.fixedIndexes =
      positions (fun field => (field.type.fixedWidth? scope.types.table).isSome) fields := by
  rw [Plan.fixedIndexes_eq, isSome_widths_of_plan h, positions_map]
  rfl

theorem framedIndexes_of_plan (h : scope.plan direction fields = .ok plan) :
    plan.framedIndexes =
      positions (fun field => !(field.type.fixedWidth? scope.types.table).isSome) fields := by
  rw [Plan.framedIndexes_eq, isSome_widths_of_plan h, positions_map]

end RenderScope

/-- A plan has each of the fields once and in order, and its two lists of positions are increasing,
divide the positions of the fields between them, and select the two parts of the partition. -/
structure Plan.Divides (plan : Plan) (table : TypeTable) (fields : List Field) : Prop where
  eachOnce : plan.fields.map (·.field) = fields
  fixed_increasing : plan.fixedIndexes.Pairwise (· < ·)
  framed_increasing : plan.framedIndexes.Pairwise (· < ·)
  disjoint : plan.fixedIndexes.Disjoint plan.framedIndexes
  covers : ∀ i, i ∈ plan.fixedIndexes ∨ i ∈ plan.framedIndexes ↔ i < fields.length
  fixed : plan.fixedIndexes.map (fields[·]?) = (table.partitionFields fields).1.map some
  framed : plan.framedIndexes.map (fields[·]?) = (table.partitionFields fields).2.map some

theorem RenderScope.divides_of_plan {scope : RenderScope} {direction : Direction}
    {fields : List Field} {plan : Plan} (h : scope.plan direction fields = .ok plan) :
    plan.Divides scope.types.table fields where
  eachOnce := fields_of_plan h
  fixed_increasing := by
    rw [fixedIndexes_of_plan h]
    exact pairwise_positions _ _
  framed_increasing := by
    rw [framedIndexes_of_plan h]
    exact pairwise_positions _ _
  disjoint := by
    rw [fixedIndexes_of_plan h, framedIndexes_of_plan h]
    intro i hfixed hframed
    obtain ⟨field, hfield, hwidth⟩ := mem_positions_iff.mp hfixed
    obtain ⟨other, hother, hnone⟩ := mem_positions_iff.mp hframed
    obtain rfl : field = other := Option.some.inj (hfield.symm.trans hother)
    rw [hwidth] at hnone
    cases hnone
  covers i := by
    rw [fixedIndexes_of_plan h, framedIndexes_of_plan h, mem_positions_iff, mem_positions_iff]
    cases hfield : fields[i]? with
    | none => simpa using hfield
    | some field =>
      have hlt : i < fields.length := (List.getElem?_eq_some_iff.mp hfield).1
      cases hwidth : field.type.fixedWidth? scope.types.table <;> simp [hlt, hwidth]
  fixed := by
    rw [fixedIndexes_of_plan h, map_getElem?_positions, TypeTable.partitionFields,
      List.partition_eq_filter_filter]
  framed := by
    rw [framedIndexes_of_plan h, map_getElem?_positions, TypeTable.partitionFields,
      List.partition_eq_filter_filter]
    rfl

/-- With any mapping set, a message is planned exactly if every field has a mapping whose operation
is fixed where the type of the field has a width, and the first field without one gives the error.
A plan divides the fields as the partition does. -/
theorem plan_divides_fields (scope : RenderScope) (direction : Direction) (fields : List Field) :
    ((∃ plan, scope.plan direction fields = .ok plan) ↔ ∀ field ∈ fields,
      ∃ mapping, scope.set.mapping? direction scope.types field.type = .ok mapping ∧
        (field.type.fixedWidth? scope.types.table).isSome = mapping.op.isFixed) ∧
    (∀ unmapped, scope.plan direction fields = .error unmapped ↔
      fields.findSome? (scope.fault? direction) = some unmapped) ∧
    ∀ plan, scope.plan direction fields = .ok plan → plan.Divides scope.types.table fields := by
  refine ⟨RenderScope.exists_plan_iff, fun unmapped => ?_, fun plan => RenderScope.divides_of_plan⟩
  rw [scope.failsFirst_plan direction fields unmapped, List.head?_filterMap]

/-- A field that stands twice in a message has two positions. Where two fields do not fit, the
first is reported: here an enumeration with a width of its own over a framed base. -/
theorem plan_divides_fields_repeated :
    let table : TypeTable :=
      ⟨[("Int16", 2), ("Int64", 8), ("Enum_String", 1)], ["String"], [], [], []⟩
    let scope : RenderScope := ⟨Java.mappingSet, ⟨table, []⟩, "codec"⟩
    let field (type : TypeName) : Field := ⟨"value", type, false, none, none⟩
    let number := field (.primitive "Int64")
    let text := field (.primitive "String")
    let kind := field (.enum (.primitive "String") none)
    let numbers := field (.list (.primitive "Int16"))
    (∃ plan, scope.plan .encode [number, text, number] = .ok plan ∧
      plan.Divides table [number, text, number] ∧ plan.fixedIndexes = [0, 2]) ∧
    scope.plan .encode [text, kind, numbers] = .error ⟨"Enum_String"⟩ := by
  intro table scope field number text kind numbers
  obtain ⟨-, -, hdivides⟩ := plan_divides_fields scope .encode [number, text, number]
  obtain ⟨-, herror, -⟩ := plan_divides_fields scope .encode [text, kind, numbers]
  refine ⟨⟨_, rfl, hdivides _ rfl, rfl⟩, (herror _).mpr ?_⟩
  decide +kernel

end WireCodecs
