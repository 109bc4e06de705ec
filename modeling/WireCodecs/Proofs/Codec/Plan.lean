import Mathlib.Algebra.Ring.Nat
import WireCodecs.Codec.Plan
import WireCodecs.Proofs.Target.Widths

/-! What a plan says about the places of the fields. The widths of the operations, with none for a
framed one, decide the two lists of positions and all sizes; and which operations have a width is
decided by the types of the fields alone. -/

namespace WireCodecs

section Positions

variable {α β : Type}

/-- The positions of the elements that satisfy `p`. -/
def positions (p : α → Bool) (xs : List α) : List Nat :=
  (xs.zipIdx.filter fun entry => p entry.1).map (·.2)

theorem positions_map (p : β → Bool) (f : α → β) (xs : List α) :
    positions p (xs.map f) = positions (fun x => p (f x)) xs := by
  rw [positions, List.zipIdx_map, List.filter_map, List.map_map]
  rfl

/-- Where the values are known to be, they are determined in order by what is there. -/
theorem filterMap_id_eq_iff {xs ys : List (Option α)}
    (h : xs.map Option.isSome = ys.map Option.isSome) :
    xs.filterMap id = ys.filterMap id ↔ xs = ys := by
  induction xs generalizing ys with
  | nil =>
    obtain rfl : ys = [] := by simpa using h.symm
    simp
  | cons x xs ih =>
    cases ys with
    | nil => simp at h
    | cons y ys =>
      obtain ⟨hhead, htail⟩ := List.cons.inj h
      cases x with
      | none =>
        obtain rfl : y = none := by simpa using hhead
        simpa using ih htail
      | some a =>
        obtain ⟨b, rfl⟩ := Option.isSome_iff_exists.mp hhead.symm
        have hsome : ∀ (c : α) zs, (some c :: zs).filterMap id = c :: zs.filterMap id :=
          fun _ _ => rfl
        rw [hsome, hsome, List.cons.injEq, ih htail, List.cons.injEq, Option.some.injEq]

end Positions

section Offsets

/-- The offsets of values of the given sizes, one after the other from `base` on, and the offset
behind the last. -/
def offsetsFrom (base : Nat) : List Nat → List Nat
  | [] => [base]
  | size :: rest => base :: offsetsFrom (base + size) rest

theorem head?_offsetsFrom (base : Nat) (sizes : List Nat) :
    (offsetsFrom base sizes).head? = some base := by
  cases sizes <;> rfl

theorem offsetsFrom_eq_iff {base : Nat} {sizes other : List Nat} :
    offsetsFrom base sizes = offsetsFrom base other ↔ sizes = other := by
  refine ⟨fun h => ?_, fun h => by rw [h]⟩
  induction sizes generalizing base other with
  | nil =>
    cases other with
    | nil => rfl
    | cons size rest => cases rest <;> simp [offsetsFrom] at h
  | cons size rest ih =>
    cases other with
    | nil => cases rest <;> simp [offsetsFrom] at h
    | cons size' rest' =>
      have htail : offsetsFrom (base + size) rest = offsetsFrom (base + size') rest' :=
        (List.cons.inj h).2
      have hhead := congrArg List.head? htail
      rw [head?_offsetsFrom, head?_offsetsFrom, Option.some.injEq] at hhead
      obtain rfl : size = size' := by omega
      rw [ih htail]

end Offsets

namespace Plan

/-- The widths of the operations, field by field. -/
def widths (plan : Plan) : List (Option Nat) := plan.fields.map (·.op.size?)

theorem fixedIndexes_eq (plan : Plan) :
    plan.fixedIndexes = positions id (plan.widths.map Option.isSome) := by
  rw [widths, List.map_map, positions_map]
  simp only [id, Function.comp_apply, ← Operation.isFixed_eq_isSome]
  rfl

theorem framedIndexes_eq (plan : Plan) :
    plan.framedIndexes = positions not (plan.widths.map Option.isSome) := by
  rw [widths, List.map_map, positions_map]
  simp only [Function.comp_apply, ← Operation.isFixed_eq_isSome]
  rfl

/-- Which operations have a width decides where the fields are. -/
theorem fixedIndexes_eq_of_isSome {plan other : Plan}
    (h : plan.widths.map Option.isSome = other.widths.map Option.isSome) :
    plan.fixedIndexes = other.fixedIndexes := by
  rw [fixedIndexes_eq, fixedIndexes_eq, h]

theorem framedIndexes_eq_of_isSome {plan other : Plan}
    (h : plan.widths.map Option.isSome = other.widths.map Option.isSome) :
    plan.framedIndexes = other.framedIndexes := by
  rw [framedIndexes_eq, framedIndexes_eq, h]

/-- A sum that fits is the sum. -/
theorem fixedSize_of_lt {plan : Plan} (h : (plan.fixed.map (·.size)).sum < UInt64.size) :
    plan.fixedSize = (plan.fixed.map (·.size)).sum :=
  Nat.mod_eq_of_lt h

theorem fixedSizes_eq (plan : Plan) : plan.fixed.map (·.size) = plan.widths.filterMap id := by
  rw [fixed, widths, List.filterMap_map]
  induction plan.fields with
  | nil => rfl
  | cons planned rest ih =>
    have hfixed : planned.isFixed = planned.op.size?.isSome := planned.op.isFixed_eq_isSome
    cases h : planned.op.size? with
    | none => simp [hfixed, h, ih]
    | some size =>
      have hsize : planned.size = size := by rw [PlannedField.size, h, Option.getD_some]
      simp [hfixed, h, hsize, ih]

/-- The offset of each fixed field in a part that begins at `base`, and the end of the part. -/
def offsets (plan : Plan) (base : Nat) : List Nat := offsetsFrom base (plan.fixed.map (·.size))

/-- Plans that put the same fields at an offset and into frames, with the same sizes. -/
structure SameLayout (plan other : Plan) : Prop where
  fixedIndexes : plan.fixedIndexes = other.fixedIndexes
  framedIndexes : plan.framedIndexes = other.framedIndexes
  sizes : plan.fields.map (·.size) = other.fields.map (·.size)

theorem sameLayout_of_widths {plan other : Plan} (h : plan.widths = other.widths) :
    plan.SameLayout other where
  fixedIndexes := fixedIndexes_eq_of_isSome (congrArg _ h)
  framedIndexes := framedIndexes_eq_of_isSome (congrArg _ h)
  sizes := by
    have hsizes : ∀ p : Plan, p.fields.map (·.size) = p.widths.map (·.getD 0) := by
      intro p
      rw [widths, List.map_map]
      rfl
    rw [hsizes, hsizes, h]

end Plan

namespace RenderScope

variable {scope : RenderScope} {direction : Direction}

/-- Whether a field has a width as a type and its operation one as an operation must agree. -/
theorem planField_eq_ok_iff {field : Field} {planned : PlannedField} :
    scope.planField direction field = .ok planned ↔
      ∃ mapping, scope.set.mapping? direction scope.types field.type = .ok mapping ∧
        (field.type.fixedWidth? scope.types.table).isSome = mapping.op.isFixed ∧
        planned = ⟨field, scope.set.parameter field.name, mapping⟩ := by
  rw [planField, bind_eq_ok_iff]
  refine exists_congr fun mapping => and_congr_right fun _ => ?_
  split
  · next h => simp [h, pure_eq_ok_iff]
  · next h => simp [h, throw, throwThe, MonadExceptOf.throw]

/-- What the mappings of a set say about the width of a type, the plan says about the fields. -/
theorem widths_of_plan (width? : TypeName → Option Nat)
    (hwidth : ∀ type mapping, scope.set.mapping? direction scope.types type = .ok mapping →
      (type.fixedWidth? scope.types.table).isSome = mapping.op.isFixed →
      mapping.op.size? = width? type)
    {fields : List Field} {plan : Plan} (h : scope.plan direction fields = .ok plan) :
    plan.widths = fields.map fun field => width? field.type := by
  obtain ⟨planned, hplanned, h⟩ := bind_eq_ok_iff.mp h
  rw [pure_eq_ok_iff.mp h]
  refine map_eq_of_mapM (fun field planned hfield => ?_) hplanned
  obtain ⟨mapping, hmapping, hfixed, rfl⟩ := planField_eq_ok_iff.mp hfield
  exact hwidth field.type mapping hmapping hfixed

theorem isSome_widths_of_plan {fields : List Field} {plan : Plan}
    (h : scope.plan direction fields = .ok plan) :
    plan.widths.map Option.isSome =
      fields.map fun field => (field.type.fixedWidth? scope.types.table).isSome := by
  obtain ⟨planned, hplanned, h⟩ := bind_eq_ok_iff.mp h
  rw [pure_eq_ok_iff.mp h, Plan.widths, List.map_map]
  refine map_eq_of_mapM (fun field planned hfield => ?_) hplanned
  obtain ⟨mapping, -, hfixed, rfl⟩ := planField_eq_ok_iff.mp hfield
  rw [hfixed, Operation.isFixed_eq_isSome]
  rfl

theorem planField_outcome {field : Field}
    (h : SameOutcome (fun encode decode : TypeMapping => encode.op.place = decode.op.place)
      (scope.set.mapping? .encode scope.types field.type)
      (scope.set.mapping? .decode scope.types field.type)) :
    SameOutcome (fun encode decode : PlannedField => encode.op.size? = decode.op.size?)
      (scope.planField .encode field) (scope.planField .decode field) := by
  refine h.bind fun encode decode hplace => ?_
  have hfixed : encode.op.isFixed = decode.op.isFixed := by
    rw [Operation.isFixed, hplace, Operation.isFixed]
  rw [hfixed]
  split
  · refine .ok ?_
    show encode.op.size? = decode.op.size?
    rw [Operation.size?, hplace, Operation.size?]
  · exact .error _

/-- Plans for the two directions agree if the mappings of every type take its values from one
place. -/
theorem plan_outcome
    (h : ∀ type, SameOutcome (fun encode decode : TypeMapping => encode.op.place = decode.op.place)
      (scope.set.mapping? .encode scope.types type) (scope.set.mapping? .decode scope.types type))
    (fields : List Field) :
    SameOutcome Plan.SameLayout (scope.plan .encode fields) (scope.plan .decode fields) := by
  rw [RenderScope.plan, RenderScope.plan]
  refine (SameOutcome.mapM fields fun field _ => planField_outcome (h field.type)).bind ?_
  intro encode decode hrel
  refine .ok (Plan.sameLayout_of_widths ?_)
  rw [Plan.widths, Plan.widths]
  rw [← List.forall₂_eq_eq_eq, List.forall₂_map_left_iff, List.forall₂_map_right_iff]
  exact hrel

end RenderScope

end WireCodecs
