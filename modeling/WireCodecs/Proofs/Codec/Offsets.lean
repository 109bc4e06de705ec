import WireCodecs.Proofs.Codec.Cpp.Declarations
import WireCodecs.Proofs.Codec.Java.Declarations
import WireCodecs.Proofs.Text.Sum

/-! The offsets of the fixed fields. The Java constants are a chain: each is defined by the one
before it. With each constant put in for its name in the next definition, a field has its place from
the sizes of the fields before it, and the fields lie side by side in the initial frame, which is as
long as the C++ codecs take it to be. -/

namespace WireCodecs

section Tiling

/-- Spans, each with its start and its length, that lie side by side from `start` to `stop`. -/
def Tiles (start : Nat) : List (Nat × Nat) → (stop : Nat) → Prop
  | [], stop => start = stop
  | (first, length) :: spans, stop => first = start ∧ Tiles (start + length) spans stop

/-- How many of the spans a byte lies in. -/
def spansAt (byte : Nat) (spans : List (Nat × Nat)) : Nat :=
  spans.countP fun span => span.1 ≤ byte && byte < span.1 + span.2

variable {start stop : Nat} {spans : List (Nat × Nat)}

theorem Tiles.le (h : Tiles start spans stop) : start ≤ stop := by
  induction spans generalizing start with
  | nil => exact Nat.le_of_eq h
  | cons span spans ih => exact (Nat.le_add_right _ _).trans (ih h.2)

/-- The spans are disjoint and fill the whole. -/
theorem Tiles.spansAt_eq (h : Tiles start spans stop) (byte : Nat) :
    spansAt byte spans = if start ≤ byte ∧ byte < stop then 1 else 0 := by
  induction spans generalizing start with
  | nil =>
    obtain rfl : start = stop := h
    rw [if_neg (by omega)]
    rfl
  | cons span spans ih =>
    obtain ⟨first, length⟩ := span
    obtain ⟨rfl, hrest⟩ := h
    have hle := hrest.le
    have htail := ih hrest
    rw [spansAt] at htail ⊢
    rw [List.countP_cons, htail]
    simp only [Bool.and_eq_true, decide_eq_true_eq]
    split_ifs <;> omega

theorem offsetsFrom_eq_map_inits (base : Nat) (sizes : List Nat) :
    offsetsFrom base sizes = sizes.inits.map fun before => base + before.sum := by
  induction sizes generalizing base with
  | nil => rfl
  | cons size rest ih =>
    rw [offsetsFrom, ih, List.inits_cons, List.map_cons, List.map_map]
    refine congrArg (base :: ·) (List.map_congr_left fun before _ => ?_)
    rw [Function.comp_apply, List.sum_cons, Nat.add_assoc]

theorem getLast?_offsetsFrom (base : Nat) (sizes : List Nat) :
    (offsetsFrom base sizes).getLast? = some (base + sizes.sum) := by
  induction sizes generalizing base with
  | nil => rfl
  | cons size rest ih =>
    rw [offsetsFrom, List.getLast?_cons, ih, Option.getD_some, List.sum_cons, Nat.add_assoc]

theorem tiles_offsetsFrom (base : Nat) (sizes : List Nat) :
    Tiles base ((offsetsFrom base sizes).zip sizes) (base + sizes.sum) := by
  induction sizes generalizing base with
  | nil => exact rfl
  | cons size rest ih =>
    rw [List.sum_cons, ← Nat.add_assoc]
    exact ⟨rfl, ih (base + size)⟩

end Tiling

namespace Java

section Expansion

/-- A definition with `text` put in for the name at its start, if it starts with the name. -/
def expand (name text definition : String) : String :=
  match Text.afterStart? name.toList definition.toList with
  | some rest => text ++ String.ofList rest
  | none => definition

theorem expand_sum (name text : String) (size : Nat) :
    expand name text (name ++ " + " ++ toString size) = text ++ " + " ++ toString size := by
  have hrest : Text.afterStart? name.toList (name ++ " + " ++ toString size).toList =
      some (" + " ++ toString size).toList :=
    Text.afterStart?_eq_some_iff.mpr (by simp)
  simp only [expand, hrest]
  rw [String.ofList_toList, String.append_assoc]

/-- The expanded definitions of constants behind one that expands to `text`. -/
def expansionsAfter (name text : String) : List Constant → List String
  | [] => []
  | constant :: rest =>
    let expanded := expand name text constant.definition
    expanded :: expansionsAfter constant.name expanded rest

/-- The definitions of constants, each with the expansion of the one before it put in. -/
def expansions : List Constant → List String
  | [] => []
  | constant :: rest =>
    constant.definition :: expansionsAfter constant.name constant.definition rest

/-- The sum of a text and numbers, as a text. -/
def sumText (text : String) (sizes : List Nat) : String :=
  sizes.foldl (fun text size => text ++ " + " ++ toString size) text

theorem sumValue_sumText (constant : String → Nat) (text : String) (sizes : List Nat) :
    Text.sumValue constant (sumText text sizes) = Text.sumValue constant text + sizes.sum := by
  induction sizes generalizing text with
  | nil => rfl
  | cons size sizes ih =>
    rw [sumText, List.foldl_cons, ← sumText, ih, Text.sumValue_append, List.sum_cons,
      Nat.add_assoc]

end Expansion

section Chain

variable (lead : String)

/-- Every definition but the first is the constant before it plus the size of its field. -/
theorem map_definition_offsetChain (start : String) (fixed : List PlannedField) :
    (offsetChain lead start fixed).map (·.definition) =
      start :: fixed.map fun planned =>
        offsetName lead planned.field ++ " + " ++ toString planned.size := by
  induction fixed generalizing start with
  | nil => rfl
  | cons planned rest ih => exact congrArg (start :: ·) (ih _)

/-- The chain behind a constant that expands to `text`, which defines its first constant by it. -/
theorem expansionsAfter_offsetChain (name text : String) (size : Nat) (fixed : List PlannedField) :
    expansionsAfter name text (offsetChain lead (name ++ " + " ++ toString size) fixed) =
      (fixed.map (·.size)).inits.map (sumText (text ++ " + " ++ toString size)) := by
  induction fixed generalizing name text size with
  | nil => exact congrArg (· :: []) (expand_sum name text size)
  | cons planned rest ih =>
    rw [offsetChain, expansionsAfter, expand_sum, ih, List.map_cons, List.inits_cons,
      List.map_cons, List.map_map]
    rfl

theorem expansions_offsetChain (start : String) (fixed : List PlannedField) :
    expansions (offsetChain lead start fixed) =
      (fixed.map (·.size)).inits.map (sumText start) := by
  cases fixed with
  | nil => rfl
  | cons planned rest =>
    rw [offsetChain, expansions, expansionsAfter_offsetChain, List.map_cons, List.inits_cons,
      List.map_cons, List.map_map]
    rfl

end Chain

theorem trace_offsetCode (lead base : String) (plan : Plan) (depth : Nat) :
    (offsetCode lead base plan).trace depth =
      (offsets lead base plan).flatMap fun constant =>
        Event.ofLines depth constant.declaration.line := by
  rw [offsetCode, Code.trace_all, List.flatMap_map]
  rfl

theorem values_of_offsets (constant : String → Nat) (lead base : String) (plan : Plan) :
    (expansions (offsets lead base plan)).map (Text.sumValue constant) =
      plan.offsets (Text.sumValue constant base) := by
  rw [offsets, expansions_offsetChain, Plan.offsets, offsetsFrom_eq_map_inits, List.map_map]
  exact List.map_congr_left fun before _ => sumValue_sumText constant base before

end Java

namespace Cpp

theorem inText_requestFrameSize (service : String) (method : Method) (plan : PlannedMethod) :
    Code.InText indent ((headerCode service method plan).render indent)
      (.line ("static constexpr size_t REQUEST_INITIAL_FRAME_SIZE = " ++
        requestFrameSize plan.request.encode ++ ";")) := by
  have hblock : Code.PartOf _ (headerCode service method plan) :=
    .item 2 rfl (.block _ "\x7d;" (.item 3 rfl .whole))
  unfold requestFrameSize
  rw [← String.append_assoc]
  exact hblock.inText

theorem sumValue_requestFrameSize (constant : String → Nat) (plan : Plan) :
    Text.sumValue constant (requestFrameSize plan) =
      Text.sumValue constant "ClientMessage::REQUEST_HEADER_LEN" + plan.fixedSize := by
  have hheader : "ClientMessage::REQUEST_HEADER_LEN + " =
      "ClientMessage::REQUEST_HEADER_LEN" ++ " + " := by
    simp
  unfold requestFrameSize
  rw [hheader]
  exact Text.sumValue_append _ _ _

end Cpp

/-- The offsets of a plan are one constant for each fixed field and one for the size of the frame,
each defined by the one before it, from the given base on. So a field is as far from the base as the
fields before it are long together, and the fields lie side by side up to the end of the frame: each
byte of the frame belongs to one of them. As long as the length of the frame is a machine word, it
is the length that the plan has for it and that the C++ codecs reserve. -/
theorem offsets_tile_initialFrame (lead base : String) (plan : Plan) (constant : String → Nat) :
    let sizes := plan.fixed.map (·.size)
    let chain := Java.offsets lead base plan
    let values := (Java.expansions chain).map (Text.sumValue constant)
    let start := Text.sumValue constant base
    let stop := start + sizes.sum
    (∀ depth, (Java.offsetCode lead base plan).trace depth =
      chain.flatMap fun constant => Event.ofLines depth constant.declaration.line) ∧
    chain.map (·.name) = plan.fixed.map (fun planned => Java.offsetName lead planned.field) ++
      [Java.frameSizeName lead] ∧
    chain.map (·.definition) = base :: plan.fixed.map (fun planned =>
      Java.offsetName lead planned.field ++ " + " ++ toString planned.size) ∧
    Java.expansions chain = sizes.inits.map (Java.sumText base) ∧
    values = sizes.inits.map (fun before => start + before.sum) ∧ values.getLast? = some stop ∧
    Tiles start (values.zip sizes) stop ∧
    (∀ byte, spansAt byte (values.zip sizes) = if start ≤ byte ∧ byte < stop then 1 else 0) ∧
    (sizes.sum < UInt64.size → stop = start + plan.fixedSize) ∧
    ∀ service method decode events,
      Code.InText Cpp.indent
        ((Cpp.headerCode service method ⟨⟨plan, decode⟩, events⟩).render Cpp.indent)
        (.line ("static constexpr size_t REQUEST_INITIAL_FRAME_SIZE = " ++
          Cpp.requestFrameSize plan ++ ";")) ∧
      Text.sumValue constant (Cpp.requestFrameSize plan) =
        Text.sumValue constant "ClientMessage::REQUEST_HEADER_LEN" + plan.fixedSize := by
  intro sizes chain values start stop
  have hvalues : values = offsetsFrom start sizes :=
    Java.values_of_offsets constant lead base plan
  have htiles : Tiles start (values.zip sizes) stop := by
    rw [hvalues]
    exact tiles_offsetsFrom start sizes
  refine ⟨Java.trace_offsetCode lead base plan, Java.map_name_offsetChain lead base plan.fixed,
    Java.map_definition_offsetChain lead base plan.fixed,
    Java.expansions_offsetChain lead base plan.fixed, ?values, ?last, htiles, htiles.spansAt_eq,
    ?word, fun service method decode events => ⟨?line, Cpp.sumValue_requestFrameSize constant plan⟩⟩
  case values => rw [hvalues, offsetsFrom_eq_map_inits]
  case last =>
    rw [hvalues]
    exact getLast?_offsetsFrom start sizes
  case word => exact fun h => congrArg (start + ·) (Plan.fixedSize_of_lt h).symm
  case line => exact Cpp.inText_requestFrameSize service method ⟨⟨plan, decode⟩, events⟩

/-- A number behind a truth value and in front of a text in a frame of its own. -/
theorem offsets_tile_initialFrame_entry :
    let scope : RenderScope := ⟨Java.mappingSet, ⟨.standard, []⟩, "codec"⟩
    let field (name type : String) : Field := ⟨name, .primitive type, false, none, none⟩
    ∃ plan, scope.plan .encode [field "held" "Boolean", field "count" "Int32",
        field "key" "String"] = .ok plan ∧
      (plan.fixed.map (·.size)).sum < UInt64.size ∧
      plan.fixedSize = 5 ∧
      Tiles (Text.sumValue (fun _ => 13) "BASE")
        (((Java.expansions (Java.offsets "ENTRY_" "BASE" plan)).map
          (Text.sumValue fun _ => 13)).zip (plan.fixed.map (·.size)))
        (Text.sumValue (fun _ => 13) "BASE" + plan.fixedSize) := by
  intro scope field
  refine ⟨_, rfl, by decide, by decide, ?_⟩
  obtain ⟨-, -, -, -, -, -, htiles, -, hword, -⟩ :=
    offsets_tile_initialFrame "ENTRY_" "BASE" ⟨_⟩ fun _ => 13
  rw [← hword (by decide)]
  exact htiles

end WireCodecs
