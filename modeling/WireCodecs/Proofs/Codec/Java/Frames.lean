import WireCodecs.Proofs.Codec.Java.Nulls

/-! The frames of a message in the Java codecs. An encoder fills the initial frame and appends one
frame after the other; a decoder takes the frames off in turn and reads from the initial one. What a
piece of code does is told by its text. Piece by piece, both functions are compared with the order
that the declaration of the message gives. -/

namespace WireCodecs.Java

/-- A part of a message on the wire. -/
inductive Frame where
  | beginFrame
  /-- The frame with the fixed fields. -/
  | initialFrame
  /-- The frames of a value, or a null frame in their place if the value can be null. -/
  | value (field : Field) (nullable : Bool)
  | endFrame
  deriving DecidableEq, Repr

/-- A fixed field, and the constant that says where it is in the initial frame. -/
structure Slot where
  field : Field
  offset : String
  deriving DecidableEq, Repr

section Pieces

variable (coding : Coding) (plan : Plan)

/-- Code of a decoder that takes a frame off. -/
inductive Takes : Frame → Code Empty → Prop where
  | beginFrame :
    Takes .beginFrame (.line "// begin frame" ++ .line "iterator.next();" ++ .blank)
  | emptyFrame :
    Takes .initialFrame (.line "//empty initial frame" ++ .line "iterator.next();")
  | initialFrame :
    Takes .initialFrame (.line "ClientMessage.Frame initialFrame = iterator.next();")
  | value {planned : PlannedField} (h : planned ∈ plan.fields) :
    Takes (.value planned.field false)
      (.line (coding.target planned ++ " = " ++ planned.op.invoke ["iterator"] ++ ";"))
  | nullable {planned : PlannedField} (h : planned ∈ plan.fields) :
    Takes (.value planned.field true)
      (.line (coding.target planned ++ " = " ++ nullTest ++ planned.op.invoke ["iterator"] ++ ";"))
  | endFrame : Takes .endFrame (.blank ++ .line "fastForwardToEndFrame(iterator);" ++ .blank)

end Pieces

/-- Pieces of code that deal with the slots and with the frames, one piece with one of them, in
order. A piece that deals with neither is one of the `others`. -/
inductive DealsWith (onSlot : Slot → Code Empty → Prop) (onFrame : Frame → Code Empty → Prop)
    (others : Code Empty → Prop) : List (Code Empty) → List Slot → List Frame → Prop where
  | nil : DealsWith onSlot onFrame others [] [] []
  | slot {slot : Slot} {code : Code Empty} {codes : List (Code Empty)} {slots : List Slot}
      {frames : List Frame} (h : onSlot slot code) :
    DealsWith onSlot onFrame others codes slots frames →
    DealsWith onSlot onFrame others (code :: codes) (slot :: slots) frames
  | frame {frame : Frame} {code : Code Empty} {codes : List (Code Empty)} {slots : List Slot}
      {frames : List Frame} (h : onFrame frame code) :
    DealsWith onSlot onFrame others codes slots frames →
    DealsWith onSlot onFrame others (code :: codes) slots (frame :: frames)
  | other {code : Code Empty} {codes : List (Code Empty)} {slots : List Slot}
      {frames : List Frame} (h : others code) :
    DealsWith onSlot onFrame others codes slots frames →
    DealsWith onSlot onFrame others (code :: codes) slots frames

namespace DealsWith

variable {onSlot : Slot → Code Empty → Prop} {onFrame : Frame → Code Empty → Prop}
  {others : Code Empty → Prop} {codes : List (Code Empty)} {slots : List Slot} {frames : List Frame}

theorem append (h : DealsWith onSlot onFrame others codes slots frames) {more : List (Code Empty)}
    {moreSlots : List Slot} {moreFrames : List Frame}
    (hmore : DealsWith onSlot onFrame others more moreSlots moreFrames) :
    DealsWith onSlot onFrame others (codes ++ more) (slots ++ moreSlots)
      (frames ++ moreFrames) := by
  induction h with
  | nil => exact hmore
  | slot hslot _ ih => exact .slot hslot ih
  | frame hframe _ ih => exact .frame hframe ih
  | other hother _ ih => exact .other hother ih

theorem concat (h : DealsWith onSlot onFrame others codes slots frames) {frame : Frame}
    {code : Code Empty} (hframe : onFrame frame code) :
    DealsWith onSlot onFrame others (codes ++ [code]) slots (frames ++ [frame]) := by
  have hall := h.append (.frame hframe .nil)
  rwa [List.append_nil] at hall

variable {fields : List PlannedField} {code : PlannedField → Code Empty}

end DealsWith

section Orders

variable (table : TypeTable) (fields : List Field)

def slots (lead : String) : List Slot :=
  (table.partitionFields fields).1.map fun field => ⟨field, offsetName lead field⟩

end Orders

section Plans

variable {coding : Coding} {plan : Plan}

variable (coding plan)

end Plans

section Fields

variable {scope : RenderScope} {direction : Direction} {fields : List Field} {plan : Plan}
  (h : scope.plan direction fields = .ok plan)

include h

end Fields

section Classes

variable {scope : RenderScope} {fields : List Field} {plans : Plans}

end Classes

end WireCodecs.Java
