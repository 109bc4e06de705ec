/-! Message identifiers. An identifier has 24 bits: the service id, the method id and a role byte,
eight bits each, from the highest to the lowest. The request has role byte 0, the response 1 and
the event at index `i` the byte `i + 2`, so a method can have at most 254 events. -/

namespace WireCodecs

/-- The part a message plays in its method. An event's index leaves room for the two other roles. -/
inductive Role where
  | request
  | response
  | event (index : Fin 254)
  deriving DecidableEq, Repr

namespace Role

/-- The role of the event at `index`, as long as its role byte fits. -/
def event? (index : Nat) : Option Role :=
  if h : index < 254 then some (event ⟨index, h⟩) else none

def byte : Role → UInt8
  | request => 0
  | response => 1
  | event index => UInt8.ofNat (index.val + 2)

end Role

structure MessageId where
  value : Nat
  deriving DecidableEq, Repr

namespace MessageId

def derive (service method : UInt8) (role : Role) : MessageId :=
  ⟨service.toNat * 65536 + method.toNat * 256 + role.byte.toNat⟩

/-- The hexadecimal digits of `n`, at least `width` of them. -/
def paddedHex (width n : Nat) : String :=
  let digits := Nat.toDigits 16 n
  String.ofList (List.replicate (width - digits.length) '0' ++ digits)

def hex (id : MessageId) : String := "0x" ++ paddedHex 6 id.value

end MessageId

end WireCodecs
