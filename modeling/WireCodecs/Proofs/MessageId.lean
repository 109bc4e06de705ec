import WireCodecs.MessageId

/-! Reading message identifiers. The three bytes of an identifier are the service id, the method id
and the role byte that it was derived from, and the role byte of an event never wraps around. -/

namespace WireCodecs

theorem Role.event?_eq_some_iff {index : Nat} {role : Role} :
    Role.event? index = some role ↔ ∃ h : index < 254, role = .event ⟨index, h⟩ := by
  rw [Role.event?]
  split
  · next h => simp [h, eq_comm]
  · next h => simp [h]

theorem Role.toNat_byte_event (index : Fin 254) : (Role.event index).byte.toNat = index + 2 := by
  have hlt := index.isLt
  rw [Role.byte, UInt8.toNat_ofNat', Nat.mod_eq_of_lt (by omega)]

namespace MessageId

/-- Bits 16 to 23. -/
def serviceId (id : MessageId) : UInt8 := UInt8.ofNat (id.value >>> 16)

/-- Bits 8 to 15. -/
def methodId (id : MessageId) : UInt8 := UInt8.ofNat (id.value >>> 8)

/-- The low byte. -/
def roleByte (id : MessageId) : UInt8 := UInt8.ofNat id.value

section Derive

variable (service method : UInt8) (role : Role)

theorem derive_value : (derive service method role).value =
    service.toNat * 65536 + method.toNat * 256 + role.byte.toNat := rfl

theorem derive_lt : (derive service method role).value < 0x1000000 := by
  have hs := service.toNat_lt
  have hm := method.toNat_lt
  have hr := role.byte.toNat_lt
  rw [derive_value]
  omega

theorem serviceId_derive : (derive service method role).serviceId = service := by
  have hs := service.toNat_lt
  have hm := method.toNat_lt
  have hr := role.byte.toNat_lt
  apply UInt8.toNat_inj.mp
  rw [serviceId, derive_value, UInt8.toNat_ofNat', Nat.shiftRight_eq_div_pow]
  omega

theorem methodId_derive : (derive service method role).methodId = method := by
  have hm := method.toNat_lt
  have hr := role.byte.toNat_lt
  apply UInt8.toNat_inj.mp
  rw [methodId, derive_value, UInt8.toNat_ofNat', Nat.shiftRight_eq_div_pow]
  omega

theorem roleByte_derive : (derive service method role).roleByte = role.byte := by
  have hr := role.byte.toNat_lt
  apply UInt8.toNat_inj.mp
  rw [roleByte, derive_value, UInt8.toNat_ofNat']
  omega

end Derive

/-- An identifier of 24 bits that reads as the message with the given role byte. -/
structure BelongsTo (id : MessageId) (service method : UInt8) (role : Nat) : Prop where
  lt : id.value < 0x1000000
  serviceId : id.serviceId = service
  methodId : id.methodId = method
  roleByte : id.roleByte.toNat = role

theorem belongsTo_derive (service method : UInt8) (role : Role) :
    (derive service method role).BelongsTo service method role.byte.toNat where
  lt := derive_lt service method role
  serviceId := serviceId_derive service method role
  methodId := methodId_derive service method role
  roleByte := by rw [roleByte_derive]

end MessageId

end WireCodecs
