import WireCodecs.Proofs.Codec.Cpp.Order
import WireCodecs.Proofs.Codec.Java.Frames

/-! The order of the fields in one codec. Encoders and decoders are made from two plans by different
functions, and nothing on the wire but the order says what a frame is. -/

namespace WireCodecs

end WireCodecs
