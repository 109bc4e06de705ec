import WireCodecs.Fingerprint.Blake3
import WireCodecs.Fingerprint.Placeholder

/-! Content fingerprints of generated texts: 64 lower-case hexadecimal digits that change with the
text. -/

namespace WireCodecs

def fingerprint (text : String) : String :=
  String.ofList (Blake3.hexChars (Blake3.hash text.toUTF8))

/-- The text as it goes into a file, with its own fingerprint in place of the placeholders. -/
def sealedText (text : String) : String := fillPlaceholders (fingerprint text) text

end WireCodecs
