import WireCodecs.Text.Lines

/-! The placeholder of a generated text. When the text is written to a file, every occurrence of the
placeholder is replaced by the fingerprint of the text itself, placeholders included. -/

namespace WireCodecs

def fingerprintPlaceholder : String := "!codec_hash!"

/-- Puts `piece` in place of every occurrence of `target` that does not overlap an earlier one. The
first argument is the number of characters of the text still covered by the last occurrence. -/
def replaceAllFrom (target piece : List Char) : Nat → List Char → List Char
  | _, [] => []
  | covered + 1, _ :: rest => replaceAllFrom target piece covered rest
  | 0, c :: rest =>
    match Text.afterStart? target (c :: rest) with
    | some _ => piece ++ replaceAllFrom target piece (target.length - 1) rest
    | none => c :: replaceAllFrom target piece 0 rest

/-- The text with `fingerprint` in place of the placeholders. -/
def fillPlaceholders (fingerprint text : String) : String :=
  String.ofList <|
    replaceAllFrom fingerprintPlaceholder.toList fingerprint.toList 0 text.toList

end WireCodecs
