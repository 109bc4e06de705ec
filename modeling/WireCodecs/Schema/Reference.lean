import WireCodecs.Json
import WireCodecs.Schema.Pattern.Escape
import WireCodecs.Text.Lines

/-! References from one place of a schema to another. A reference is a pointer into the whole schema
behind a number sign: the steps from the root, each with a slash before it. -/

namespace WireCodecs.Schema.Reference

section Form

/-- The characters that stand for themselves in a reference. -/
def isPlain (c : Char) : Bool :=
  c.isAlphanum || "-._~!$&'()*+,;=:@/?".toList.contains c

/-- Whether a text has plain characters and escapes of a percent sign and two digits only. -/
def isPlainText : List Char → Bool
  | [] => true
  | '%' :: a :: b :: rest => (Pattern.hexValue? [a, b]).isSome && isPlainText rest
  | c :: rest => isPlain c && isPlainText rest

/-- Whether a text may stand as a reference in a well-formed schema. -/
def isWellFormed (reference : String) : Bool :=
  match reference.toList with
  | [] => true
  | '#' :: pointer => isPlainText pointer
  | _ => false

end Form

section Steps

/-- The bytes of a text in which some are escaped. -/
def escapedBytes : List Char → List UInt8
  | '%' :: a :: b :: rest =>
    match Pattern.hexValue? [a, b] with
    | some byte => UInt8.ofNat byte :: escapedBytes rest
    | none => '%'.toString.toUTF8.toList ++ escapedBytes (a :: b :: rest)
  | c :: rest => c.toString.toUTF8.toList ++ escapedBytes rest
  | [] => []

/-- A step without escapes of its own. -/
def unescapeStep : List Char → List Char
  | '~' :: '1' :: rest => '/' :: unescapeStep rest
  | '~' :: '0' :: rest => '~' :: unescapeStep rest
  | c :: rest => c :: unescapeStep rest
  | [] => []

/-- The steps of a pointer, as they are written. -/
def steps? (reference : String) : Option (List String) :=
  match reference.toList with
  | [] | ['#'] => some []
  | '#' :: '/' :: pointer => do
    let text ← String.fromUTF8? ⟨(escapedBytes pointer).toArray⟩
    return (Text.splitChars '/' text.toList).map String.ofList
  | _ => none

end Steps

/-- The position that a step stands for in an array: a decimal number, which may have a plus
sign. -/
def index? (step : String) : Option Nat :=
  match step.toList with
  | '+' :: digits => Pattern.decimal? digits
  | digits => Pattern.decimal? digits

/-- The part of a value that steps lead to. -/
def resolve? : List String → Json → Option Json
  | [], value => some value
  | step :: steps, .object entries =>
    entries.lookup (String.ofList (unescapeStep step.toList)) >>= resolve? steps
  | step :: steps, .array items =>
    (index? step).bind fun index => items[index]? >>= resolve? steps
  | _ :: _, _ => none

end WireCodecs.Schema.Reference
