import WireCodecs.Text.Case

/-! Characters that differ in case only. Characters are the same but for case if the lower case of
their upper case is the same, where a case of several characters does not count. -/

namespace WireCodecs.Text

section Mapping

/-- The only character of a list, or else `c`. -/
def onlyOr (c : Char) : List Char → Char
  | [d] => d
  | _ => c

def upperChar (c : Char) : Char := onlyOr c (upperChars c)

def lowerChar (c : Char) : Char := onlyOr c (lowerChars c)

/-- Pairs of characters that differ in case only, though neither is the other's case. -/
def foldedPairs : List (Nat × Nat) := [(0x1FD3, 0x390), (0x1FE3, 0x3B0), (0xFB05, 0xFB06)]

/-- The character that stands for all that differ from `c` in case only. A dotless letter differs in
more than case. -/
def foldCase (c : Char) : Char :=
  if c == 'ı' then c
  else
    match foldedPairs.lookup c.toNat with
    | some code => Char.ofNat code
    | none => lowerChar (upperChar c)

end Mapping

section Variants

/-- The characters that the runs of a table map to `c`. -/
def sources (runs : List CaseRun) (c : Char) : List Char :=
  runs.filterMap fun run =>
    let code := ((c.toNat : Int) - run.shift).toNat
    if run.covers code then some (Char.ofNat code) else none

/-- The characters with `c` as their upper case. -/
def uppercasedTo (c : Char) : List Char := c.toLower :: sources CaseTable.upperMapping c

/-- The characters with `c` as their lower case. -/
def lowercasedTo (c : Char) : List Char := c.toUpper :: sources CaseTable.lowerMapping c

/-- All characters that differ from `c` in case only, and `c` itself. -/
def caseVariants (c : Char) : List Char :=
  let folded := foldCase c
  let upper := folded :: lowercasedTo folded
  let pairs := foldedPairs.map fun (first, _) => Char.ofNat first
  c :: (upper ++ upper.flatMap uppercasedTo ++ pairs).filter (foldCase · == folded)

end Variants

end WireCodecs.Text
