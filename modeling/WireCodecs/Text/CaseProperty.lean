import WireCodecs.Text.CaseTable
import WireCodecs.Text.CodeRange
import WireCodecs.Text.Lines
import WireCodecs.Text.PropertyTable

/-! Properties of characters that concern their case, as ranges. Case mappings to several characters
are changes too. -/

namespace WireCodecs.Text

section Ranges

/-- The code points of a run, one by one. -/
def CaseRun.ranges (run : CaseRun) : List CodeRange :=
  (List.range ((run.last - run.first) / run.step + 1)).map fun i => .one (run.first + i * run.step)

def runRanges (runs : List CaseRun) : List CodeRange := runs.flatMap CaseRun.ranges

/-- The characters beyond ASCII that a case mapping changes. -/
def mappedRanges (runs : List CaseRun) (expansions : List (Nat × List Nat)) : List CodeRange :=
  runRanges runs ++ expansions.map fun (code, _) => .one code

/-- The ranges that a text of lengths lists. -/
def lengthRanges (text : List String) : List CodeRange :=
  secondRuns 0 ((text.flatMap (splitOn ' ')).map (·.toNat?.getD 0))

end Ranges

inductive CaseProperty where
  | uppercase
  | lowercase
  | cased
  | ignorable
  | changesLowercased
  | changesUppercased
  | changesTitlecased
  | changesFolded
  | changesMapped

namespace CaseProperty

/-- The properties with their names. -/
def named : List (List String × CaseProperty) := [
  (["Uppercase", "Upper"], uppercase), (["Lowercase", "Lower"], lowercase),
  (["Cased"], cased), (["Case_Ignorable", "CI"], ignorable),
  (["Changes_When_Lowercased", "CWL"], changesLowercased),
  (["Changes_When_Uppercased", "CWU"], changesUppercased),
  (["Changes_When_Titlecased", "CWT"], changesTitlecased),
  (["Changes_When_Casefolded", "CWCF"], changesFolded),
  (["Changes_When_Casemapped", "CWCM"], changesMapped)]

def upper : List CodeRange := .between 'A' 'Z' :: runRanges CaseTable.uppercase

def lower : List CodeRange := .between 'a' 'z' :: runRanges CaseTable.lowercase

def lowercased : List CodeRange :=
  .between 'A' 'Z' :: mappedRanges CaseTable.lowerMapping CaseTable.lowerExpansions

def uppercased : List CodeRange :=
  .between 'a' 'z' :: mappedRanges CaseTable.upperMapping CaseTable.upperExpansions

/-- The characters with a property. Letters that are folded to upper case are changed by their lower
case only, and a capital that is written as two letters is changed by its title case too. -/
def ranges : CaseProperty → List CodeRange
  | uppercase => upper
  | lowercase => lower
  | cased => upper ++ lower ++ runRanges CaseTable.titlecase
  | ignorable =>
    ['\'', '.', ':', '^', '\x60'].map (fun c => .between c c) ++ runRanges CaseTable.caseIgnorable
  | changesLowercased => lowercased
  | changesUppercased => uppercased
  | changesTitlecased =>
    [0x1C4, 0x1C7, 0x1CA, 0x1F1].map CodeRange.one ++
      punchAll (⟨0x10D0, 0x10FF⟩ :: runRanges CaseTable.titlecase) uppercased
  | changesFolded =>
    punchAll [⟨0x13A0, 0x13F5⟩] lowercased ++ lengthRanges foldedLowercaseText
  | changesMapped => lowercased ++ uppercased

end CaseProperty

end WireCodecs.Text
