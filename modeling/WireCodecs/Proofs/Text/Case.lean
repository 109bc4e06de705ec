import WireCodecs.Text.Case

/-! Letter case and marks. A mark is an ASCII character that is no letter, such as an underscore, a
slash or a bracket. Casing keeps marks as they are and makes none of other characters. Upper-casing
leaves no lower-case letter of ASCII, as what it makes of other characters is beyond ASCII or an
upper-case letter. -/

namespace WireCodecs.Text

/-- An ASCII character other than a letter. -/
def isMark (c : Char) : Bool := 0 < c.toNat && c.toNat < 128 && !c.isAlpha

theorem isMark_iff {c : Char} :
    isMark c ↔ 0 < c.toNat ∧ c.toNat < 128 ∧ c.isAlpha = false := by
  simp [isMark, and_assoc]

/-- A property of ASCII characters is decided by going through them. -/
theorem of_ascii (p : Char → Prop) (hall : ∀ n < 128, p (Char.ofNat n)) {c : Char}
    (hascii : c.toNat < 128) : p c := by
  rw [← Char.ofNat_toNat c]
  exact hall c.toNat hascii

theorem toNat_lt_of_isLower {c : Char} (h : c.isLower) : c.toNat < 128 := by
  have hrange : (decide (97 ≤ c.val) && decide (c.val ≤ 122)) = true := h
  have hle : c.toNat ≤ 122 :=
    UInt32.le_iff_toNat_le.mp (of_decide_eq_true (Bool.and_eq_true_iff.mp hrange).2)
  omega

theorem toNat_lt_of_isDigit {c : Char} (h : c.isDigit) : c.toNat < 128 := by
  have hrange : (decide (48 ≤ c.val) && decide (c.val ≤ 57)) = true := h
  have hle : c.toNat ≤ 57 :=
    UInt32.le_iff_toNat_le.mp (of_decide_eq_true (Bool.and_eq_true_iff.mp hrange).2)
  omega

section Tables

/-- An upper-case letter of ASCII or a character beyond it. The null character is the one that
stands for an invalid code point. -/
def isUpperOrBeyond (c : Char) : Bool := c.isUpper || c.toNat == 0 || 128 ≤ c.toNat

theorem isUpperOrBeyond_iff {c : Char} :
    isUpperOrBeyond c ↔ c.isUpper ∨ c.toNat = 0 ∨ 128 ≤ c.toNat := by
  simp [isUpperOrBeyond, or_assoc]

theorem isLower_of_isUpperOrBeyond {c : Char} (h : isUpperOrBeyond c) : c.isLower = false := by
  rw [← Bool.not_eq_true]
  intro hlower
  have hc := of_ascii (fun c => c.isLower → ¬isUpperOrBeyond c) (by decide)
    (toNat_lt_of_isLower hlower)
  exact hc hlower h

theorem isMark_of_isUpperOrBeyond {c : Char} (h : isUpperOrBeyond c) : isMark c = false := by
  rw [← Bool.not_eq_true]
  intro hmark
  have hc := of_ascii (fun c => isMark c → ¬isUpperOrBeyond c) (by decide)
    (isMark_iff.mp hmark).2.1
  exact hc hmark h

theorem isUpperOrBeyond_ofNat {n : Nat} (h : 128 ≤ n) : isUpperOrBeyond (Char.ofNat n) := by
  rw [isUpperOrBeyond_iff]
  by_cases hvalid : n.isValidChar
  · have hcode : (Char.ofNat n).toNat = n := by
      rw [Char.ofNat, dif_pos hvalid]
      rfl
    omega
  · have hcode : (Char.ofNat n).toNat = 0 := by
      rw [Char.ofNat, dif_neg hvalid]
      rfl
    omega

/-- What holds of all characters beyond ASCII and of those that the table leads to in ASCII holds of
the other case of a character beyond ASCII. A run that leads to ASCII is a single letter. -/
theorem of_mem_mapCase {p : Char → Prop} {expansions : List (Nat × List Nat)}
    {runs : List CaseRun} (hbeyond : ∀ n, 128 ≤ n → p (Char.ofNat n))
    (hexpansions : ∀ entry ∈ expansions, ∀ code ∈ entry.2, p (Char.ofNat code))
    (hruns : ∀ run ∈ runs, 128 ≤ run.first + run.shift ∨
      run.first = run.last ∧ p (Char.ofNat (run.first + run.shift).toNat))
    {c d : Char} (hc : 128 ≤ c.toNat) (h : d ∈ mapCase expansions runs c) : p d := by
  rw [mapCase] at h
  split at h
  · next codes hlookup =>
    obtain ⟨code, hcode, rfl⟩ := List.mem_map.mp h
    obtain ⟨_, _, hsplit, _⟩ := List.lookup_eq_some_iff.mp hlookup
    have hentry : (c.toNat, codes) ∈ expansions := by simp [hsplit]
    exact hexpansions _ hentry code hcode
  · split at h
    · next shift hshift =>
      rw [List.mem_singleton.mp h]
      obtain ⟨run, hrun, rfl⟩ := Option.map_eq_some_iff.mp hshift
      have hcovers : run.first ≤ c.toNat ∧ c.toNat ≤ run.last := by
        have := List.find?_some hrun
        simp only [CaseRun.covers, Bool.and_eq_true, decide_eq_true_eq] at this
        exact this.1
      rcases hruns run (List.mem_of_find?_eq_some hrun) with hstart | ⟨hsingle, hletter⟩
      · exact hbeyond _ (by omega)
      · have heq : c.toNat = run.first := by omega
        rw [heq]
        exact hletter
    · rw [List.mem_singleton.mp h, ← Char.ofNat_toNat c]
      exact hbeyond _ hc

end Tables

variable {c d : Char}

theorem isUpperOrBeyond_of_mem_upperChars (hc : 128 ≤ c.toNat) (h : d ∈ upperChars c) :
    isUpperOrBeyond d := by
  rw [upperChars, if_neg (by omega)] at h
  exact of_mem_mapCase (p := fun d => isUpperOrBeyond d) (fun _ => isUpperOrBeyond_ofNat)
    (by decide +kernel) (by decide +kernel) hc h

/-- Lower-casing a character beyond ASCII makes no marks. -/
theorem isMark_of_mem_lowerChars (hc : 128 ≤ c.toNat) (h : d ∈ lowerChars c) :
    isMark d = false := by
  rw [lowerChars, if_neg (by omega)] at h
  exact of_mem_mapCase (p := fun d => isMark d = false)
    (fun _ hn => isMark_of_isUpperOrBeyond (isUpperOrBeyond_ofNat hn))
    (by decide +kernel) (by decide +kernel) hc h

theorem upperChars_ne_nil (c : Char) : upperChars c ≠ [] := by
  unfold upperChars mapCase
  split
  · exact List.cons_ne_nil _ _
  · split
    · next codes hlookup =>
      have hall : ∀ entry ∈ CaseTable.upperExpansions, entry.2 ≠ [] := by decide
      obtain ⟨_, _, hsplit, _⟩ := List.lookup_eq_some_iff.mp hlookup
      simpa using hall (c.toNat, codes) (by simp [hsplit])
    · split <;> exact List.cons_ne_nil _ _

/-- Upper-casing leaves no lower-case letter of ASCII. -/
theorem isLower_of_mem_upperChars (h : d ∈ upperChars c) : d.isLower = false := by
  by_cases hascii : c.toNat < 128
  · rw [upperChars, if_pos hascii, List.mem_singleton] at h
    rw [h]
    exact of_ascii (fun c => c.toUpper.isLower = false) (by decide) hascii
  · exact isLower_of_isUpperOrBeyond (isUpperOrBeyond_of_mem_upperChars (by omega) h)

section Marks

theorem upperChars_of_isMark (h : isMark c) : upperChars c = [c] := by
  have hascii : c.toNat < 128 := (isMark_iff.mp h).2.1
  have hc := of_ascii (fun c => isMark c → c.toUpper = c) (by decide) hascii
  rw [upperChars, if_pos hascii, hc h]

theorem isMark_of_isMark_toUpper (hascii : c.toNat < 128) (h : isMark c.toUpper) : isMark c := by
  exact of_ascii (fun c => isMark c.toUpper → isMark c) (by decide) hascii h

theorem isMark_of_mem_upperChars (h : d ∈ upperChars c) (hd : isMark d) : isMark c := by
  by_cases hascii : c.toNat < 128
  · rw [upperChars, if_pos hascii, List.mem_singleton] at h
    exact isMark_of_isMark_toUpper hascii (h ▸ hd)
  · rw [isMark_of_isUpperOrBeyond (isUpperOrBeyond_of_mem_upperChars (by omega) h)] at hd
    cases hd

/-- The marks of an upper-cased character are the marks of the character. -/
theorem mem_upperChars_iff (hd : isMark d) : d ∈ upperChars c ↔ d = c := by
  constructor
  · intro h
    rw [upperChars_of_isMark (isMark_of_mem_upperChars h hd)] at h
    exact List.mem_singleton.mp h
  · rintro rfl
    rw [upperChars_of_isMark hd]
    exact List.mem_singleton_self d

theorem mem_lowerChars_iff (hd : isMark d) : d ∈ lowerChars c ↔ d = c := by
  by_cases hascii : c.toNat < 128
  · have hkept := of_ascii (fun c => isMark c → c.toLower = c) (by decide) (c := c) hascii
    have hback := of_ascii (fun c => isMark c.toLower → isMark c) (by decide) (c := c) hascii
    rw [lowerChars, if_pos hascii, List.mem_singleton]
    constructor
    · rintro rfl
      exact hkept (hback hd)
    · rintro rfl
      exact (hkept hd).symm
  · constructor
    · intro h
      rw [isMark_of_mem_lowerChars (by omega) h] at hd
      cases hd
    · rintro rfl
      exact absurd (isMark_iff.mp hd).2.1 hascii

theorem mem_lowerFrom_iff (hd : isMark d) (before rest : List Char) :
    d ∈ lowerFrom before rest ↔ d ∈ rest := by
  induction rest generalizing before with
  | nil => rfl
  | cons c rest ih =>
    rw [lowerFrom, List.mem_append, ih, List.mem_cons]
    by_cases hsigma : c = 'Σ'
    · have hsigmas : ¬ isMark 'ς' ∧ ¬ isMark 'σ' ∧ ¬ isMark 'Σ' := by decide
      have hcapital : d ≠ 'Σ' := fun h => hsigmas.2.2 (h ▸ hd)
      have hsmall : d ≠ lowerSigma before rest := by
        rintro rfl
        unfold lowerSigma at hd
        split at hd
        · exact hsigmas.1 hd
        · exact hsigmas.2.1 hd
      simp [hsigma, hcapital, hsmall]
    · rw [if_neg hsigma, mem_lowerChars_iff hd]

theorem mem_lowercase_iff (hd : isMark d) (text : String) :
    d ∈ (lowercase text).toList ↔ d ∈ text.toList := by
  rw [lowercase, String.toList_ofList, mem_lowerFrom_iff hd]

end Marks

end WireCodecs.Text
