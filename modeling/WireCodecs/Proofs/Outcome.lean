import Mathlib.Data.List.Perm.Basic

/-! Results that may be errors. A chain of steps succeeds exactly when every step does, and a step
taken for every element of a list succeeds exactly when it does for each of them. A computation that
stops at the first of its possible faults has them in a list, and the lists of the steps of a chain
follow each other. Two computations have the same outcome if they end with one error or with related
values; chains of such steps have the same outcome again. -/

namespace WireCodecs

section Success

variable {ε α β : Type}

theorem bind_eq_ok_iff {x : Except ε α} {f : α → Except ε β} {b : β} :
    x >>= f = .ok b ↔ ∃ a, x = .ok a ∧ f a = .ok b := by
  cases x <;> simp [bind, Except.bind]

theorem bind_eq_error_iff {x : Except ε α} {f : α → Except ε β} {e : ε} :
    x >>= f = .error e ↔ x = .error e ∨ ∃ a, x = .ok a ∧ f a = .error e := by
  cases x <;> simp [bind, Except.bind]

theorem exists_bind_iff {x : Except ε α} {f : α → Except ε β} :
    (∃ b, x >>= f = .ok b) ↔ ∃ a, x = .ok a ∧ ∃ b, f a = .ok b := by
  cases x <;> simp [bind, Except.bind]

theorem exists_pure (a : α) : ∃ b, (pure a : Except ε α) = .ok b := ⟨a, rfl⟩

theorem map_eq_ok_iff {x : Except ε α} {f : α → β} {b : β} :
    f <$> x = .ok b ↔ ∃ a, x = .ok a ∧ f a = b := by
  cases x <;> simp [Functor.map, Except.map]

theorem map_eq_error_iff {x : Except ε α} {f : α → β} {e : ε} :
    f <$> x = .error e ↔ x = .error e := by
  cases x <;> simp [Functor.map, Except.map]

theorem pure_eq_ok_iff {a b : α} : (pure a : Except ε α) = .ok b ↔ b = a := by
  simp [pure, Except.pure, eq_comm]

theorem eq_ok_of_toOption {x : Except ε α} {a : α} (h : x.toOption = some a) : x = .ok a := by
  cases x with
  | error e => cases h
  | ok b => rw [Option.some.inj h]

theorem mapM_eq_ok_iff {f : α → Except ε β} {xs : List α} {ys : List β} :
    xs.mapM f = .ok ys ↔ List.Forall₂ (fun x y => f x = .ok y) xs ys := by
  induction xs generalizing ys with
  | nil => rw [List.mapM_nil, pure_eq_ok_iff, List.forall₂_nil_left_iff]
  | cons x xs ih =>
    simp only [List.mapM_cons, bind_eq_ok_iff, pure_eq_ok_iff, ih, List.forall₂_cons_left_iff]
    constructor
    · rintro ⟨y, hy, ys, hys, rfl⟩
      exact ⟨y, ys, hy, hys, rfl⟩
    · rintro ⟨y, ys, hy, hys, rfl⟩
      exact ⟨y, hy, ys, hys, rfl⟩

theorem exists_mapM_iff {f : α → Except ε β} {xs : List α} :
    (∃ ys, xs.mapM f = .ok ys) ↔ ∀ x ∈ xs, ∃ y, f x = .ok y := by
  induction xs with
  | nil => simp [exists_pure]
  | cons x xs ih =>
    simp only [List.mapM_cons, exists_bind_iff, exists_pure, and_true, List.forall_mem_cons, ← ih,
      exists_and_right]

theorem exists_mem_of_mapM {f : α → Except ε β} {xs : List α} {ys : List β}
    (h : xs.mapM f = .ok ys) {y : β} (hy : y ∈ ys) : ∃ x ∈ xs, f x = .ok y := by
  have hforall := mapM_eq_ok_iff.mp h
  clear h
  induction hforall with
  | nil => cases hy
  | cons hxy _ ih =>
    rcases List.mem_cons.mp hy with rfl | hy
    · exact ⟨_, List.mem_cons_self, hxy⟩
    · obtain ⟨x, hx, hfx⟩ := ih hy
      exact ⟨x, List.mem_cons_of_mem _ hx, hfx⟩

theorem exists_mem_of_mapM_error {f : α → Except ε β} {xs : List α} {e : ε}
    (h : xs.mapM f = .error e) : ∃ x ∈ xs, f x = .error e := by
  induction xs with
  | nil => cases h
  | cons x xs ih =>
    rw [List.mapM_cons, bind_eq_error_iff] at h
    rcases h with hx | ⟨y, -, hrest⟩
    · exact ⟨x, List.mem_cons_self, hx⟩
    · obtain hxs | ⟨ys, -, hreturn⟩ := bind_eq_error_iff.mp hrest
      · obtain ⟨x', hx', hfx⟩ := ih hxs
        exact ⟨x', List.mem_cons_of_mem _ hx', hfx⟩
      · cases hreturn

/-- If a step that gives something gives the value of `g`, the results are some of those values. -/
theorem sublist_of_filterMapM {f : α → Except ε (Option β)} {g : α → β}
    (hstep : ∀ x y, f x = .ok (some y) → y = g x) {xs : List α} {ys : List β}
    (h : xs.filterMapM f = .ok ys) : ys.Sublist (xs.map g) := by
  induction xs generalizing ys with
  | nil =>
    rw [List.filterMapM_nil, pure_eq_ok_iff] at h
    rw [h, List.map_nil]
  | cons x xs ih =>
    rw [List.filterMapM_cons, bind_eq_ok_iff] at h
    obtain ⟨found, hfound, hrest⟩ := h
    cases found with
    | none => exact (ih hrest).cons (g x)
    | some y =>
      obtain ⟨rest, hxs, hreturn⟩ := bind_eq_ok_iff.mp hrest
      rw [pure_eq_ok_iff.mp hreturn, hstep x y hfound]
      exact (ih hxs).cons_cons (g x)

theorem map_eq_of_mapM_mem {γ : Type} {f : α → Except ε β} {g : α → γ} {k : β → γ} {xs : List α}
    (hkey : ∀ x ∈ xs, ∀ y, f x = .ok y → k y = g x) {ys : List β} (h : xs.mapM f = .ok ys) :
    ys.map k = xs.map g := by
  have hforall := mapM_eq_ok_iff.mp h
  clear h
  induction hforall with
  | nil => rfl
  | cons hxy _ ih =>
    rw [List.forall_mem_cons] at hkey
    rw [List.map_cons, List.map_cons, hkey.1 _ hxy, ih hkey.2]

theorem map_eq_of_mapM {γ : Type} {f : α → Except ε β} {g : α → γ} {k : β → γ}
    (hkey : ∀ x y, f x = .ok y → k y = g x) {xs : List α} {ys : List β}
    (h : xs.mapM f = .ok ys) : ys.map k = xs.map g :=
  map_eq_of_mapM_mem (fun x _ => hkey x) h

/-- The results do not depend on the order of the steps, except for their own order. -/
theorem exists_mapM_of_perm {f : α → Except ε β} {xs ys : List α} {results : List β}
    (h : xs.Perm ys) (hresults : xs.mapM f = .ok results) :
    ∃ results', ys.mapM f = .ok results' ∧ results.Perm results' := by
  obtain ⟨results', hresults', hperm⟩ := List.perm_comp_forall₂ h.symm (mapM_eq_ok_iff.mp hresults)
  exact ⟨results', mapM_eq_ok_iff.mpr hresults', hperm.symm⟩

/-- Steps that succeed with related results wherever others do. -/
theorem exists_mapM_of_forall₂ {γ δ : Type} {f : α → Except ε β} {g : γ → Except ε δ}
    {R : α → γ → Prop} {S : β → δ → Prop}
    (hstep : ∀ x y b, R x y → f x = .ok b → ∃ d, g y = .ok d ∧ S b d) {xs : List α} {ys : List γ}
    (h : List.Forall₂ R xs ys) {results : List β} (hresults : xs.mapM f = .ok results) :
    ∃ results', ys.mapM g = .ok results' ∧ List.Forall₂ S results results' := by
  simp only [mapM_eq_ok_iff] at hresults ⊢
  induction h generalizing results with
  | nil =>
    obtain rfl := List.forall₂_nil_left_iff.mp hresults
    exact ⟨[], .nil, .nil⟩
  | cons hR _ ih =>
    obtain ⟨b, bs, hb, hbs, rfl⟩ := List.forall₂_cons_left_iff.mp hresults
    obtain ⟨d, hd, hS⟩ := hstep _ _ _ hR hb
    obtain ⟨ds, hds, hSs⟩ := ih hbs
    exact ⟨d :: ds, .cons hd hds, .cons hS hSs⟩

end Success

/-- The computation fails with the first of the faults, and succeeds if there are none. -/
def FailsFirst {ε α : Type} (faults : List ε) (x : Except ε α) : Prop :=
  ∀ e, x = .error e ↔ faults.head? = some e

namespace FailsFirst

variable {ε α β : Type} {faults : List ε} {x : Except ε α}

theorem ok (a : α) : FailsFirst ([] : List ε) (.ok a) := by
  simp [FailsFirst]

theorem error (e : ε) (rest : List ε) : FailsFirst (e :: rest) (.error e : Except ε α) := by
  simp [FailsFirst]

theorem exists_iff (h : FailsFirst faults x) : (∃ a, x = .ok a) ↔ faults = [] := by
  cases x with
  | ok a =>
    have hnone : ∀ e, faults.head? ≠ some e := fun e he => nomatch (h e).mpr he
    simpa using List.head?_eq_none_iff.mp (Option.eq_none_iff_forall_ne_some.mpr hnone)
  | error e =>
    have hfirst : faults.head? = some e := (h e).mp rfl
    have hne : faults ≠ [] := fun hnil => by simp [hnil] at hfirst
    simp [hne]

/-- The faults of a second step count only behind those of the first. -/
theorem bind (h : FailsFirst faults x) {f : α → Except ε β} {rest : List ε}
    (hrest : ∀ a, x = .ok a → FailsFirst rest (f a)) : FailsFirst (faults ++ rest) (x >>= f) := by
  cases x with
  | ok a =>
    obtain rfl : faults = [] := h.exists_iff.mp ⟨a, rfl⟩
    exact hrest a rfl
  | error e =>
    intro e'
    have hfirst : faults.head? = some e := (h e).mp rfl
    rw [List.head?_append, hfirst, Option.some_or, Option.some.injEq]
    change (Except.error e : Except ε β) = .error e' ↔ e = e'
    rw [Except.error.injEq]

/-- A second step with the faults of the first adds none. -/
theorem bind_same (h : FailsFirst faults x) {f : α → Except ε β}
    (hsame : ∀ a, FailsFirst faults (f a)) : FailsFirst faults (x >>= f) := by
  rw [← List.append_nil faults]
  refine h.bind fun a ha => ?_
  obtain rfl : faults = [] := h.exists_iff.mp ⟨a, ha⟩
  exact hsame a

theorem map (h : FailsFirst faults x) (f : α → β) : FailsFirst faults (f <$> x) := by
  have hmap : f <$> x = x >>= fun a => .ok (f a) := by cases x <;> rfl
  rw [hmap, ← List.append_nil faults]
  exact h.bind fun a _ => ok (f a)

theorem mapM {ι : Type} {f : ι → Except ε α} {faultsOf : ι → List ε} {items : List ι}
    (h : ∀ item ∈ items, FailsFirst (faultsOf item) (f item)) :
    FailsFirst (items.flatMap faultsOf) (items.mapM f) := by
  induction items with
  | nil => exact ok []
  | cons item items ih =>
    rw [List.mapM_cons, List.flatMap_cons]
    refine (h item List.mem_cons_self).bind fun a _ => ?_
    exact (ih fun other hother => h other (List.mem_cons_of_mem item hother)).map (a :: ·)

end FailsFirst

/-- Two results with the same error, or with values that `R` relates. -/
inductive SameOutcome {ε α β : Type} (R : α → β → Prop) : Except ε α → Except ε β → Prop
  | ok {a : α} {b : β} (h : R a b) : SameOutcome R (.ok a) (.ok b)
  | error (e : ε) : SameOutcome R (.error e) (.error e)

namespace SameOutcome

variable {ε α β γ δ : Type} {R : α → β → Prop} {S : γ → δ → Prop}
  {x : Except ε α} {y : Except ε β}

theorem refl (x : Except ε α) : SameOutcome Eq x x := by
  cases x with
  | error e => exact .error e
  | ok a => exact .ok rfl

theorem mono {R' : α → β → Prop} (h : SameOutcome R x y) (hR : ∀ a b, R a b → R' a b) :
    SameOutcome R' x y := by
  cases h with
  | ok h => exact .ok (hR _ _ h)
  | error e => exact .error e

theorem bind (h : SameOutcome R x y) {f : α → Except ε γ} {g : β → Except ε δ}
    (hfg : ∀ a b, R a b → SameOutcome S (f a) (g b)) : SameOutcome S (x >>= f) (y >>= g) := by
  cases h with
  | ok h => exact hfg _ _ h
  | error e => exact .error e

theorem map (h : SameOutcome R x y) {f : α → γ} {g : β → δ} (hfg : ∀ a b, R a b → S (f a) (g b)) :
    SameOutcome S (f <$> x) (g <$> y) := by
  cases h with
  | ok h => exact .ok (hfg _ _ h)
  | error e => exact .error e

theorem mapM {ι : Type} {f : ι → Except ε α} {g : ι → Except ε β} (items : List ι)
    (h : ∀ item ∈ items, SameOutcome R (f item) (g item)) :
    SameOutcome (List.Forall₂ R) (items.mapM f) (items.mapM g) := by
  induction items with
  | nil => exact .ok .nil
  | cons item rest ih =>
    rw [List.forall_mem_cons] at h
    rw [List.mapM_cons, List.mapM_cons]
    refine h.1.bind fun a b hab => (ih h.2).bind fun as bs habs => ?_
    exact .ok (.cons hab habs)

end SameOutcome

end WireCodecs
