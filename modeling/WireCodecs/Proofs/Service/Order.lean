import Mathlib.Data.List.Perm.Basic
import WireCodecs.Run.Validation
import WireCodecs.Proofs.Schema.Order
import WireCodecs.Proofs.Service.MessageIds

/-! Documents and the order of what they list. Documents that differ by the order in which they are
listed, and each by the order of its methods, are both valid or both not, and resolve to the same
services: readers take methods one by one, ids are distinct, and what is resolved is sorted by
id. -/

namespace WireCodecs

section Documents

/-- Two values of documents that differ at most by the order of their methods. A document may also
be given as the array of its parts. -/
inductive SameMethods : Json → Json → Prop
  | refl (value : Json) : SameMethods value value
  | entry {before after : List (String × Json)} {methods methods' : List Json}
    (h : methods.Perm methods') :
    SameMethods (.object (before ++ ("methods", .array methods) :: after))
      (.object (before ++ ("methods", .array methods') :: after))
  | part {id name : Json} {methods methods' further : List Json} (h : methods.Perm methods') :
    SameMethods (.array (id :: name :: .array methods :: further))
      (.array (id :: name :: .array methods' :: further))

/-- The same documents, up to the order in which they are listed and that of the methods in each. -/
def SameDocuments (documents documents' : List ServiceDocument) : Prop :=
  ∃ middle, List.Forall₂ (fun document other => SameMethods document.value other.value)
    documents middle ∧ middle.Perm documents'

variable {value value' : Json} {documents documents' : List ServiceDocument}

theorem SameMethods.symm (h : SameMethods value value') : SameMethods value' value := by
  cases h with
  | refl => exact .refl value
  | entry h => exact .entry h.symm
  | part h => exact .part h.symm

/-- The array of methods is in no other one, unless the document is an array. -/
theorem SameMethods.reordered (h : SameMethods value value') {nested : Bool}
    (hnested : nested = true ∨ ∀ items, value ≠ .array items) :
    Json.Reordered nested value value' := by
  cases h with
  | refl => exact .refl value
  | entry h => exact .entry (.items h)
  | @part id name _ _ further h =>
    exact @Json.Reordered.item nested [id, name] further _ _
      (hnested.resolve_right fun harray => harray _ rfl) (.items h)

theorem SameDocuments.symm (h : SameDocuments documents documents') :
    SameDocuments documents' documents := by
  obtain ⟨middle, hsame, hperm⟩ := h
  exact List.perm_comp_forall₂ hperm.symm
    (hsame.flip.imp fun _ _ hsame => hsame.symm)

/-- Two sets of the same documents are both valid or both not, by whatever decides as the rules of a
schema do that depend on no order of items. -/
theorem validation_of_sameDocuments {validator : Validator} {set : SchemaSet} {nested : Bool}
    (hset : ∀ value, validator value = [] ↔ set.violations value = [])
    (hfree : set.IsPositionFree nested)
    (hnested : nested = true ∨ ∀ document ∈ documents, ∀ items, document.value ≠ .array items)
    (h : SameDocuments documents documents') :
    Validation.violations validator documents = [] ↔
      Validation.violations validator documents' = [] := by
  obtain ⟨middle, hsame, hperm⟩ := h
  have hvalid (documents : List ServiceDocument) : Validation.violations validator documents = [] ↔
      ∀ document ∈ documents, set.violations document.value = [] := by
    simp [Validation.violations, List.flatMap_eq_nil_iff, hset]
  have hflat : ∀ document ∈ documents,
      nested = true ∨ ∀ items, document.value ≠ .array items := fun document hmem =>
    hnested.imp_right fun hall => hall document hmem
  rw [hvalid, hvalid, Json.forall_mem_iff_of_forall₂
    ((List.forall₂_and_left _ _).mpr ⟨hflat, hsame⟩) fun document other h =>
      SchemaSet.violations_eq_nil_iff hfree (h.2.reordered h.1)]
  simp only [hperm.mem_iff]

end Documents

section Reading

open Reader

/-- The same declaration, up to the order of the methods. -/
structure SameDecl (decl decl' : ServiceDecl) : Prop where
  id : decl'.id = decl.id
  name : decl'.name = decl.name
  customTypes : decl'.customTypes = decl.customTypes
  methods : decl.methods.Perm decl'.methods

theorem SameDecl.refl (decl : ServiceDecl) : SameDecl decl decl := ⟨rfl, rfl, rfl, .refl _⟩

theorem entryAt?_of_ne {α : Type} {before after : List (String × Json)} {methods : List Json}
    (methods' : List Json) {key : String} (h : key ≠ "methods") (reader : Reader α) :
    entryAt? (before ++ ("methods", .array methods) :: after) key reader =
      entryAt? (before ++ ("methods", .array methods') :: after) key reader := by
  have hkey : (key == "methods") = false := beq_eq_false_iff_ne.mpr h
  simp only [entryAt?, List.lookup_append, List.lookup_cons, hkey]

theorem exists_entryAt?_methods {before after : List (String × Json)} {methods methods' : List Json}
    {α : Type} {reader : Reader α} {found : Option (List α)} (h : methods.Perm methods')
    (hfound : entryAt? (before ++ ("methods", .array methods) :: after) "methods" (list reader) =
      .ok found) :
    ∃ found', entryAt? (before ++ ("methods", .array methods') :: after) "methods" (list reader) =
      .ok found' ∧ (found.getD []).Perm (found'.getD []) := by
  simp only [entryAt?, List.lookup_append, List.lookup_cons_self] at hfound ⊢
  cases hbefore : before.lookup "methods" with
  | some value =>
    rw [hbefore] at hfound
    exact ⟨found, hfound, .refl _⟩
  | none =>
    rw [hbefore] at hfound
    obtain ⟨decls, hdecls, rfl⟩ := map_eq_ok_iff.mp hfound
    obtain ⟨decls', hdecls', hperm⟩ := exists_mapM_of_perm h hdecls
    exact ⟨some decls', map_eq_ok_iff.mpr ⟨decls', hdecls', rfl⟩, hperm⟩

/-- Readers find the same declaration in both documents, up to the order of the methods. -/
theorem SameMethods.read {value value' : Json} (h : SameMethods value value') {decl : ServiceDecl}
    (hdecl : ServiceDecl.read value = .ok decl) :
    ∃ decl', ServiceDecl.read value' = .ok decl' ∧ SameDecl decl decl' := by
  cases h with
  | refl => exact ⟨decl, hdecl, .refl decl⟩
  | @entry before after methods methods' hperm =>
    simp only [ServiceDecl.read, ServiceDecl.ofEntries, bind_eq_ok_iff, pure_eq_ok_iff] at hdecl ⊢
    obtain ⟨customTypes, hcustomTypes, id, hid, found, hfound, name, hname, idByte, hidByte,
      nameText, hnameText, rfl⟩ := hdecl
    obtain ⟨found', hfound', hdecls⟩ := exists_entryAt?_methods hperm hfound
    rw [entryAt?_of_ne methods' (by decide)] at hcustomTypes hid hname
    exact ⟨_, ⟨customTypes, hcustomTypes, id, hid, found', hfound', name, hname, idByte, hidByte,
      nameText, hnameText, rfl⟩, rfl, rfl, rfl, hdecls⟩
  | @part id name methods methods' further hperm =>
    simp only [ServiceDecl.read, ServiceDecl.ofParts, bind_eq_ok_iff] at hdecl ⊢
    obtain ⟨idByte, hid, nameText, hname, found, hfound, customTypes, hcustomTypes, hdecl⟩ := hdecl
    obtain ⟨decls, hdecls, rfl⟩ := map_eq_ok_iff.mp hfound
    obtain ⟨decls', hdecls', hsame⟩ := exists_mapM_of_perm hperm hdecls
    rw [noFurtherParts] at hdecl
    split at hdecl
    · cases hdecl
    · next hsize =>
      cases hdecl
      exact ⟨_, ⟨idByte, hid, nameText, hname, some decls',
        map_eq_ok_iff.mpr ⟨decls', hdecls', rfl⟩, customTypes, hcustomTypes, if_neg hsize⟩,
        rfl, rfl, rfl, hsame⟩

theorem declaration_eq_ok_iff {document : ServiceDocument} {decl : ServiceDecl} :
    document.declaration = .ok decl ↔ ServiceDecl.read document.value = .ok decl := by
  rw [ServiceDocument.declaration]
  split <;> simp_all

/-- The declarations of the same documents are the same, up to both orders. -/
theorem exists_declarations {documents documents' : List ServiceDocument}
    (h : SameDocuments documents documents') {decls : List ServiceDecl}
    (hdecls : ServiceDocument.declarations documents = .ok decls) :
    ∃ middle decls', ServiceDocument.declarations documents' = .ok decls' ∧
      List.Forall₂ SameDecl decls middle ∧ middle.Perm decls' := by
  obtain ⟨between, hsame, hperm⟩ := h
  obtain ⟨middle, hmiddle, hforall⟩ := exists_mapM_of_forall₂ (S := SameDecl)
    (g := ServiceDocument.declaration)
    (fun _ _ _ hsame hdecl => by
      simpa only [declaration_eq_ok_iff] using hsame.read (declaration_eq_ok_iff.mp hdecl))
    hsame hdecls
  obtain ⟨decls', hdecls', hdeclsPerm⟩ := exists_mapM_of_perm hperm hmiddle
  exact ⟨middle, decls', hdecls', hforall, hdeclsPerm⟩

end Reading

namespace Resolution

section Sorting

variable {α : Type} {id : α → UInt8}

theorem pairwise_sortById (items : List α) :
    (sortById id items).Pairwise fun x y => id x ≤ id y := by
  have h := @List.pairwise_mergeSort α (fun x y => decide (id x ≤ id y))
    (fun x y z hxy hyz => by
      simp only [decide_eq_true_eq] at hxy hyz ⊢
      exact UInt8.le_trans hxy hyz)
    (fun x y => by simpa using UInt8.le_total (id x) (id y)) items
  exact h.imp fun hle => by simpa using hle

/-- If ids are distinct, sorting by id forgets the order. -/
theorem sortById_eq_of_perm {items items' : List α} (h : items.Perm items')
    (hids : (items.map id).Nodup) : sortById id items = sortById id items' := by
  refine List.Perm.eq_of_pairwise (fun x y hx hy hxy hyx => ?_) (pairwise_sortById items)
    (pairwise_sortById items')
    ((sortById_perm items).trans (h.trans (sortById_perm items').symm))
  have hx' := (sortById_perm items).mem_iff.mp hx
  have hy' := h.mem_iff.mpr ((sortById_perm items').mem_iff.mp hy)
  exact List.inj_on_of_nodup_map hids hx' hy' (UInt8.le_antisymm hxy hyx)

end Sorting

variable {table : TypeTable}

/-- A service does not depend on the order in which its methods are declared. -/
theorem service_of_sameDecl {decl decl' : ServiceDecl} {resolved : Service}
    (h : SameDecl decl decl')
    (hresolved : service table decl = .ok resolved) : service table decl' = .ok resolved := by
  obtain ⟨id, name, methods, customTypes⟩ := decl
  obtain ⟨_, _, methods', _⟩ := decl'
  obtain ⟨rfl, rfl, rfl, hmethods⟩ := h
  obtain ⟨hids, found, types, hfound, htypes, rfl⟩ := service_eq_ok_iff.mp hresolved
  obtain ⟨found', hfound', hperm⟩ := exists_mapM_of_perm hmethods hfound
  refine service_eq_ok_iff.mpr
    ⟨(hmethods.map _).nodup_iff.mp hids, found', types, hfound', htypes, ?_⟩
  rw [sortById_eq_of_perm hperm]
  rw [map_eq_of_mapM (fun _ _ => id_of_method) hfound]
  exact hids

end Resolution

open Resolution in
/-- Services do not depend on the order in which they and their methods are declared. -/
theorem resolve_of_sameDecls {table : TypeTable} {decls middle decls' : List ServiceDecl}
    {services : List Service} (hsame : List.Forall₂ SameDecl decls middle)
    (hperm : middle.Perm decls')
    (hresolve : resolve table decls = .ok services) : resolve table decls' = .ok services := by
  obtain ⟨hids, resolved, hresolved, rfl⟩ := resolve_eq_ok_iff.mp hresolve
  have hsameIds : decls.map (·.id) = middle.map (·.id) := by
    clear hperm hids hresolved hresolve
    induction hsame with
    | nil => rfl
    | cons hsame _ ih => rw [List.map_cons, List.map_cons, ih, hsame.id]
  obtain ⟨between, hbetween, heq⟩ := exists_mapM_of_forall₂ (S := Eq) (f := service table)
    (g := service table)
    (fun _ _ found hsame hfound => ⟨found, service_of_sameDecl hsame hfound, rfl⟩) hsame hresolved
  rw [List.forall₂_eq_eq_eq] at heq
  subst heq
  obtain ⟨resolved', hresolved', hresolvedPerm⟩ := exists_mapM_of_perm hperm hbetween
  refine resolve_eq_ok_iff.mpr ⟨(hperm.map _).nodup_iff.mp (hsameIds ▸ hids), resolved', hresolved',
    sortById_eq_of_perm hresolvedPerm ?_⟩
  rw [map_eq_of_mapM (fun _ _ => id_of_service) hresolved]
  exact hids

/-- The services that documents declare. -/
def Enriches (types : TypeTable) (documents : List ServiceDocument) (services : List Service) :
    Prop :=
  ∃ decls, ServiceDocument.declarations documents = .ok decls ∧ resolve types decls = .ok services

theorem Enriches.unique {types : TypeTable} {documents : List ServiceDocument}
    {services services' : List Service} (h : Enriches types documents services)
    (h' : Enriches types documents services') : services = services' := by
  obtain ⟨decls, hdecls, hresolve⟩ := h
  obtain ⟨decls', hdecls', hresolve'⟩ := h'
  obtain rfl := Except.ok.inj (hdecls.symm.trans hdecls')
  exact Except.ok.inj (hresolve.symm.trans hresolve')

theorem enriches_of_sameDocuments {types : TypeTable} {documents documents' : List ServiceDocument}
    {services : List Service} (h : SameDocuments documents documents')
    (henriches : Enriches types documents services) : Enriches types documents' services := by
  obtain ⟨decls, hdecls, hresolve⟩ := henriches
  obtain ⟨middle, decls', hdecls', hsame, hperm⟩ := exists_declarations h hdecls
  exact ⟨decls', hdecls', resolve_of_sameDecls hsame hperm hresolve⟩

/-- The same documents declare the same services. -/
theorem enriches_iff_of_sameDocuments {types : TypeTable}
    {documents documents' : List ServiceDocument} (h : SameDocuments documents documents')
    (services : List Service) :
    Enriches types documents services ↔ Enriches types documents' services :=
  ⟨enriches_of_sameDocuments h, enriches_of_sameDocuments h.symm⟩

end WireCodecs
