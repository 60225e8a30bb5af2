import ProviderRegistry.Proofs.KeyTables
import ProviderRegistry.Proofs.SourcedRegistries

/-! Where the classes of a registry come from. A registry has a class under the key of the class alone;
the class is one of the registry's own extension point, and it is in the catalog of a loader, for a kept
registry in that of the loader that keeps it. So the registries of a loader have no more classes between
them than its catalog. -/

namespace ProviderRegistry

theorem Keyed.mem_of_get? {β : Type} {k : String} {t : List (String × β)} {v : β} (h : get? k t = some v) :
    (k, v) ∈ t := by
  induction t with
  | nil => cases h
  | cons e r ih =>
    rw [get?] at h
    split at h
    · rename_i hk
      cases h
      rw [← hk]
      exact List.mem_cons_self
    · exact List.mem_cons_of_mem e (ih h)

theorem Catalog.mem_of_resolve {k : Catalog} {name : String} {c : ProviderClass}
    (h : k.resolve name = some c) : c ∈ k.classes :=
  List.mem_map_of_mem (f := fun e : String × ProviderClass => e.2) (Keyed.mem_of_get? h)

theorem KeyIndex.mem_of_get? {cs : List ProviderClass} {key : String} {p : ProviderClass}
    (h : (ofClasses cs).get? key = some p) : p ∈ cs ∧ p.key = key := by
  rw [get?_ofClasses, lastKeyed] at h
  simpa using List.mem_of_getLast? h

namespace Registry

variable {reg : Registry} {k : Catalog}

/-- Whether all classes of the registry are in the catalog, each under its key and of the registry's
extension point. -/
def Stocked (reg : Registry) (k : Catalog) : Prop :=
  ∀ key p, reg.index.get? key = some p →
    p ∈ k.classes ∧ p.key = key ∧ p.point.typeId = reg.point.typeId

theorem stocked_bare : reg.bare.Stocked k ↔ reg.Stocked k := Iff.rfl

theorem stocked_of_build {files : FileTree} {point : ExtensionPoint} {locator : Locator}
    (h : (build files point locator k).result = .ok reg) : reg.Stocked k := by
  obtain ⟨rs, ds, -, hfound, rfl⟩ := found_of_build h
  have hsums := hfound ▸ (acceptanceFor point k).sums_readResources files rs
  intro key p hp
  obtain ⟨hmem, hkey⟩ := KeyIndex.mem_of_get? hp
  obtain ⟨d, hd, rfl⟩ := List.mem_map.1 hmem
  obtain ⟨⟨t, ht⟩, hi⟩ := hsums.resolved d hd
  refine ⟨Catalog.mem_of_resolve ht, hkey, ?_⟩
  simpa [acceptanceFor, ExtensionPoint.sameAs] using hi

end Registry

namespace Store

/-- Every registry has classes of the catalog of a loader, a kept one of that of the loader that keeps
it. -/
structure Stocked (s : Store) : Prop where
  all : ∀ (r : RegistryId) (reg : Registry), s.registries[r]? = some reg →
    ∃ l ∈ s.loaders, reg.Stocked l.catalog
  kept : ∀ j ty r, s.built? j ty = some r → ∃ (reg : Registry) (l : Loader),
    s.registries[r]? = some reg ∧ s.loaders[j]? = some l ∧ reg.Stocked l.catalog

variable {s : Store}

/-- Having classes of the catalog is a relation between a registry and the profile of its loader. -/
theorem stocked_iff_sourced : Stocked s ↔ Sourced (fun _ profile reg => reg.Stocked profile.1) s := by
  constructor
  · intro h
    constructor
    · intro reg hreg
      obtain ⟨old, hold, rfl⟩ := List.mem_map.1 hreg
      obtain ⟨r, hr⟩ := List.mem_iff_getElem?.1 hold
      obtain ⟨l, hl, hst⟩ := h.all r old hr
      exact ⟨l.profile, List.mem_map_of_mem hl, Registry.stocked_bare.2 hst⟩
    · intro j ty r hr
      obtain ⟨reg, l, hreg, hl, hst⟩ := h.kept j ty r hr
      exact ⟨reg.bare, l.profile, by rw [bares, List.getElem?_map, hreg, Option.map_some],
        by rw [profiles, List.getElem?_map, hl, Option.map_some], Registry.stocked_bare.2 hst⟩
  · intro h
    constructor
    · intro r reg hr
      obtain ⟨profile, hprofile, hst⟩ := h.all reg.bare (List.mem_map_of_mem (List.mem_of_getElem? hr))
      obtain ⟨l, hl, rfl⟩ := List.mem_map.1 hprofile
      exact ⟨l, hl, Registry.stocked_bare.1 hst⟩
    · intro j ty r hr
      obtain ⟨b, profile, hb, hprofile, hst⟩ := h.kept j ty r hr
      rw [bares, List.getElem?_map, Option.map_eq_some_iff] at hb
      rw [profiles, List.getElem?_map, Option.map_eq_some_iff] at hprofile
      obtain ⟨reg, hreg, rfl⟩ := hb
      obtain ⟨l, hl, rfl⟩ := hprofile
      exact ⟨reg, l, hreg, hl, Registry.stocked_bare.1 hst⟩

theorem stocked_empty (files : FileTree) : Stocked (empty files) :=
  stocked_iff_sourced.2 (sourced_empty files)

theorem invariant_stocked : Invariant Stocked := by
  rw [funext fun s => propext (stocked_iff_sourced (s := s))]
  exact invariant_sourced fun _ _ _ _ h => Registry.stocked_of_build h

end Store

end ProviderRegistry
