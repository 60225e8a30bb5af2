import ProviderRegistry.Proofs.LookupOutcome
import ProviderRegistry.Proofs.ServedResources
import ProviderRegistry.Proofs.StockedRegistries

/-! How deep lookups nest. All factories look up what they need on the home loader, so of the keys whose
factories are running all but the outermost are keys of registries that the home loader keeps. They are
distinct, and each of them has a class in the catalog of that loader, so they are no more than the catalog
has classes. That is why the bound on the nesting is never met: whatever the factories need, no lookup of
a run is cut short by it. -/

namespace ProviderRegistry

open Store

def Factory.need? : Factory → Option (ExtensionPoint × Option String)
  | needs q key => some (q, key)
  | _ => none

theorem Factory.need?_eq_some {f : Factory} {q : ExtensionPoint} {key : Option String} :
    f.need? = some (q, key) ↔ f = .needs q key := by
  constructor
  · intro h
    unfold need? at h
    split at h
    · cases h
      rfl
    · cases h
  · rintro rfl
    rfl

theorem RegistryCall.kept_of_ok {c : RegistryCall} (h : Coherent c.store) {r : RegistryId}
    (hr : c.reply.result = .ok r) : c.reply.store.built? c.loader c.point.typeId = some r := by
  rw [built?_reply h, if_pos ⟨rfl, rfl⟩, hr]
  rfl

namespace Store

variable {s t : Store}

theorem depthBound_of_catalogs (h : t.loaders.map (·.catalog) = s.loaders.map (·.catalog)) :
    t.depthBound = s.depthBound := by
  have hbound : ∀ u : Store, u.depthBound =
      ((u.loaders.map (·.catalog))[home]?.map Catalog.size).getD 0 + 2 := by
    intro u
    rw [List.getElem?_map, Option.map_map]
    rfl
  rw [hbound, hbound, h]

def pair (s : Store) (x : RegistryId × String) : Nat × String :=
  ((s.registries[x.1]?.map (·.point.typeId)).getD 0, x.2)

theorem pair_of_built (h : Coherent s) {j : LoaderId} {ty : Nat} {r : RegistryId}
    (hr : s.built? j ty = some r) (k : String) : s.pair (r, k) = (ty, k) := by
  obtain ⟨reg, hreg, hty⟩ := h.typed j ty r hr
  simp [pair, hreg, hty]

theorem pair_of_grows (hg : Grows s t) {r : RegistryId} {reg : Registry} (hr : s.registries[r]? = some reg)
    (k : String) : t.pair (r, k) = s.pair (r, k) := by
  obtain ⟨reg', hr', hbare⟩ := hg.bare hr
  simp [pair, hr, hr', Registry.point_of_bare hbare]

/-- Keys of registries that one loader keeps are told apart by the types of these, so there are no more of
them than pairs. -/
theorem length_le_of_pairs (h : Coherent s) {j : LoaderId} {xs : List (RegistryId × String)} (hn : xs.Nodup)
    (hk : ∀ x ∈ xs, ∃ ty, s.built? j ty = some x.1) {ps : List (Nat × String)}
    (hp : ∀ x ∈ xs, s.pair x ∈ ps) : xs.length ≤ ps.length := by
  have hnodup : (xs.map s.pair).Nodup := by
    refine List.Nodup.map_on ?_ hn
    intro x hx y hy he
    obtain ⟨ty, hty⟩ := hk x hx
    obtain ⟨ty', hty'⟩ := hk y hy
    rw [pair_of_built h hty x.2, pair_of_built h hty' y.2, Prod.mk.injEq] at he
    obtain ⟨rfl, hkey⟩ := he
    rw [hty, Option.some.injEq] at hty'
    exact Prod.ext hty' hkey
  have hsub : xs.map s.pair ⊆ ps := by
    intro y hy
    obtain ⟨x, hx, rfl⟩ := List.mem_map.1 hy
    exact hp x hx
  have hle := (List.subperm_of_subset hnodup hsub).length_le
  rwa [List.length_map] at hle

end Store

/-- What holds of every lookup of a run: the keys whose factories are running are distinct and indexed,
and inside a factory the lookup is made on a registry that the home loader keeps. -/
structure LookupCall.Placed (c : LookupCall) : Prop where
  coherent : Coherent c.store
  stocked : c.store.Stocked
  depth : c.depth + c.pending.length = c.store.depthBound
  distinct : c.pending.Nodup
  indexed : ∀ x ∈ c.pending, ∃ p, c.store.class? x.1 x.2 = some p
  below : ∀ x ∈ c.pending.dropLast, ∃ ty, c.store.built? home ty = some x.1
  home : c.pending ≠ [] → ∃ ty, c.store.built? home ty = some c.registry

namespace LookupCall

variable {c d : LookupCall}

theorem placed_lookup {s : Store} (h : Coherent s) (hs : s.Stocked) (r : RegistryId) (key : Option String) :
    (s.lookup r key).Placed :=
  ⟨h, hs, rfl, List.nodup_nil, by simp [Store.lookup], by simp [Store.lookup], fun hn => absurd rfl hn⟩

/-- The lookup inside a factory: the need it comes of, the request for the registry that it is made on,
and its place in the nesting. -/
structure Within (c d : LookupCall) (point k : String) (p : ProviderClass) (q : ExtensionPoint) : Prop where
  due : c.settled = .due point k p
  needs : p.factory = .needs q d.key
  needed : c.needed? = some (⟨c.started, Store.home, q⟩, d.key)
  given : (RegistryCall.mk c.started Store.home q).reply.result = .ok d.registry
  store : d.store = (RegistryCall.mk c.started Store.home q).reply.store
  pending : d.pending = (c.registry, k) :: c.pending
  depth : c.depth = d.depth + 1

theorem within_inner (hi : c.inner? = some d) : ∃ point k p q, Within c d point k p q := by
  have hdepth := depth_inner hi
  obtain ⟨point, k, p, n, hs, hn, hstore, hpending⟩ := inner_spec hi
  obtain ⟨_, _, _, hs', hf, hcall⟩ := needed_spec hn
  cases hs.symm.trans hs'
  simp only [inner?, hs, hn] at hi
  split at hi
  · rename_i r hr
    cases hi
    exact ⟨point, k, p, n.1.point, hs, hf, by rw [hn, ← hcall], by rw [← hcall, hr], by rw [← hcall],
      hpending, hdepth⟩
  · cases hi

namespace Within

variable {point k : String} {p : ProviderClass} {q : ExtensionPoint}

theorem coherent_grows (hw : Within c d point k p q) (h : Coherent c.store) :
    Coherent d.store ∧ Grows c.started d.store := by
  obtain ⟨hc, hg, -⟩ := needed_steady h hw.needed
  rw [hw.store]
  exact ⟨hc, hg⟩

theorem kept (hw : Within c d point k p q) (h : Coherent c.store) :
    d.store.built? Store.home q.typeId = some d.registry := by
  have hkept := RegistryCall.kept_of_ok (coherent_started h) hw.given
  rwa [← hw.store] at hkept

theorem profiles (hw : Within c d point k p q) : d.store.profiles = c.store.profiles := by
  rw [hw.store, RegistryCall.profiles_reply]
  exact profiles_of_loaders c.loaders_started

theorem placed (hw : Within c d point k p q) (h : c.Placed) : d.Placed := by
  obtain ⟨hc, hgs⟩ := hw.coherent_grows h.coherent
  have hg : Grows c.store d.store := (grows_started c).trans hgs
  obtain ⟨-, -, hp, hnot⟩ := settled_due hw.due
  refine ⟨hc, ?_, ?_, ?_, ?_, ?_, fun _ => ⟨_, hw.kept h.coherent⟩⟩
  · rw [hw.store]
    exact invariant_stocked.request _ (invariant_stocked.started h.stocked)
  · have hdepth := h.depth
    rw [depthBound_of_catalogs (catalogs_of_profiles hw.profiles), hw.pending, List.length_cons, ← hdepth,
      hw.depth]
    omega
  · rw [hw.pending]
    exact List.nodup_cons.2 ⟨hnot, h.distinct⟩
  · rw [hw.pending]
    intro x hx
    rcases List.mem_cons.1 hx with rfl | hx
    · exact ⟨p, hg.class? hp⟩
    · obtain ⟨p', hp'⟩ := h.indexed x hx
      exact ⟨p', hg.class? hp'⟩
  · rw [hw.pending]
    intro x hx
    by_cases hn : c.pending = []
    · rw [hn] at hx
      cases hx
    · rw [List.dropLast_cons_of_ne_nil hn] at hx
      rcases List.mem_cons.1 hx with rfl | hx
      · obtain ⟨ty, hty⟩ := h.home hn
        exact ⟨ty, hg.kept _ _ _ hty⟩
      · obtain ⟨ty, hty⟩ := h.below x hx
        exact ⟨ty, hg.kept _ _ _ hty⟩

end Within

theorem Placed.inner (h : c.Placed) (hi : c.inner? = some d) : d.Placed := by
  obtain ⟨point, k, p, q, hw⟩ := within_inner hi
  exact hw.placed h

/-- The running factories but the outermost are of distinct classes of the home loader's catalog. -/
theorem Placed.pending_le (h : c.Placed) (hn : 1 < c.pending.length) :
    ∃ l, c.store.loaders[Store.home]? = some l ∧ c.pending.length ≤ l.catalog.size + 1 := by
  have hne : c.pending.dropLast ≠ [] := by
    rw [← List.length_pos_iff, List.length_dropLast]
    omega
  obtain ⟨x, hx⟩ := List.exists_mem_of_ne_nil _ hne
  obtain ⟨ty, hty⟩ := h.below x hx
  obtain ⟨-, l, -, hl, -⟩ := h.stocked.kept _ _ _ hty
  -- each of them stands for a class in the catalog
  have hpairs : ∀ x ∈ c.pending.dropLast,
      c.store.pair x ∈ l.catalog.classes.map fun p => (p.point.typeId, p.key) := by
    intro x hx
    obtain ⟨ty, hty⟩ := h.below x hx
    obtain ⟨p, hp⟩ := h.indexed x (List.mem_of_mem_dropLast hx)
    obtain ⟨reg, l', hreg, hl', hst⟩ := h.stocked.kept _ _ _ hty
    rw [hl, Option.some.injEq] at hl'
    rw [Store.class?, hreg] at hp
    obtain ⟨hmem, hkey, htype⟩ := hst _ _ hp
    refine List.mem_map.2 ⟨p, hl' ▸ hmem, ?_⟩
    simp [Store.pair, hreg, hkey, htype]
  have hle := length_le_of_pairs h.coherent (h.distinct.sublist (List.dropLast_sublist _)) h.below hpairs
  simp only [List.length_map, List.length_dropLast, Catalog.classes] at hle
  refine ⟨l, hl, ?_⟩
  rw [Catalog.size]
  omega

/-- No lookup meets the bound on the nesting. -/
theorem Placed.depth_pos (h : c.Placed) : 0 < c.depth := by
  have hdepth := h.depth
  by_cases hn : 1 < c.pending.length
  · obtain ⟨l, hl, hle⟩ := h.pending_le hn
    rw [depthBound, hl] at hdepth
    simp only [Option.map_some, Option.getD_some] at hdepth
    omega
  · rw [depthBound] at hdepth
    omega

end LookupCall

namespace Store

variable {s : Store}

theorem placed_lookups (h : Coherent s) (hs : s.Stocked) (qs : List Request) :
    ∀ c ∈ s.lookups qs, c.Placed := by
  refine lookups_forall (P := fun s => Coherent s ∧ s.Stocked) ?_ ?_ ?_ ⟨h, hs⟩ qs
  · exact fun s q hs => ⟨hs.1.step q, invariant_stocked.step hs.2 q⟩
  · exact fun s r key hs => LookupCall.placed_lookup hs.1 hs.2 r key
  · exact fun c d hi hc => hc.inner hi

end Store

end ProviderRegistry
