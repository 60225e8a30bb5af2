import ProviderRegistry.Proofs.RunMoments
import ProviderRegistry.Proofs.ServedResources

/-! Where registries come from. Every registry is one that a loader made of what its locator serves and
its catalog has, and a kept one was made by the loader that keeps it. What the making says of a registry
and its loader holds of them in every state, for neither the registry's index nor the loader's profile
ever changes. -/

namespace ProviderRegistry

/-- What a loader makes a registry of: its catalog, and what its locator serves. -/
abbrev Profile := Catalog × (FileTree → String → List Resource)

namespace Store

def bares (s : Store) : List Registry := s.registries.map Registry.bare

/-- Every registry is in a relation to the profile of a loader, a kept one to that of the loader that
keeps it. -/
structure Sourced (R : FileTree → Profile → Registry → Prop) (s : Store) : Prop where
  all : ∀ reg ∈ s.bares, ∃ profile ∈ s.profiles, R s.files profile reg
  kept : ∀ j ty r, s.built? j ty = some r →
    ∃ reg profile, s.bares[r]? = some reg ∧ s.profiles[j]? = some profile ∧ R s.files profile reg

variable {R : FileTree → Profile → Registry → Prop} {s t : Store}

def Making (R : FileTree → Profile → Registry → Prop) : Prop :=
  ∀ (files : FileTree) (l : Loader) (p : ExtensionPoint) (reg : Registry),
    (Registry.build files p l.locator l.catalog).result = .ok reg → R files l.profile reg

theorem sourced_empty (files : FileTree) : Sourced R (empty files) := by
  constructor <;> simp [empty, bares, built?]

/-- A change that only adds registries in the relation, and lets loaders keep no others. -/
theorem Sourced.grow {new : List Registry} (hs : Sourced R s) (hf : t.files = s.files)
    (hp : s.profiles <+: t.profiles) (hb : t.bares = s.bares ++ new)
    (hnew : ∀ reg ∈ new, ∃ profile ∈ t.profiles, R t.files profile reg)
    (hk : ∀ j ty r, t.built? j ty = some r → s.built? j ty = some r ∨
      ∃ reg profile, t.bares[r]? = some reg ∧ t.profiles[j]? = some profile ∧ R t.files profile reg) :
    Sourced R t := by
  constructor
  · intro reg hreg
    rw [hb, List.mem_append] at hreg
    rcases hreg with hreg | hreg
    · obtain ⟨profile, hprofile, hR⟩ := hs.all reg hreg
      exact ⟨profile, hp.subset hprofile, hf ▸ hR⟩
    · exact hnew reg hreg
  · intro j ty r hr
    rcases hk j ty r hr with hr | hr
    · obtain ⟨reg, profile, hreg, hprofile, hR⟩ := hs.kept j ty r hr
      have hpre : s.bares <+: t.bares := hb ▸ List.prefix_append _ _
      exact ⟨reg, profile, getElem?_of_prefix hpre hreg, getElem?_of_prefix hp hprofile, hf ▸ hR⟩
    · exact hr

theorem Sourced.of_same (hs : Sourced R s) (hf : t.files = s.files) (hp : s.profiles <+: t.profiles)
    (hb : t.bares = s.bares) (hk : ∀ j ty, t.built? j ty = s.built? j ty) : Sourced R t :=
  hs.grow hf hp (by rw [hb, List.append_nil]) (by simp) fun j ty _ hr => .inl (hk j ty ▸ hr)

theorem Sourced.addRegistry (hs : Sourced R s) {reg : Registry} {profile : Profile}
    (hp : profile ∈ s.profiles) (hR : R s.files profile reg.bare) : Sourced R (s.addRegistry reg).1 := by
  have hnew : ∀ reg' ∈ [reg.bare], ∃ profile ∈ s.profiles, R s.files profile reg' := by
    simpa using ⟨profile.1, profile.2, hp, hR⟩
  exact hs.grow rfl (List.prefix_refl _) List.map_append hnew fun _ _ _ => .inl

theorem Sourced.setLocator (hs : Sourced R s) {l : LoaderId} {locator : Locator}
    (hp : (s.setLocator l locator).profiles = s.profiles) : Sourced R (s.setLocator l locator) :=
  hs.of_same rfl (hp ▸ List.prefix_refl _) rfl (built?_setLocator s l locator)

theorem bare_of_build {files : FileTree} {p : ExtensionPoint} {locator : Locator} {catalog : Catalog}
    {reg : Registry} (h : (Registry.build files p locator catalog).result = .ok reg) : reg.bare = reg := by
  obtain ⟨-, hcells⟩ := RegistryCall.build_ok h
  rw [Registry.bare, ← hcells]

theorem mem_profiles {l : LoaderId} {x : Loader} (h : s.loaders[l]? = some x) : x.profile ∈ s.profiles :=
  List.mem_map_of_mem (List.mem_of_getElem? h)

theorem Sourced.detached (hR : Making R) (hs : Sourced R s) (l : LoaderId) (p : ExtensionPoint) :
    Sourced R (s.detachedRegistry l p).store := by
  have hp := profiles_detached s l p
  unfold detachedRegistry at hp ⊢
  split at hp
  · exact hs
  · rename_i loader hl
    dsimp only at hp ⊢
    split at hp
    · exact hs.setLocator hp
    · rename_i reg hb
      have hmem : loader.profile ∈ s.profiles := mem_profiles hl
      refine (hs.setLocator hp).addRegistry (hp ▸ hmem) ?_
      rw [bare_of_build hb]
      exact hR s.files loader p reg hb

theorem Sourced.reply (hR : Making R) {c : RegistryCall} (hs : Sourced R c.store) :
    Sourced R c.reply.store := by
  have hp := c.profiles_reply
  have hc := c.course
  generalize c.reply = a at hc hp
  cases hc with
  | invalid | absent | cached => exact hs
  | failed => exact hs.of_same rfl (hp ▸ List.prefix_refl _) rfl (c.built?_asked _)
  | @built l reg _ hl _ hb =>
    have hreg : R c.store.files l.profile reg := hR _ _ _ _ hb
    have hbares : (c.keeping (c.build l).next reg).bares = c.store.bares ++ [reg] := by
      rw [bares, RegistryCall.registries_keeping, List.map_append, List.map_singleton, bare_of_build hb]
      rfl
    have hnew : ∀ reg' ∈ [reg], ∃ profile ∈ (c.keeping (c.build l).next reg).profiles,
        R c.store.files profile reg' := by
      intro reg' hreg'
      obtain rfl := List.mem_singleton.1 hreg'
      exact ⟨l.profile, hp ▸ mem_profiles hl, hreg⟩
    refine hs.grow rfl (hp ▸ List.prefix_refl _) hbares hnew ?_
    intro j ty r hr
    rw [RegistryCall.built?_keeping hl] at hr
    split at hr
    · rename_i hj
      cases hr
      refine .inr ⟨reg, l.profile, ?_, ?_, hreg⟩
      · have hlen : c.store.bares.length = c.store.registries.length := List.length_map _
        rw [hbares, ← hlen, List.getElem?_concat_length]
      · rw [hp, profiles, ← hj.1, List.getElem?_map, hl]
        rfl
    · exact .inl hr

theorem invariant_sourced (hR : Making R) : Invariant (Sourced R) where
  addLoader s locator catalog h :=
    h.of_same rfl ((List.prefix_append _ _).map _) rfl (built?_addLoader s locator catalog)
  detached _ l p h := h.detached hR l p
  request _ h := h.reply hR
  start _ _ k _ h := h.of_same rfl (List.prefix_refl _)
    (map_modify_of_same (Registry.bare_touch · k) _ _) fun _ _ => rfl
  finish s _ k _ h := h.of_same rfl (List.prefix_refl _)
    (map_modify_of_same (Registry.bare_fill · k s.instances.length) _ _) fun _ _ => rfl

end Store

end ProviderRegistry
