import ProviderRegistry.Proofs.Growth

/-! What holds of every store a program can come to: a held instance was made by the class that
its registry has under the key, no two holders share an instance, a kept registry is one of the
type it is kept under, and no two loaders share a registry. Each primitive change of a store is
shown to grow it and to keep this. -/

namespace ProviderRegistry.Store

structure Coherent (s : Store) : Prop where
  made : ∀ r k i, s.instance? r k = some i → ∃ c, s.class? r k = some c ∧ s.instances[i]? = some c
  apart : ∀ r k r' k' i, s.instance? r k = some i → s.instance? r' k' = some i → r = r' ∧ k = k'
  typed : ∀ l ty r, s.built? l ty = some r → ∃ reg, s.registries[r]? = some reg ∧ reg.point.typeId = ty
  owned : ∀ l ty l' ty' r, s.built? l ty = some r → s.built? l' ty' = some r → l = l'

variable {s t : Store}

theorem coherent_empty (files : FileTree) : Coherent (empty files) := by
  constructor <;> simp [empty, instance?, built?]

theorem Coherent.of_quiet (hs : Coherent s) (hg : Grows s t)
    (hi : ∀ r k, t.instance? r k = s.instance? r k)
    (hr : ∀ l ty, t.built? l ty = s.built? l ty) : Coherent t := by
  refine ⟨?_, ?_, ?_, ?_⟩
  · intro r k i h
    obtain ⟨c, hc, hm⟩ := hs.made r k i (hi r k ▸ h)
    exact ⟨c, hg.class? hc, getElem?_of_prefix hg.instances hm⟩
  · intro r k r' k' i h h'
    exact hs.apart r k r' k' i (hi r k ▸ h) (hi r' k' ▸ h')
  · intro l ty r h
    obtain ⟨reg, hreg, hty⟩ := hs.typed l ty r (hr l ty ▸ h)
    obtain ⟨reg', hreg', hb⟩ := hg.bare hreg
    exact ⟨reg', hreg', by rw [Registry.point_of_bare hb, hty]⟩
  · intro l ty l' ty' r h h'
    exact hs.owned l ty l' ty' r (hr l ty ▸ h) (hr l' ty' ▸ h')

theorem loaders_modifyLoader (s : Store) (l j : LoaderId) (f : Loader → Loader) :
    (s.modifyLoader l f).loaders[j]? = if l = j then s.loaders[j]?.map f else s.loaders[j]? := by
  rw [modifyLoader, List.getElem?_modify]
  split <;> simp [*]

theorem built?_modifyLoader (s : Store) (l j : LoaderId) (f : Loader → Loader) (ty : Nat) :
    (s.modifyLoader l f).built? j ty =
      if l = j then s.loaders[j]?.bind fun x => (f x).built? ty else s.built? j ty := by
  rw [built?, loaders_modifyLoader]
  split
  · rw [Option.bind_map]; rfl
  · rfl

theorem grows_modifyLoader {l : LoaderId} {f : Loader → Loader}
    (hc : ∀ x, (f x).catalog = x.catalog)
    (hr : ∀ ty r, s.built? l ty = some r → (s.modifyLoader l f).built? l ty = some r) :
    Grows s (s.modifyLoader l f) := by
  refine ⟨rfl, ?_, List.prefix_refl _, List.prefix_refl _, fun _ _ _ h => h, ?_,
    [], by simp [modifyLoader], by simp⟩
  · rw [modifyLoader, map_modify_of_same hc]
  · intro j ty r h
    by_cases hl : l = j
    · subst hl; exact hr ty r h
    · rw [built?_modifyLoader, if_neg hl]; exact h

theorem built?_of_same {l : LoaderId} {f : Loader → Loader}
    (hf : ∀ x ty, (f x).built? ty = x.built? ty) (j : LoaderId) (ty : Nat) :
    (s.modifyLoader l f).built? j ty = s.built? j ty := by
  rw [built?_modifyLoader]
  split
  · simp only [hf]; rfl
  · rfl

theorem grows_of_same {l : LoaderId} {f : Loader → Loader} (hc : ∀ x, (f x).catalog = x.catalog)
    (hf : ∀ x ty, (f x).built? ty = x.built? ty) : Grows s (s.modifyLoader l f) :=
  grows_modifyLoader hc fun ty r h => by rw [built?_of_same hf]; exact h

theorem built?_setLocator (s : Store) (l : LoaderId) (locator : Locator) (j : LoaderId) (ty : Nat) :
    (s.setLocator l locator).built? j ty = s.built? j ty :=
  built?_of_same (fun _ _ => by rfl) j ty

theorem grows_setLocator (s : Store) (l : LoaderId) (locator : Locator) :
    Grows s (s.setLocator l locator) :=
  grows_of_same (fun _ => by rfl) fun _ _ => by rfl

theorem Coherent.setLocator (h : Coherent s) (l : LoaderId) (locator : Locator) :
    Coherent (s.setLocator l locator) :=
  h.of_quiet (grows_setLocator s l locator) (fun _ _ => rfl) (built?_setLocator s l locator)

theorem built?_addLoader (s : Store) (locator : Locator) (catalog : Catalog) (j : LoaderId)
    (ty : Nat) : (s.addLoader (.new locator catalog)).1.built? j ty = s.built? j ty := by
  rw [built?, addLoader, built?]
  rcases Nat.lt_trichotomy j s.loaders.length with h | h | h
  · rw [List.getElem?_append_left h]
  · subst h; simp [Loader.new, Loader.built?]
  · rw [List.getElem?_eq_none (by simp; omega), List.getElem?_eq_none (by omega)]

theorem grows_addLoader (s : Store) (locator : Locator) (catalog : Catalog) :
    Grows s (s.addLoader (.new locator catalog)).1 :=
  ⟨rfl, by simp [addLoader], List.prefix_refl _, List.prefix_refl _, fun _ _ _ h => h,
    fun l ty r h => by rw [built?_addLoader]; exact h, [], by simp [addLoader], by simp⟩

theorem Coherent.addLoader (h : Coherent s) (locator : Locator) (catalog : Catalog) :
    Coherent (s.addLoader (.new locator catalog)).1 :=
  h.of_quiet (grows_addLoader s locator catalog) (fun _ _ => rfl) (built?_addLoader s locator catalog)

theorem instance?_addRegistry (s : Store) {reg : Registry} (hn : reg.cells = []) (r : RegistryId)
    (k : String) : (s.addRegistry reg).1.instance? r k = s.instance? r k := by
  rw [instance?, addRegistry, instance?]
  rcases Nat.lt_trichotomy r s.registries.length with h | h | h
  · rw [List.getElem?_append_left h]
  · subst h; simp [Registry.instance?, hn, Keyed.get?]
  · rw [List.getElem?_eq_none (by simp; omega), List.getElem?_eq_none (by omega)]

theorem grows_addRegistry (s : Store) {reg : Registry} (hn : reg.cells = []) :
    Grows s (s.addRegistry reg).1 :=
  ⟨rfl, List.prefix_refl _, by simp [addRegistry], List.prefix_refl _,
    fun r k i h => by rw [instance?_addRegistry s hn]; exact h, fun _ _ _ h => h,
    [], by simp [addRegistry], by simp⟩

theorem Coherent.addRegistry (h : Coherent s) {reg : Registry} (hn : reg.cells = []) :
    Coherent (s.addRegistry reg).1 :=
  h.of_quiet (grows_addRegistry s hn) (instance?_addRegistry s hn) (fun _ _ => rfl)

theorem registries_start (s : Store) (r j : RegistryId) (key : String) (c : ProviderClass) :
    (s.start r key c).registries[j]? =
      if r = j then s.registries[j]?.map (·.touch key) else s.registries[j]? := by
  rw [start, List.getElem?_modify]
  split <;> simp [*]

@[simp] theorem instance?_start (s : Store) (r j : RegistryId) (key k : String) (c : ProviderClass) :
    (s.start r key c).instance? j k = s.instance? j k := by
  rw [instance?, registries_start]
  split
  · simp [instance?, Option.bind_map]
  · rfl

theorem grows_start {r : RegistryId} {key : String} (hn : s.instance? r key = none)
    (c : ProviderClass) : Grows s (s.start r key c) :=
  ⟨rfl, List.prefix_refl _, by rw [start, map_modify_of_same (Registry.bare_touch · key)],
    List.prefix_refl _, fun j k i h => by rw [instance?_start]; exact h, fun _ _ _ h => h,
    [⟨r, key, c⟩], rfl, by simpa using hn⟩

theorem Coherent.start (h : Coherent s) {r : RegistryId} {key : String}
    (hn : s.instance? r key = none) (c : ProviderClass) : Coherent (s.start r key c) :=
  h.of_quiet (grows_start hn c) (fun _ _ => instance?_start ..) (fun _ _ => rfl)

theorem instance?_finish {r : RegistryId} {key : String} {c : ProviderClass}
    (hc : s.class? r key = some c) (j : RegistryId) (k : String) :
    (s.finish r key c).store.instance? j k =
      if r = j ∧ key = k then some s.instances.length else s.instance? j k := by
  obtain ⟨reg, hreg, -⟩ := Option.bind_eq_some_iff.1 hc
  rw [instance?, finish, List.getElem?_modify]
  by_cases hj : r = j
  · subst hj
    by_cases hk : key = k <;> simp [hreg, Registry.instance?_fill, hk, instance?]
  · simp [hj, instance?]

theorem grows_finish {r : RegistryId} {key : String} {c : ProviderClass}
    (hc : s.class? r key = some c) (hn : s.instance? r key = none) :
    Grows s (s.finish r key c).store := by
  refine ⟨rfl, List.prefix_refl _, ?_, List.prefix_append _ _, ?_, fun _ _ _ h => h,
    [], by simp [finish], by simp⟩
  · rw [finish, map_modify_of_same (Registry.bare_fill · key s.instances.length)]
  · intro j k i h
    rw [instance?_finish hc, if_neg, h]
    rintro ⟨rfl, rfl⟩
    rw [hn] at h
    cases h

theorem Coherent.instance_lt (h : Coherent s) {r : RegistryId} {k : String} {i : InstanceId}
    (hi : s.instance? r k = some i) : i < s.instances.length := by
  obtain ⟨c, -, hm⟩ := h.made r k i hi
  exact (List.getElem?_eq_some_iff.1 hm).1

/-- The new instance is not held elsewhere, for every instance held so far has a lower number. -/
theorem Coherent.finish (h : Coherent s) {r : RegistryId} {key : String} {c : ProviderClass}
    (hc : s.class? r key = some c) (hn : s.instance? r key = none) :
    Coherent (s.finish r key c).store := by
  have hg := grows_finish hc hn
  refine ⟨?_, ?_, ?_, h.owned⟩
  · intro j k i hi
    rw [instance?_finish hc] at hi
    split at hi
    · rename_i hjk
      obtain ⟨rfl, rfl⟩ := hjk
      cases hi
      exact ⟨c, hg.class? hc, by simp [Store.finish]⟩
    · obtain ⟨d, hd, hm⟩ := h.made j k i hi
      exact ⟨d, hg.class? hd, getElem?_of_prefix hg.instances hm⟩
  · intro j k j' k' i hi hi'
    rw [instance?_finish hc] at hi hi'
    split at hi <;> split at hi'
    · rename_i hjk hjk'
      exact ⟨hjk.1.symm.trans hjk'.1, hjk.2.symm.trans hjk'.2⟩
    · cases hi; exact absurd (h.instance_lt hi') (lt_irrefl _)
    · cases hi'; exact absurd (h.instance_lt hi) (lt_irrefl _)
    · exact h.apart j k j' k' i hi hi'
  · intro l ty r' hr
    obtain ⟨reg, hreg, hty⟩ := h.typed l ty r' hr
    obtain ⟨reg', hreg', hb⟩ := hg.bare hreg
    exact ⟨reg', hreg', by rw [Registry.point_of_bare hb, hty]⟩

end ProviderRegistry.Store
