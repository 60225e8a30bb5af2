import ProviderRegistry.Proofs.Coherence

/-! Programs whose loaders answer alike. If two states differ in nothing but the order in which manifests
of other extension points are held, then no request tells them apart: it comes to the same and leaves
states that differ in no more, so a whole run tells the same. -/

namespace ProviderRegistry

namespace Locator

/-- Locators that answer alike, however often they are asked: at most the manifests of other names stand
elsewhere. -/
inductive Alike : Locator → Locator → Prop
  | same (l : Locator) : Alike l l
  | embedded {ms ms' : List EmbeddedManifest} (h : ∀ name, ofEmbedded name ms = ofEmbedded name ms') :
    Alike (.embedded ms) (.embedded ms')

theorem Alike.locate {l l' : Locator} (h : Alike l l') (files : FileTree) (name : String) :
    (l.locate files name).result = (l'.locate files name).result ∧
    (l.locate files name).events = (l'.locate files name).events ∧
    Alike (l.locate files name).next (l'.locate files name).next := by
  cases h with
  | same => exact ⟨rfl, rfl, .same _⟩
  | embedded h => exact ⟨congrArg Except.ok (h name), rfl, .embedded h⟩

theorem Alike.scan {l l' : Locator} (h : Alike l l') (files : FileTree) (point : String) (a : Acceptance) :
    (ProviderRegistry.scan files point l a).result = (ProviderRegistry.scan files point l' a).result ∧
    (ProviderRegistry.scan files point l a).events = (ProviderRegistry.scan files point l' a).events ∧
    Alike (ProviderRegistry.scan files point l a).next (ProviderRegistry.scan files point l' a).next := by
  obtain ⟨hr, he, hn⟩ := h.locate files (QualifiedName.resourceName point)
  unfold ProviderRegistry.scan
  dsimp only
  rw [← hr, ← he]
  split
  · exact ⟨rfl, rfl, hn⟩
  · split <;> exact ⟨rfl, rfl, hn⟩

theorem Alike.build {l l' : Locator} (h : Alike l l') (files : FileTree) (p : ExtensionPoint) (k : Catalog) :
    (Registry.build files p l k).result = (Registry.build files p l' k).result ∧
    (Registry.build files p l k).events = (Registry.build files p l' k).events ∧
    Alike (Registry.build files p l k).next (Registry.build files p l' k).next := by
  obtain ⟨hr, he, hn⟩ := h.scan files p.name (acceptanceFor p k)
  unfold Registry.build
  dsimp only
  rw [← hr, ← he]
  split <;> exact ⟨rfl, rfl, hn⟩

end Locator

structure Loader.Alike (l m : Loader) : Prop where
  locator : l.locator.Alike m.locator
  catalog : l.catalog = m.catalog
  holders : l.holders = m.holders

namespace Loader.Alike

variable {l m : Loader}

theorem built? (h : l.Alike m) (ty : Nat) : l.built? ty = m.built? ty := by
  rw [Loader.built?, Loader.built?, h.holders]

theorem put (h : l.Alike m) (ty : Nat) (x : Holder RegistryId) : (l.put ty x).Alike (m.put ty x) :=
  ⟨h.locator, h.catalog, by simp only [Loader.put, h.holders]⟩

theorem touch (h : l.Alike m) (ty : Nat) : (l.touch ty).Alike (m.touch ty) := by
  unfold Loader.touch
  rw [← h.holders]
  split
  · exact h
  · exact h.put ty .empty

end Loader.Alike

/-- States that differ at most in the loaders, and there only by locators that answer alike. -/
structure Store.Alike (s t : Store) : Prop where
  count : s.loaders.length = t.loaders.length
  loader : ∀ {i : LoaderId} {l : Loader}, s.loaders[i]? = some l → ∃ m, t.loaders[i]? = some m ∧ l.Alike m
  files : s.files = t.files
  registries : s.registries = t.registries
  instances : s.instances = t.instances
  runs : s.runs = t.runs

structure Reply.Alike {α : Type} (a b : Reply α) : Prop where
  store : a.store.Alike b.store
  events : a.events = b.events
  result : a.result = b.result

theorem Reply.Alike.map {α β : Type} {a b : Reply α} (h : a.Alike b) (f : α → β) :
    (a.map f).Alike (b.map f) :=
  ⟨h.store, h.events, congrArg f h.result⟩

namespace Store

variable {s t : Store}

theorem Alike.noLoader (h : Alike s t) {i : LoaderId} (hs : s.loaders[i]? = none) : t.loaders[i]? = none := by
  rw [List.getElem?_eq_none_iff] at hs ⊢
  exact h.count ▸ hs

theorem Alike.modifyLoader (h : Alike s t) (i : LoaderId) {f g : Loader → Loader}
    (hfg : ∀ l m : Loader, l.Alike m → (f l).Alike (g m)) :
    Alike (s.modifyLoader i f) (t.modifyLoader i g) := by
  refine ⟨by simp [Store.modifyLoader, h.count], ?_, h.files, h.registries, h.instances, h.runs⟩
  intro j l hl
  rw [loaders_modifyLoader] at hl ⊢
  by_cases hij : i = j
  · rw [if_pos hij] at hl ⊢
    obtain ⟨x, hx, rfl⟩ := Option.map_eq_some_iff.1 hl
    obtain ⟨m, hm, hxm⟩ := h.loader hx
    exact ⟨g m, by rw [hm]; rfl, hfg x m hxm⟩
  · rw [if_neg hij] at hl ⊢
    exact h.loader hl

theorem Alike.setLocator (h : Alike s t) (i : LoaderId) {l l' : Locator} (hl : l.Alike l') :
    Alike (s.setLocator i l) (t.setLocator i l') :=
  h.modifyLoader i fun _ _ hxy => ⟨hl, hxy.catalog, hxy.holders⟩

theorem Alike.addRegistry (h : Alike s t) (reg : Registry) :
    Alike (s.addRegistry reg).1 (t.addRegistry reg).1 :=
  ⟨h.count, h.loader, h.files, congrArg (· ++ [reg]) h.registries, h.instances, h.runs⟩

theorem Alike.addLoader (h : Alike s t) {l m : Loader} (hlm : l.Alike m) :
    Alike (s.addLoader l).1 (t.addLoader m).1 := by
  refine ⟨by simp [Store.addLoader, h.count], ?_, h.files, h.registries, h.instances, h.runs⟩
  intro i x hx
  rw [Store.addLoader, List.getElem?_append] at hx ⊢
  rw [← h.count]
  by_cases hi : i < s.loaders.length
  · rw [if_pos hi] at hx ⊢
    exact h.loader hx
  · rw [if_neg hi] at hx ⊢
    obtain ⟨rfl, hzero⟩ : x = l ∧ i - s.loaders.length = 0 := by
      rw [List.getElem?_singleton] at hx
      split at hx
      · exact ⟨(Option.some.inj hx).symm, ‹_›⟩
      · cases hx
    exact ⟨m, by rw [hzero]; rfl, hlm⟩

theorem Alike.refl (s : Store) : Alike s s :=
  ⟨rfl, fun hl => ⟨_, hl, .same _, rfl, rfl⟩, rfl, rfl, rfl, rfl⟩

theorem Alike.detachedRegistry (h : Alike s t) (i : LoaderId) (p : ExtensionPoint) :
    (s.detachedRegistry i p).Alike (t.detachedRegistry i p) := by
  unfold Store.detachedRegistry
  cases hl : s.loaders[i]? with
  | none => rw [h.noLoader hl]; exact ⟨h, rfl, rfl⟩
  | some l =>
    obtain ⟨m, hm, hlm⟩ := h.loader hl
    obtain ⟨hr, he, hn⟩ := hlm.locator.build s.files p l.catalog
    have hset := h.setLocator i hn
    rw [hm, ← h.files]
    dsimp only
    rw [← hlm.catalog, ← hr, ← he]
    split
    · exact ⟨hset, rfl, rfl⟩
    · exact ⟨hset.addRegistry _, rfl, congrArg (fun l => Except.ok l.length) h.registries⟩

theorem Alike.typed (h : Alike s t) (p : ExtensionPoint) (r : RegistryId) : s.typed p r = t.typed p r := by
  rw [Store.typed, Store.typed, h.registries]

theorem Alike.registry (h : Alike s t) (i : LoaderId) (p : ExtensionPoint) :
    (s.registry i p).Alike (t.registry i p) := by
  unfold Store.registry
  split
  · exact ⟨h, rfl, rfl⟩
  · cases hl : s.loaders[i]? with
    | none => rw [h.noLoader hl]; exact ⟨h, rfl, rfl⟩
    | some l =>
      obtain ⟨m, hm, hlm⟩ := h.loader hl
      have htouched := h.modifyLoader i fun _ _ hxy => hxy.touch p.typeId
      obtain ⟨hst, he, hres⟩ := htouched.detachedRegistry i p
      rw [hm]
      dsimp only
      rw [← hlm.built?, ← he, ← hres]
      split
      · exact ⟨h, rfl, h.typed p _⟩
      · split
        · exact ⟨hst, rfl, rfl⟩
        · rename_i r _
          have hfilled := hst.modifyLoader i fun _ _ hxy => hxy.put p.typeId ⟨some r⟩
          exact ⟨hfilled, rfl, hfilled.typed p _⟩

theorem Alike.start (h : Alike s t) (r : RegistryId) (k : String) (c : ProviderClass) :
    Alike (s.start r k c) (t.start r k c) :=
  ⟨h.count, h.loader, h.files, by rw [Store.start, Store.start, h.registries], h.instances,
    by rw [Store.start, Store.start, h.runs]⟩

theorem Alike.finish (h : Alike s t) (r : RegistryId) (k : String) (c : ProviderClass) :
    (s.finish r k c).Alike (t.finish r k c) := by
  unfold Store.finish
  rw [h.instances, h.registries]
  exact ⟨⟨h.count, h.loader, h.files, rfl, rfl, h.runs⟩, rfl, rfl⟩

theorem Alike.settle (h : Alike s t) (pending : Pending) (r : RegistryId) (key : Option String) :
    s.settle pending r key = t.settle pending r key := by
  unfold Store.settle
  rw [h.registries]

theorem Alike.runFactory {need : Need}
    (hneed : ∀ {s t : Store} p key, Alike s t → (need s p key).Alike (need t p key))
    (h : Alike s t) (r : RegistryId) (point k : String) (c : ProviderClass) :
    (Store.runFactory need s r point k c).Alike (Store.runFactory need t r point k c) := by
  have hstart := h.start r k c
  unfold Store.runFactory
  cases c.factory with
  | makes => exact hstart.finish r k c
  | makesOther => exact ⟨hstart, rfl, rfl⟩
  | fails message times =>
    have hfails : (s.start r k c).stillFails c times = (t.start r k c).stillFails c times := by
      unfold stillFails runsOf
      rw [hstart.runs]
    dsimp only
    rw [← hfails]
    split
    · exact ⟨hstart, rfl, rfl⟩
    · exact hstart.finish r k c
  | needs p key =>
    obtain ⟨hst, he, hres⟩ := hneed p key hstart
    dsimp only
    rw [← hres, ← he]
    split
    · exact ⟨hst, rfl, rfl⟩
    · obtain ⟨hst', he', hres'⟩ := hst.finish r k c
      exact ⟨hst', by rw [he'], hres'⟩

theorem Alike.lookupFuel (n : Nat) : ∀ {s t : Store} (pending : Pending) (r : RegistryId)
    (key : Option String), Alike s t →
      (Store.lookupFuel n pending s r key).Alike (Store.lookupFuel n pending t r key) := by
  induction n with
  | zero =>
    intro s t pending r key h
    have hname : s.pointName r = t.pointName r := by
      unfold pointName
      rw [h.registries]
    exact ⟨h, rfl, by simp only [Store.lookupFuel, hname]⟩
  | succ n ih =>
    have hneed : ∀ (pending : Pending) {s t : Store} (p : ExtensionPoint) (key : Option String), Alike s t →
        (needWith (Store.lookupFuel n) pending s p key).Alike
          (needWith (Store.lookupFuel n) pending t p key) := by
      intro pending s t p key h
      obtain ⟨hst, he, hres⟩ := h.registry home p
      unfold needWith
      dsimp only
      rw [← hres, ← he]
      split
      · exact ⟨hst, rfl, rfl⟩
      · obtain ⟨hst', he', hres'⟩ := ih pending _ key hst
        exact ⟨hst', by rw [he'], by rw [hres']⟩
    intro s t pending r key h
    rw [Store.lookupFuel, lookupWith, lookupWith, ← h.settle]
    split
    · exact ⟨h, rfl, rfl⟩
    · exact ⟨h, rfl, rfl⟩
    · obtain ⟨hst, he, hres⟩ := h.runFactory (hneed _) r _ _ _
      exact ⟨hst, congrArg (_ :: ·) he, hres⟩

theorem Alike.provider (h : Alike s t) (r : RegistryId) (key : Option String) :
    (s.provider r key).Alike (t.provider r key) := by
  have hdepth : s.depthBound = t.depthBound := by
    unfold depthBound
    cases hl : s.loaders[home]? with
    | none => rw [h.noLoader hl]
    | some l =>
      obtain ⟨m, hm, hlm⟩ := h.loader hl
      rw [hm, Option.map_some, Option.map_some, hlm.catalog]
  rw [Store.provider, Store.provider, ← hdepth]
  exact Alike.lookupFuel _ [] r key h

theorem Alike.providerByKeyClass (h : Alike s t) (r : RegistryId) (q : KeyClass) :
    (s.providerByKeyClass r q).Alike (t.providerByKeyClass r q) := by
  rw [Store.providerByKeyClass, Store.providerByKeyClass, keyForClass, keyForClass, h.registries]
  exact h.provider r _

theorem Alike.optionally (h : Alike s t) (r : RegistryId) {a b : Reply (Except LookupFault InstanceId)}
    (hab : a.Alike b) : (s.optionally r a).Alike (t.optionally r b) := by
  unfold Store.optionally pointName
  rw [← hab.result, ← hab.events, ← h.registries]
  split
  · exact ⟨hab.store, rfl, rfl⟩
  · exact ⟨hab.store, rfl, rfl⟩

theorem Alike.step (h : Alike s t) (q : Request) : (s.step q).Alike (t.step q) := by
  cases q with
  | addLoader locator catalog =>
    exact ⟨h.addLoader ⟨.same _, rfl, rfl⟩, rfl, congrArg Outcome.loader h.count⟩
  | registry i p => exact (h.registry i p).map _
  | detachedRegistry i p => exact (h.detachedRegistry i p).map _
  | provider r key => exact (h.provider r key).map _
  | providerOrDefault r => exact (h.provider r none).map _
  | providerByKeyClass r q => exact (h.providerByKeyClass r q).map _
  | optionalProvider r key => exact (h.optionally r (h.provider r key)).map _
  | optionalProviderByKeyClass r q => exact (h.optionally r (h.providerByKeyClass r q)).map _

/-- All that a run tells: what the requests come to and report, and the registries and instances after
each. -/
def told (s : Store) (qs : List Request) :
    List (Outcome × List Event × List Registry × List ProviderClass) :=
  (s.replies qs).map fun a => (a.result, a.events, a.store.registries, a.store.instances)

theorem Alike.told (h : Alike s t) (qs : List Request) : s.told qs = t.told qs := by
  induction qs generalizing s t with
  | nil => rfl
  | cons q qs ih =>
    have hq := h.step q
    have hrest := ih hq.store
    simp only [Store.told, replies, List.map_cons] at hrest ⊢
    rw [hrest, hq.result, hq.events, hq.store.registries, hq.store.instances]

end Store

end ProviderRegistry
