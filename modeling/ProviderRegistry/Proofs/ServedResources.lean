import ProviderRegistry.Proofs.SingleRegistry
import ProviderRegistry.Proofs.ScanOrder

/-! What a loader is, apart from what it holds: its catalog, and what its locator serves whenever it does
not fail. A locator may fail now and not another time, but when it does not it serves the same resources,
and so a loader builds the same registry whenever it builds one. No request changes this. -/

namespace ProviderRegistry

namespace Locator

mutual

/-- The resources that a locator serves whenever it does not fail. -/
def serves (files : FileTree) (name : String) : Locator → List Resource
  | memory rs => ofMemory name rs
  | embedded ms => ofEmbedded name ms
  | directories roots => inSearchPaths files name roots
  | chain links => servesLinks files name links
  | listed rs => (rs.filter fun r => r.1 = name).map fun r => .ofFile r.2
  | unreliable _ _ inner => serves files name inner

def servesLinks (files : FileTree) (name : String) : List Locator → List Resource
  | [] => []
  | l :: rest => serves files name l ++ servesLinks files name rest

end

mutual

theorem eq_serves {files : FileTree} {name : String} : ∀ {l : Locator} {rs : List Resource},
    (l.locate files name).result = .ok rs → rs = l.serves files name
  | memory _, _, h => by cases h; rfl
  | embedded _, _, h => by cases h; rfl
  | directories _, _, h => by cases h; rfl
  | listed _, _, h => by cases h; rfl
  | chain links, rs, h => by
    have hlinks : (locateLinks files name links).result = .ok rs := h
    exact eq_servesLinks hlinks
  | unreliable asked failure inner, rs, h => by
    rw [locate] at h
    cases hf : failure asked with
    | some f =>
      rw [hf] at h
      cases h
    | none =>
      rw [hf] at h
      exact eq_serves (l := inner) h

theorem eq_servesLinks {files : FileTree} {name : String} : ∀ {ls : List Locator} {rs : List Resource},
    (locateLinks files name ls).result = .ok rs → rs = servesLinks files name ls
  | [], _, h => by cases h; rfl
  | l :: rest, rs, h => by
    rw [locateLinks] at h
    cases hl : (l.locate files name).result with
    | error f =>
      simp only [hl] at h
      cases h
    | ok ps =>
      simp only [hl] at h
      cases hr : (locateLinks files name rest).result with
      | error f =>
        rw [hr] at h
        cases h
      | ok qs =>
        rw [hr] at h
        cases h
        rw [servesLinks, ← eq_serves hl, ← eq_servesLinks hr]

end

mutual

theorem serves_next (files files' : FileTree) (name name' : String) : ∀ l : Locator,
    (l.locate files name).next.serves files' name' = l.serves files' name'
  | memory _ => rfl
  | embedded _ => rfl
  | directories _ => rfl
  | listed _ => rfl
  | chain links => servesLinks_next files files' name name' links
  | unreliable asked failure inner => by
    rw [locate]
    cases failure asked with
    | some f => rfl
    | none => exact serves_next files files' name name' inner

theorem servesLinks_next (files files' : FileTree) (name name' : String) : ∀ ls : List Locator,
    servesLinks files' name' (locateLinks files name ls).next = servesLinks files' name' ls
  | [] => rfl
  | l :: rest => by
    rw [locateLinks]
    cases (l.locate files name).result with
    | error f => rw [servesLinks, servesLinks, serves_next files files' name name' l]
    | ok rs =>
      rw [servesLinks, servesLinks, serves_next files files' name name' l,
        servesLinks_next files files' name name' rest]

end

end Locator

/-- The registry that a loader builds for an extension point whenever its locator does not fail. -/
def Loader.registryOf? (l : Loader) (files : FileTree) (q : ExtensionPoint) : Option Registry :=
  let findings := (acceptanceFor q l.catalog).readResources files
    (l.locator.serves files (QualifiedName.resourceName q.name))
  match findings.fault with
  | some _ => none
  | none => some ⟨q, KeyIndex.build findings.found, []⟩

theorem Registry.found_of_build {files : FileTree} {q : ExtensionPoint} {locator : Locator} {k : Catalog}
    {reg : Registry} (h : (build files q locator k).result = .ok reg) :
    ∃ rs ds, (locator.locate files (QualifiedName.resourceName q.name)).result = .ok rs ∧
      (acceptanceFor q k).readResources files rs = ⟨ds, none⟩ ∧ reg = ⟨q, KeyIndex.build ds, []⟩ := by
  rw [build_result] at h
  cases hscan : (scan files q.name locator (acceptanceFor q k)).result with
  | error f => rw [hscan] at h; cases h
  | ok ds =>
    rw [hscan] at h
    cases h
    obtain ⟨rs, hl, hfound⟩ := readResources_of_scan hscan
    exact ⟨rs, ds, hl, hfound, rfl⟩

theorem Loader.registryOf?_of_build {l : Loader} {files : FileTree} {q : ExtensionPoint} {reg : Registry}
    (h : (Registry.build files q l.locator l.catalog).result = .ok reg) : l.registryOf? files q = some reg := by
  obtain ⟨rs, ds, hl, hfound, rfl⟩ := Registry.found_of_build h
  obtain rfl := Locator.eq_serves hl
  simp only [registryOf?, hfound]

/-- What no request changes of a loader. -/
def Loader.profile (l : Loader) : Catalog × (FileTree → String → List Resource) :=
  (l.catalog, fun files name => l.locator.serves files name)

theorem Loader.registryOf?_of_profile {l l' : Loader} (h : l.profile = l'.profile) (files : FileTree)
    (q : ExtensionPoint) : l.registryOf? files q = l'.registryOf? files q := by
  obtain ⟨hcat, hserves⟩ := Prod.mk.inj h
  have hs := congrFun (congrFun hserves files) (QualifiedName.resourceName q.name)
  simp only [registryOf?, hcat, hs]

namespace Store

def profiles (s : Store) : List (Catalog × (FileTree → String → List Resource)) := s.loaders.map Loader.profile

variable {s t : Store}

theorem profiles_modifyLoader {l : LoaderId} {f : Loader → Loader}
    (h : ∀ x, s.loaders[l]? = some x → (f x).profile = x.profile) :
    (s.modifyLoader l f).profiles = s.profiles := by
  refine List.ext_getElem? fun j => ?_
  rw [profiles, List.getElem?_map, loaders_modifyLoader, profiles, List.getElem?_map]
  split
  · rename_i hlj
    subst hlj
    cases hl : s.loaders[l]? with
    | none => rfl
    | some x => simp [h x hl]
  · rfl

theorem profiles_of_loaders (h : t.loaders = s.loaders) : t.profiles = s.profiles := by
  rw [profiles, h, profiles]

theorem catalogs_of_profiles (h : t.profiles = s.profiles) :
    t.loaders.map (·.catalog) = s.loaders.map (·.catalog) := by
  have hfst := congrArg (List.map Prod.fst) h
  simpa [profiles, Loader.profile, Function.comp_def] using hfst

theorem loader_of_profiles (h : t.profiles = s.profiles) {j : LoaderId} {l : Loader}
    (hl : t.loaders[j]? = some l) : ∃ l', s.loaders[j]? = some l' ∧ l'.profile = l.profile := by
  have hj : s.profiles[j]? = some l.profile := by
    rw [← h, profiles, List.getElem?_map, hl]
    rfl
  rwa [profiles, List.getElem?_map, Option.map_eq_some_iff] at hj

end Store

namespace RegistryCall

open Store

theorem serves_next_build (c : RegistryCall) (l : Loader) :
    (fun files name => (c.build l).next.serves files name) = fun files name => l.locator.serves files name := by
  funext files name
  rw [next_build, Locator.serves_next]

theorem profile_next (c : RegistryCall) (l : Loader) :
    Loader.profile { l.touch c.point.typeId with locator := (c.build l).next } = l.profile := by
  simp only [Loader.profile, Loader.catalog_touch, serves_next_build]

theorem profiles_asked (c : RegistryCall) {l : Loader} (hl : c.store.loaders[c.loader]? = some l) :
    (c.asked (c.build l).next).profiles = c.store.profiles := by
  refine List.ext_getElem? fun j => ?_
  rw [profiles, List.getElem?_map, loaders_asked, profiles, List.getElem?_map]
  split
  · rename_i hj
    subst hj
    rw [hl, Option.map_some, Option.map_some, Option.map_some, profile_next]
  · rfl

theorem profiles_reply (c : RegistryCall) : c.reply.store.profiles = c.store.profiles := by
  have hc := c.course
  generalize c.reply = a at hc
  cases hc with
  | invalid | absent | cached => rfl
  | failed _ hl => exact c.profiles_asked hl
  | @built l reg _ hl =>
    have hfill := profiles_modifyLoader (s := ((c.asked (c.build l).next).addRegistry reg).1) (l := c.loader)
      (f := (·.fill c.point.typeId c.store.registries.length)) fun _ _ => rfl
    exact hfill.trans (c.profiles_asked hl)

end RegistryCall

namespace Store

theorem profiles_detached (s : Store) (l : LoaderId) (p : ExtensionPoint) :
    (s.detachedRegistry l p).store.profiles = s.profiles := by
  unfold detachedRegistry
  split
  · rfl
  · rename_i loader hl
    have hnext : (s.setLocator l (Registry.build s.files p loader.locator loader.catalog).next).profiles =
        s.profiles := by
      refine profiles_modifyLoader fun x hx => ?_
      rw [hl] at hx
      cases hx
      exact congrArg (Prod.mk loader.catalog) (RegistryCall.serves_next_build ⟨s, l, p⟩ loader)
    dsimp only
    split
    · exact hnext
    · exact hnext

end Store

end ProviderRegistry
