import ProviderRegistry.Proofs.Coherence

/-! A request for a registry, told apart by the way it goes: a type that is no extension point, a
loader that is not there, a filled holder, a build that fails, a build that succeeds. Every fact
about such a request is read off these five ways. -/

namespace ProviderRegistry

structure RegistryCall where
  store : Store
  loader : LoaderId
  point : ExtensionPoint

namespace RegistryCall

def reply (c : RegistryCall) : Reply (Except BuildFault RegistryId) :=
  c.store.registry c.loader c.point

def build (c : RegistryCall) (l : Loader) : Build :=
  Registry.build c.store.files c.point l.locator l.catalog

def asked (c : RegistryCall) (next : Locator) : Store :=
  (c.store.modifyLoader c.loader (·.touch c.point.typeId)).setLocator c.loader next

def keeping (c : RegistryCall) (next : Locator) (reg : Registry) : Store :=
  ((c.asked next).addRegistry reg).1.modifyLoader c.loader
    (·.fill c.point.typeId c.store.registries.length)

inductive Course (c : RegistryCall) : Reply (Except BuildFault RegistryId) → Prop
  | invalid {reason : ExtensionPoint.Invalid} (h : c.point.invalid? = some reason) :
      c.Course ⟨c.store, [], .error (.invalid c.point reason)⟩
  | absent (hv : c.point.invalid? = none) (hl : c.store.loaders[c.loader]? = none) :
      c.Course ⟨c.store, [], .error .noLoader⟩
  | cached {r : RegistryId} (hv : c.point.invalid? = none)
      (hr : c.store.built? c.loader c.point.typeId = some r) :
      c.Course ⟨c.store, [], c.store.typed c.point r⟩
  | failed {l : Loader} {f : ScanFault} (hv : c.point.invalid? = none)
      (hl : c.store.loaders[c.loader]? = some l) (hn : l.built? c.point.typeId = none)
      (hb : (c.build l).result = .error f) :
      c.Course ⟨c.asked (c.build l).next,
        .building c.point.name :: (c.build l).events ++
          [.buildFailed c.point.name (BuildFault.scan c.point.name f).fault],
        .error (.scan c.point.name f)⟩
  | built {l : Loader} {reg : Registry} (hv : c.point.invalid? = none)
      (hl : c.store.loaders[c.loader]? = some l) (hn : l.built? c.point.typeId = none)
      (hb : (c.build l).result = .ok reg) :
      c.Course ⟨c.keeping (c.build l).next reg,
        .building c.point.name :: (c.build l).events, .ok c.store.registries.length⟩

theorem build_ok {files : FileTree} {p : ExtensionPoint} {locator : Locator} {catalog : Catalog}
    {reg : Registry} (h : (Registry.build files p locator catalog).result = .ok reg) :
    reg.point = p ∧ reg.cells = [] := by
  unfold Registry.build at h
  dsimp only at h
  split at h
  · cases h
  · cases h; exact ⟨rfl, rfl⟩

theorem registries_keeping (c : RegistryCall) (next : Locator) (reg : Registry) :
    (c.keeping next reg).registries = c.store.registries ++ [reg] := rfl

theorem typed_keeping (c : RegistryCall) {l : Loader} {reg : Registry}
    (hb : (c.build l).result = .ok reg) :
    (c.keeping (c.build l).next reg).typed c.point c.store.registries.length =
      .ok c.store.registries.length := by
  simp [Store.typed, registries_keeping, (build_ok hb).1, ExtensionPoint.sameAs]

theorem reply_of_unbuilt (c : RegistryCall) {l : Loader} (hv : c.point.invalid? = none)
    (hl : c.store.loaders[c.loader]? = some l) (hn : l.built? c.point.typeId = none) :
    c.reply = match (c.build l).result with
      | .error f => ⟨c.asked (c.build l).next, .building c.point.name :: (c.build l).events ++
          [.buildFailed c.point.name (BuildFault.scan c.point.name f).fault],
          .error (.scan c.point.name f)⟩
      | .ok reg => ⟨c.keeping (c.build l).next reg, .building c.point.name :: (c.build l).events,
          .ok c.store.registries.length⟩ := by
  have ht : (c.store.modifyLoader c.loader (·.touch c.point.typeId)).loaders[c.loader]? =
      some (l.touch c.point.typeId) := by
    rw [Store.loaders_modifyLoader, if_pos rfl, hl]; rfl
  have hb : Registry.build (c.store.modifyLoader c.loader (·.touch c.point.typeId)).files c.point
      (l.touch c.point.typeId).locator (l.touch c.point.typeId).catalog = c.build l := by
    rw [Loader.locator_touch, Loader.catalog_touch]; rfl
  unfold reply Store.registry
  simp only [hv, hl, hn, Store.detachedRegistry, ht, hb]
  cases hres : (c.build l).result with
  | error f => rfl
  | ok reg => exact congrArg _ (typed_keeping c hres)

theorem course (c : RegistryCall) : c.Course c.reply := by
  cases hv : c.point.invalid? with
  | some reason =>
    have : c.reply = ⟨c.store, [], .error (.invalid c.point reason)⟩ := by
      simp only [reply, Store.registry, hv]
    exact this ▸ .invalid hv
  | none =>
    cases hl : c.store.loaders[c.loader]? with
    | none =>
      have : c.reply = ⟨c.store, [], .error .noLoader⟩ := by
        simp only [reply, Store.registry, hv, hl]
      exact this ▸ .absent hv hl
    | some l =>
      cases hr : l.built? c.point.typeId with
      | some r =>
        have : c.reply = ⟨c.store, [], c.store.typed c.point r⟩ := by
          simp only [reply, Store.registry, hv, hl, hr]
        exact this ▸ .cached hv (by simp [Store.built?, hl, hr])
      | none =>
        rw [reply_of_unbuilt c hv hl hr]
        cases hres : (c.build l).result with
        | error f => exact .failed hv hl hr hres
        | ok reg => exact .built hv hl hr hres

open Store

variable {c : RegistryCall}

@[simp] theorem built?_asked (c : RegistryCall) (next : Locator) (j : LoaderId) (ty : Nat) :
    (c.asked next).built? j ty = c.store.built? j ty :=
  (built?_setLocator ..).trans (built?_of_same (fun x u => x.built?_touch _ u) j ty)

theorem grows_asked (c : RegistryCall) (next : Locator) : Grows c.store (c.asked next) :=
  (grows_of_same (fun x => x.catalog_touch _) fun x u => x.built?_touch _ u).trans
    (grows_setLocator ..)

theorem coherent_asked (h : Coherent c.store) (next : Locator) : Coherent (c.asked next) :=
  h.of_quiet (grows_asked c next) (fun _ _ => rfl) (built?_asked c next)

theorem built?_keeping {l : Loader} (hl : c.store.loaders[c.loader]? = some l) (next : Locator)
    (reg : Registry) (j : LoaderId) (ty : Nat) :
    (c.keeping next reg).built? j ty =
      if c.loader = j ∧ c.point.typeId = ty then some c.store.registries.length
      else c.store.built? j ty := by
  have hu : ∀ u, ((c.asked next).addRegistry reg).1.built? j u = c.store.built? j u :=
    fun u => built?_asked c next j u
  rw [keeping, built?_modifyLoader]
  by_cases hj : c.loader = j
  · subst hj
    obtain ⟨x, hx⟩ : ∃ x, ((c.asked next).addRegistry reg).1.loaders[c.loader]? = some x := by
      simp [addRegistry, asked, setLocator, loaders_modifyLoader, hl]
    have := hu ty
    simp only [built?, hx, Option.bind_some] at this
    by_cases hty : c.point.typeId = ty
    · subst hty; simp [hx, Loader.built?_fill]
    · simp [hx, Loader.built?_fill, hty, Ne.symm hty, this, built?]
  · simp [hj, hu]

theorem grows_keeping {l : Loader} {reg : Registry} (hl : c.store.loaders[c.loader]? = some l)
    (hn : l.built? c.point.typeId = none) (hr : reg.cells = []) (next : Locator) :
    Grows c.store (c.keeping next reg) := by
  refine ((grows_asked c next).trans (grows_addRegistry _ hr)).trans
    (grows_modifyLoader (fun _ => rfl) fun ty r h => ?_)
  have hb := built?_keeping hl next reg c.loader ty
  rw [keeping] at hb
  rw [hb]
  have h : c.store.built? c.loader ty = some r := by rw [← built?_asked c next]; exact h
  rw [if_neg, h]
  rintro ⟨-, rfl⟩
  simp [built?, hl, hn] at h

theorem instance?_keeping {reg : Registry} (hr : reg.cells = []) (next : Locator) (r : RegistryId)
    (k : String) : (c.keeping next reg).instance? r k = c.store.instance? r k :=
  instance?_addRegistry (c.asked next) hr r k

theorem built_lt (h : Coherent c.store) {j : LoaderId} {ty : Nat} {r : RegistryId}
    (hr : c.store.built? j ty = some r) : r < c.store.registries.length := by
  obtain ⟨reg, hreg, -⟩ := h.typed j ty r hr
  exact (List.getElem?_eq_some_iff.1 hreg).1

/-- The new registry is kept by no other loader, for every registry kept so far has a lower number. -/
theorem coherent_keeping (h : Coherent c.store) {l : Loader} {reg : Registry}
    (hl : c.store.loaders[c.loader]? = some l) (hn : l.built? c.point.typeId = none)
    (hp : reg.point = c.point) (hr : reg.cells = []) (next : Locator) :
    Coherent (c.keeping next reg) := by
  have hg := grows_keeping hl hn hr next
  refine ⟨?_, ?_, ?_, ?_⟩
  · intro r k i hi
    rw [instance?_keeping hr] at hi
    obtain ⟨d, hd, hm⟩ := h.made r k i hi
    exact ⟨d, hg.class? hd, getElem?_of_prefix hg.instances hm⟩
  · intro r k r' k' i hi hi'
    rw [instance?_keeping hr] at hi hi'
    exact h.apart r k r' k' i hi hi'
  · intro j ty r hb
    rw [built?_keeping hl] at hb
    split at hb
    · rename_i hj
      cases hb
      exact ⟨reg, by simp [registries_keeping], by rw [hp, hj.2]⟩
    · obtain ⟨old, ho, hty⟩ := h.typed j ty r hb
      obtain ⟨reg', hreg', hbare⟩ := hg.bare ho
      exact ⟨reg', hreg', by rw [Registry.point_of_bare hbare, hty]⟩
  · intro j ty j' ty' r hb hb'
    rw [built?_keeping hl] at hb hb'
    split at hb <;> split at hb'
    · rename_i hj hj'
      exact hj.1.symm.trans hj'.1
    · cases hb; exact absurd (built_lt h hb') (lt_irrefl _)
    · cases hb'; exact absurd (built_lt h hb) (lt_irrefl _)
    · exact h.owned j ty j' ty' r hb hb'

theorem grows_reply (c : RegistryCall) : Grows c.store c.reply.store := by
  have hc := c.course
  generalize c.reply = a at hc
  cases hc with
  | invalid | absent | cached => exact Grows.refl _
  | failed => exact grows_asked c _
  | built _ hl hn hb => exact grows_keeping hl hn (build_ok hb).2 _

theorem coherent_reply (h : Coherent c.store) : Coherent c.reply.store := by
  have hc := c.course
  generalize c.reply = a at hc
  cases hc with
  | invalid | absent | cached => exact h
  | failed => exact coherent_asked h _
  | built _ hl hn hb => exact coherent_keeping h hl hn (build_ok hb).1 (build_ok hb).2 _

theorem instance?_reply (c : RegistryCall) (r : RegistryId) (k : String) :
    c.reply.store.instance? r k = c.store.instance? r k := by
  have hc := c.course
  generalize c.reply = a at hc
  cases hc with
  | invalid | absent | cached | failed => rfl
  | built _ _ _ hb => exact instance?_keeping (build_ok hb).2 _ r k

theorem typed_of_built (h : Coherent c.store) {r : RegistryId}
    (hr : c.store.built? c.loader c.point.typeId = some r) : c.store.typed c.point r = .ok r := by
  obtain ⟨reg, hreg, hty⟩ := h.typed _ _ r hr
  simp [Store.typed, hreg, ExtensionPoint.sameAs, hty]

theorem reply_of_built (h : Coherent c.store) (hv : c.point.invalid? = none) {r : RegistryId}
    (hr : c.store.built? c.loader c.point.typeId = some r) : c.reply = ⟨c.store, [], .ok r⟩ := by
  have ht := typed_of_built h hr
  have hc := c.course
  generalize c.reply = a at hc ⊢
  cases hc with
  | invalid hi => rw [hv] at hi; cases hi
  | absent _ hl => simp [Store.built?, hl] at hr
  | cached _ hr' => rw [hr] at hr'; cases hr'; rw [ht]
  | failed _ hl hn | built _ hl hn => simp [Store.built?, hl, hn] at hr

theorem valid_of_ok {r : RegistryId} (hr : c.reply.result = .ok r) : c.point.invalid? = none := by
  have hc := c.course
  generalize c.reply = a at hc hr
  cases hc with
  | invalid | absent | failed => cases hr
  | cached hv | built hv => exact hv

/-- Which registries the loaders hold after a request: a success is held, all else is as before. -/
theorem built?_reply (h : Coherent c.store) (j : LoaderId) (ty : Nat) :
    c.reply.store.built? j ty =
      if c.loader = j ∧ c.point.typeId = ty then c.reply.result.toOption.or (c.store.built? j ty)
      else c.store.built? j ty := by
  have hc := c.course
  generalize c.reply = a at hc
  cases hc with
  | invalid | absent => simp [Except.toOption]
  | @cached r _ hr =>
    rw [typed_of_built h hr]
    split
    · rename_i hj; obtain ⟨rfl, rfl⟩ := hj; simp [Except.toOption, hr]
    · rfl
  | failed => simp [Except.toOption]
  | built _ hl _ hb => simp [built?_keeping hl, Except.toOption]

theorem kept_first (h : Coherent c.store) :
    c.reply.result.toOption.or (c.store.built? c.loader c.point.typeId) =
      (c.store.built? c.loader c.point.typeId).or c.reply.result.toOption := by
  have hc := c.course
  generalize c.reply = a at hc
  cases hc with
  | invalid | absent | failed => simp [Except.toOption]
  | cached _ hr => simp [typed_of_built h hr, hr, Except.toOption]
  | built _ hl hn _ => simp [built?, hl, hn]

end RegistryCall

namespace Store

-- What the examples are made of: an archive needs a codec, which needs a sink.

def codec : ExtensionPoint := ⟨0, "Codec", "dyn Codec", some ⟨""⟩⟩
def sink : ExtensionPoint := ⟨1, "Sink", "dyn Sink", some ⟨"file"⟩⟩
def archive : ExtensionPoint := ⟨2, "Archive", "dyn Archive", some ⟨"plain"⟩⟩

/-- Another type of the same name. -/
def codecTwin : ExtensionPoint := ⟨3, "Codec", "dyn other::Codec", some ⟨""⟩⟩

def packed : KeyClass := .mk 0 "Packed" []
def zipped : KeyClass := .mk 1 "Zipped" [packed]

def zipClass : ProviderClass := ⟨0, "Zip", codec, some ⟨"zip", none⟩, .needs sink none⟩
def fileClass : ProviderClass := ⟨1, "File", sink, some ⟨"file", none⟩, .makes⟩
def plainClass : ProviderClass := ⟨2, "Plain", archive, some ⟨"plain", none⟩, .makes⟩
def packClass : ProviderClass := ⟨3, "Pack", archive, some ⟨"pack", some packed⟩, .needs codec (some "zip")⟩

/-- A sink whose factory fails the first time. -/
def fullDisk : ProviderClass := ⟨1, "File", sink, some ⟨"file", none⟩, .fails "disk full" (some 1)⟩

def codecManifests : List MemoryResource :=
  [⟨"extensions/Codec", "c", "Zip"⟩, ⟨"extensions/Sink", "s", "File"⟩]

def codecLoader : Request := .addLoader (.memory codecManifests) (.ofClasses [zipClass, fileClass])

def fullDiskRun : List Request :=
  [.addLoader (.memory codecManifests) (.ofClasses [zipClass, fullDisk]), .registry 0 codec]

end Store

end ProviderRegistry
