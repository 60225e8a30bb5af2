import ProviderRegistry.Proofs.LookupOutcome
import ProviderRegistry.Proofs.SingleInstance
import ProviderRegistry.Proofs.SortedTable
import ProviderRegistry.Proofs.SourcedRegistries
import ProviderRegistry.Proofs.StockedRegistries

/-! A registry holds classes of its own extension point only. Extension points are told apart by type,
and two types may bear one name and so find one another's classes listed; the class of the other type
ends the scan, so such a class gets into no registry, and of two types of one name no more than one can
come to have any. Instances are made by these classes alone, and a kept registry is never of a type
other than the one it is asked for. -/

namespace ProviderRegistry

open Store

/-- Whether a line of the resource names the class by a name that the catalog knows it by. -/
def Resource.Lists (r : Resource) (files : FileTree) (k : Catalog) (c : ProviderClass) : Prop :=
  ∃ origin n text name, .line origin n text ∈ r.points files ∧
    Manifest.readLine text = .ok (some name) ∧ k.resolve name = some c

/-- Whether each class of the registry has the key that it stands under, is one of the registry's very
extension point, and is listed in one of the resources. -/
def Registry.OwnClasses (reg : Registry) (files : FileTree) (rs : List Resource) (k : Catalog) : Prop :=
  ∀ e ∈ reg.index.classes, e.2.key = e.1 ∧ e.2.point.sameAs reg.point = true ∧
    ∃ r ∈ rs, r.Lists files k e.2

/-- The same with the resources that the locator of a loader serves under the name of the extension
point. -/
def Loader.Lists (l : Loader) (files : FileTree) (reg : Registry) : Prop :=
  reg.OwnClasses files (l.locator.serves files (QualifiedName.resourceName reg.point.name)) l.catalog

theorem KeyIndex.mem_of_mem_build {ds : List Discovered} {e : String × ProviderClass}
    (h : e ∈ (build ds).classes) : e.2.key = e.1 ∧ ∃ d ∈ ds, d.found = e.2 := by
  have hget : (build ds).get? e.1 = some e.2 := Keyed.get?_of_mem (sorted_build ds) h
  obtain ⟨hmem, hkey⟩ := mem_of_get? hget
  exact ⟨hkey, List.mem_map.1 hmem⟩

namespace Findings

variable {a b : Acceptance} {ps : List ReadPoint} {fs gs : Findings}

theorem Sums.listed (h : Sums a ps fs) : ∀ d ∈ fs.found, a.implements d.found = true ∧
    ∃ text name, .line d.origin d.line text ∈ ps ∧ Manifest.readLine text = .ok (some name) ∧
      a.resolve name = some d.found := by
  induction h with
  | done | stops => simp [nothing, stopped]
  | skips _ _ ih =>
    intro d hd
    obtain ⟨hi, text, name, hmem, hrest⟩ := ih d hd
    exact ⟨hi, text, name, List.mem_cons_of_mem _ hmem, hrest⟩
  | finds h _ ih =>
    intro d hd
    rcases List.mem_cons.1 hd with rfl | hd
    · cases h with
      | lists h =>
        cases h with
        | listed hs hg hr hi =>
          exact ⟨hi, _, _, List.mem_cons_self, Manifest.readLine_of_grammatical hs hg, hr⟩
    · obtain ⟨hi, text, name, hmem, hrest⟩ := ih d hd
      exact ⟨hi, text, name, List.mem_cons_of_mem _ hmem, hrest⟩

/-- Of two scans that take no class in common, one that finds a class and the other do not both go
through: the class is foreign to the other. -/
theorem Sums.disjoint (hr : a.resolve = b.resolve)
    (hi : ∀ c, a.implements c = true → b.implements c = false) (ha : Sums a ps fs) (hb : Sums b ps gs)
    (hf : fs.fault = none) (hg : gs.fault = none) : fs.found = [] := by
  induction ha generalizing gs with
  | done => rfl
  | stops => cases hf
  | skips _ _ ih =>
    cases hb with
    | stops => cases hg
    | skips _ hrest | finds _ hrest => exact ih hrest hf hg
  | @finds p _ _ d h =>
    have hforeign : ∃ f, p.Gives b (.error f) := by
      cases h with
      | lists h =>
        cases h with
        | listed hs hgr hres himp => exact ⟨_, .wrong (.foreign hs hgr (hr ▸ hres) (hi _ himp))⟩
    obtain ⟨f, hforeign⟩ := hforeign
    cases hb with
    | stops => cases hg
    | skips h' => cases hforeign.unique h'
    | finds h' => cases hforeign.unique h'

end Findings

theorem Loader.registryOf?_eq_some {l : Loader} {files : FileTree} {p : ExtensionPoint} {reg : Registry}
    (h : l.registryOf? files p = some reg) : ∃ fs : Findings,
      Findings.Sums (acceptanceFor p l.catalog)
        ((l.locator.serves files (QualifiedName.resourceName p.name)).flatMap (·.points files)) fs ∧
      fs.fault = none ∧ reg = ⟨p, KeyIndex.build fs.found, []⟩ := by
  unfold registryOf? at h
  dsimp only at h
  split at h
  · cases h
  · rename_i hf
    cases h
    exact ⟨_, (acceptanceFor p l.catalog).sums_readResources files _, hf, rfl⟩

theorem Findings.Sums.ownClasses {files : FileTree} {p : ExtensionPoint} {k : Catalog} {rs : List Resource}
    {fs : Findings} (h : Sums (acceptanceFor p k) (rs.flatMap (·.points files)) fs) {reg : Registry}
    (hp : reg.point = p) (hindex : reg.index = KeyIndex.build fs.found) : reg.OwnClasses files rs k := by
  intro e he
  obtain ⟨hkey, d, hd, hfound⟩ := KeyIndex.mem_of_mem_build (hindex ▸ he)
  obtain ⟨hi, text, name, hmem, hread, hres⟩ := h.listed d hd
  obtain ⟨r, hr, hpoint⟩ := List.mem_flatMap.1 hmem
  rw [hfound] at hi hres
  exact ⟨hkey, hp ▸ hi, r, hr, _, _, text, name, hpoint, hread, hres⟩

theorem Loader.lists_of_registryOf? {l : Loader} {files : FileTree} {reg : Registry}
    (h : l.registryOf? files reg.point = some reg.bare) : l.Lists files reg := by
  obtain ⟨fs, hsums, -, hreg⟩ := Loader.registryOf?_eq_some h
  exact hsums.ownClasses rfl (congrArg Registry.index hreg)

theorem Registry.ownClasses_of_build {files : FileTree} {p : ExtensionPoint} {a : Locator} {k : Catalog}
    {reg : Registry} (h : (build files p a k).result = .ok reg) : reg.point = p ∧
      ∃ rs, (a.locate files (QualifiedName.resourceName p.name)).result = .ok rs ∧
        reg.OwnClasses files rs k := by
  obtain ⟨rs, ds, hl, hfound, rfl⟩ := found_of_build h
  have hsums := hfound ▸ (acceptanceFor p k).sums_readResources files rs
  exact ⟨rfl, rs, hl, hsums.ownClasses rfl rfl⟩

/-- Of two registries of one name but of two types that are built of the same resources and one catalog
the one is without classes, and so is the other. -/
theorem Loader.empty_of_namesakes {l l' : Loader} {files : FileTree} {p p' : ExtensionPoint}
    {reg reg' : Registry} (h : l.registryOf? files p = some reg) (h' : l'.registryOf? files p' = some reg')
    (hserves : l.locator.serves files (QualifiedName.resourceName p.name) =
      l'.locator.serves files (QualifiedName.resourceName p'.name))
    (hcat : l.catalog = l'.catalog) (hty : p.typeId ≠ p'.typeId) : reg.index.isEmpty = true := by
  obtain ⟨fs, hsums, hf, rfl⟩ := registryOf?_eq_some h
  obtain ⟨gs, hsums', hg, -⟩ := registryOf?_eq_some h'
  have hresolve : (acceptanceFor p l.catalog).resolve = (acceptanceFor p' l'.catalog).resolve := by
    rw [hcat]
    rfl
  have hi : ∀ c, (acceptanceFor p l.catalog).implements c = true →
      (acceptanceFor p' l'.catalog).implements c = false := by
    intro c hc
    simp only [acceptanceFor, ExtensionPoint.sameAs, beq_iff_eq, beq_eq_false_iff_ne] at hc ⊢
    exact fun heq => hty (hc.symm.trans heq)
  have hnil : fs.found = [] := hsums.disjoint hresolve hi (hserves ▸ hsums') hf hg
  rw [hnil]
  rfl

theorem Registry.empty_of_namesakes {files : FileTree} {p p' : ExtensionPoint} {a b : Locator} {k : Catalog}
    {reg reg' : Registry} (h : (build files p a k).result = .ok reg)
    (h' : (build files p' b k).result = .ok reg')
    (hlocate : (a.locate files (QualifiedName.resourceName p.name)).result =
      (b.locate files (QualifiedName.resourceName p'.name)).result)
    (hty : p.typeId ≠ p'.typeId) : reg.index.isEmpty = true := by
  have hserves : a.serves files (QualifiedName.resourceName p.name) =
      b.serves files (QualifiedName.resourceName p'.name) := by
    obtain ⟨rs, -, ha, -⟩ := found_of_build h
    rw [← Locator.eq_serves ha, ← Locator.eq_serves (hlocate ▸ ha)]
  have hreg := Loader.registryOf?_of_build (l := .new a k) h
  have hreg' := Loader.registryOf?_of_build (l := .new b k) h'
  exact Loader.empty_of_namesakes hreg hreg' hserves rfl hty

namespace Store

variable {s t : Store}

def BuiltBy (files : FileTree) (profile : Profile) (reg : Registry) : Prop :=
  ∃ l : Loader, l.profile = profile ∧ l.registryOf? files reg.point = some reg

theorem making_builtBy : Making BuiltBy := by
  intro files l p reg h
  refine ⟨l, rfl, ?_⟩
  rw [(RegistryCall.build_ok h).1]
  exact Loader.registryOf?_of_build h

theorem BuiltBy.registryOf? {files : FileTree} {l : Loader} {reg : Registry}
    (h : BuiltBy files l.profile reg.bare) : l.registryOf? files reg.point = some reg.bare := by
  obtain ⟨l', hprofile, hreg⟩ := h
  rw [← Loader.registryOf?_of_profile hprofile]
  exact hreg

theorem registryOf?_of_mem (h : Sourced BuiltBy s) {r : RegistryId} {reg : Registry}
    (hr : s.registries[r]? = some reg) :
    ∃ l ∈ s.loaders, l.registryOf? s.files reg.point = some reg.bare := by
  obtain ⟨profile, hp, hb⟩ := h.all reg.bare (List.mem_map_of_mem (List.mem_of_getElem? hr))
  obtain ⟨l, hl, rfl⟩ := List.mem_map.1 hp
  exact ⟨l, hl, hb.registryOf?⟩

theorem registryOf?_of_kept (h : Sourced BuiltBy s) {j : LoaderId} {l : Loader} {ty : Nat} {r : RegistryId}
    {reg : Registry} (hl : s.loaders[j]? = some l) (hj : s.built? j ty = some r)
    (hr : s.registries[r]? = some reg) : l.registryOf? s.files reg.point = some reg.bare := by
  obtain ⟨reg', profile, hreg', hp, hb⟩ := h.kept j ty r hj
  rw [bares, List.getElem?_map, hr] at hreg'
  rw [profiles, List.getElem?_map, hl] at hp
  cases hreg'
  cases hp
  exact hb.registryOf?

/-- Every held instance was made by a run of a factory that was started for its key, and that does not
make instances of another type. -/
def Made (s : Store) : Prop := ∀ r k i, s.instance? r k = some i →
  ∃ p, s.instances[i]? = some p ∧ ⟨r, k, p⟩ ∈ s.runs ∧ p.factory ≠ .makesOther

theorem made_empty (files : FileTree) : Made (empty files) := by
  intro r k i hi
  cases hi

theorem Made.of_same (h : Made s) (hg : Grows s t) (hi : ∀ r k, t.instance? r k = s.instance? r k) :
    Made t := by
  intro r k i hr
  obtain ⟨p, hp, hrun, hf⟩ := h r k i (hi r k ▸ hr)
  obtain ⟨new, hnew, -⟩ := hg.runs
  exact ⟨p, getElem?_of_prefix hg.instances hp, hnew ▸ List.mem_append_left _ hrun, hf⟩

theorem made_makes (c : LookupCall) (point k : String) (p : ProviderClass) (h : Coherent c.store)
    (hw : c.worked.Made) (hs : c.settled = .due point k p) (hf : ∀ f, ¬c.Fails point k p f) :
    (c.worked.finish c.registry k p).store.Made := by
  have hrun : ⟨c.registry, k, p⟩ ∈ c.worked.runs := by
    obtain ⟨later, hlater⟩ := LookupCall.runs_of_due h hs
    rw [← LookupCall.runs_reply, hlater]
    simp
  intro r k' i hi
  rw [instance?_finish (LookupCall.class?_worked h hs)] at hi
  split at hi
  · rename_i heq
    obtain ⟨rfl, rfl⟩ := heq
    cases hi
    exact ⟨p, List.getElem?_concat_length, hrun, fun hother => hf _ (.otherType hother)⟩
  · obtain ⟨q, hq, hqrun, hother⟩ := hw r k' i hi
    exact ⟨q, getElem?_of_prefix (List.prefix_append _ _) hq, hqrun, hother⟩

theorem abiding_made : Abiding Made where
  addLoader s locator catalog _ h := h.of_same (grows_addLoader s locator catalog) fun _ _ => rfl
  detached s l p _ h := h.of_same (grows_detachedRegistry s l p) (instance?_detachedRegistry s l p)
  request c _ h := h.of_same c.grows_reply c.instance?_reply
  started c _ h := h.of_same (LookupCall.grows_started c) (LookupCall.instance?_started c)
  makes := made_makes

end Store

theorem RegistryCall.result_ne_otherType {c : RegistryCall} (h : Coherent c.store) (q : ExtensionPoint) :
    c.reply.result ≠ .error (.otherType q) := by
  have hc := c.course
  generalize c.reply = a at hc
  cases hc with
  | invalid | absent | failed | built => exact fun heq => by cases heq
  | cached _ hr =>
    rw [typed_of_built h hr]
    exact fun heq => by cases heq

/-- What a lookup returned: an instance of the class under its key, which is one of the extension point of
the registry, made by a run of the factory of that class that was started for this key. -/
structure LookupCall.Provides (c : LookupCall) (i : InstanceId) (reg : Registry) (k : String)
    (p : ProviderClass) : Prop where
  registry : c.store.registries[c.registry]? = some reg
  key : reg.effectiveKey c.key = some k
  indexed : reg.index.get? k = some p
  point : p.point.sameAs reg.point = true
  made : c.reply.store.instances[i]? = some p
  run : ⟨c.registry, k, p⟩ ∈ c.reply.store.runs
  typed : p.factory ≠ .makesOther

theorem LookupCall.provides {c : LookupCall} (h : Coherent c.store) (hs : Sourced BuiltBy c.store)
    (hm : c.reply.store.Made) {i : InstanceId} (hi : c.reply.result = .ok i) :
    ∃ reg k p, c.Provides i reg k p := by
  obtain ⟨k, hk, hheld⟩ := c.held_of_ok h hi
  obtain ⟨p, hp, hrun, htyped⟩ := hm _ k i hheld
  obtain ⟨reg, hr, hk⟩ := Option.bind_eq_some_iff.1 hk
  -- the class that the registry has now is the one that it had when the lookup was made
  obtain ⟨d, hclass, hd⟩ := (c.coherent_reply h).made _ k i hheld
  obtain rfl : p = d := Option.some.inj (hp.symm.trans hd)
  obtain ⟨reg', hr', hindex⟩ := Option.bind_eq_some_iff.1 hclass
  obtain ⟨reg'', hr'', hbare⟩ := (c.grows_reply h).bare hr
  cases hr'.symm.trans hr''
  rw [Registry.index_of_bare hbare] at hindex
  obtain ⟨l, -, hl⟩ := registryOf?_of_mem hs hr
  obtain ⟨-, hpoint, -⟩ := Loader.lists_of_registryOf? hl (k, p) (Keyed.mem_of_get? hindex)
  exact ⟨reg, k, p, hr, hk, hindex, hpoint, hp, hrun, htyped⟩

namespace Store

/-- A class that a registry has under a key is of the registry's own extension point, has that key, and is
listed in a resource that the locator answered under the name of the extension point when the registry was
built. So it is for every registry at every moment of a run from nothing, with what a loader's locator
serves, and for a kept registry with that of the loader that keeps it. No request for a registry comes upon
one of another type. If registries are built for two types of one name over locators that answer alike,
neither registry has a class; so it is with those that a loader keeps. Whatever a lookup returns was made by
the factory of the class under its key, in a run that was started for it. -/
theorem own_classes_only (files : FileTree) (qs : List Request) :
    let s := empty files
    (∀ m ∈ s.moments qs,
      (∀ (r : RegistryId) reg, m.registries[r]? = some reg → ∃ l ∈ m.loaders, l.Lists files reg) ∧
      (∀ j l ty r reg, m.loaders[j]? = some l → m.built? j ty = some r → m.registries[r]? = some reg →
        reg.point.typeId = ty ∧ l.Lists files reg) ∧
      (∀ j p q, (m.registry j p).result ≠ .error (.otherType q)) ∧
      ∀ j ty ty' r r' reg reg', m.built? j ty = some r → m.built? j ty' = some r' → ty ≠ ty' →
        m.registries[r]? = some reg → m.registries[r']? = some reg' → reg.point.name = reg'.point.name →
          reg.index.isEmpty = true ∧ reg'.index.isEmpty = true) ∧
    (∀ c ∈ s.registryCalls qs, ∀ q, c.reply.result ≠ .error (.otherType q)) ∧
    (∀ p a k reg, (Registry.build files p a k).result = .ok reg → reg.point = p ∧
      ∃ rs, (Locator.locate files (QualifiedName.resourceName p.name) a).result = .ok rs ∧
        reg.OwnClasses files rs k) ∧
    (∀ p p' a b k reg reg', p.name = p'.name → p.typeId ≠ p'.typeId →
      (Locator.locate files (QualifiedName.resourceName p.name) a).result =
        (Locator.locate files (QualifiedName.resourceName p.name) b).result →
      (Registry.build files p a k).result = .ok reg → (Registry.build files p' b k).result = .ok reg' →
        reg.index.isEmpty = true ∧ reg'.index.isEmpty = true) ∧
    ∀ c ∈ s.lookups qs, ∀ i, c.reply.result = .ok i → ∃ reg k p, c.Provides i reg k p := by
  intro s
  have h : Coherent s := coherent_empty files
  have hsourced : ∀ m ∈ s.moments qs, Sourced BuiltBy m :=
    (invariant_sourced making_builtBy).abiding.moments h (sourced_empty files) qs
  have hmade : ∀ m ∈ s.moments qs, m.Made := abiding_made.moments h (made_empty files) qs
  refine ⟨?_, ?_, fun p a k reg => Registry.ownClasses_of_build, ?_, ?_⟩
  · intro m hm
    have hcoh : Coherent m := coherent_moments h hm
    have hfiles : m.files = files := ((ascending_moments h qs).above m hm).files
    refine ⟨?_, ?_, ?_, ?_⟩
    · intro r reg hr
      obtain ⟨l, hl, hreg⟩ := registryOf?_of_mem (hsourced m hm) hr
      exact ⟨l, hl, hfiles ▸ Loader.lists_of_registryOf? hreg⟩
    · intro j l ty r reg hl hj hr
      obtain ⟨reg', hr', hty⟩ := hcoh.typed j ty r hj
      cases hr.symm.trans hr'
      have hreg := registryOf?_of_kept (hsourced m hm) hl hj hr
      exact ⟨hty, hfiles ▸ Loader.lists_of_registryOf? hreg⟩
    · intro j p q
      exact RegistryCall.result_ne_otherType (c := ⟨m, j, p⟩) hcoh q
    · intro j ty ty' r r' reg reg' hj hj' hne hr hr' hname
      obtain ⟨l, hl, -⟩ := Option.bind_eq_some_iff.1 hj
      have hreg := registryOf?_of_kept (hsourced m hm) hl hj hr
      have hreg' := registryOf?_of_kept (hsourced m hm) hl hj' hr'
      have hty : reg.point.typeId ≠ reg'.point.typeId := by
        obtain ⟨x, hx, rfl⟩ := hcoh.typed j ty r hj
        obtain ⟨y, hy, rfl⟩ := hcoh.typed j ty' r' hj'
        cases hr.symm.trans hx
        cases hr'.symm.trans hy
        exact hne
      have hserves := congrArg (fun n => l.locator.serves m.files (QualifiedName.resourceName n)) hname
      have hempty : reg.bare.index.isEmpty = true := Loader.empty_of_namesakes hreg hreg' hserves rfl hty
      have hempty' : reg'.bare.index.isEmpty = true :=
        Loader.empty_of_namesakes hreg' hreg hserves.symm rfl hty.symm
      exact ⟨hempty, hempty'⟩
  · intro c hc q
    obtain ⟨pre, post, hsplit⟩ := List.append_of_mem hc
    have hf := followed files qs
    rw [hsplit] at hf
    exact RegistryCall.result_ne_otherType hf.split.1.coherent q
  · intro p p' a b k reg reg' hname hty hlocate hb hb'
    rw [hname] at hlocate
    have hlocate' : (a.locate files (QualifiedName.resourceName p.name)).result =
        (b.locate files (QualifiedName.resourceName p'.name)).result := hname ▸ hlocate
    exact ⟨Registry.empty_of_namesakes hb hb' hlocate' hty,
      Registry.empty_of_namesakes hb' hb hlocate'.symm hty.symm⟩
  · intro c hc i hi
    obtain ⟨hcoh, hbefore, hafter⟩ := lookups_spec h qs hc
    exact c.provides hcoh (hsourced _ hbefore) (hmade _ hafter) hi

def namesakeRun : List Request :=
  nestedRun ++ [.registry 0 codecTwin, .addLoader .empty (.ofClasses [zipClass]), .registry 1 codec,
    .registry 1 codecTwin]

/-- The first loader builds a registry for the type of the class alone, the second builds two without
classes; the instance of the class was made for the first. -/
theorem own_classes_only_namesakes :
    let s := empty (.ofCwd [])
    let m := s.after namesakeRun
    let c := (s.after (nestedRun.take 2)).lookup 0 (some "zip")
    (∃ reg l, m.registries[0]? = some reg ∧ m.loaders[0]? = some l ∧ reg.index.keys = ["zip"] ∧
      l.Lists (.ofCwd []) reg) ∧
    ((s.after nestedRun).registry 0 codecTwin).result =
      .error (.scan "Codec" (.line "c" 1 (.notASubtype "Zip"))) ∧
    (∃ reg reg', m.registries[2]? = some reg ∧ m.registries[3]? = some reg' ∧
      reg.point.name = reg'.point.name ∧ reg.index.isEmpty = true ∧ reg'.index.isEmpty = true) ∧
    ∃ reg k p, c.Provides 1 reg k p := by
  intro s m c
  obtain ⟨moments, -, -, -, provides⟩ := own_classes_only (.ofCwd []) namesakeRun
  obtain ⟨-, kept, -, namesakes⟩ := moments m (after_mem_moments s namesakeRun)
  have hregs : m.registries.map (fun reg => (reg.point.name, reg.index.keys)) =
      [("Codec", ["zip"]), ("Sink", ["file"]), ("Codec", []), ("Codec", [])] := by decide +kernel
  have hloaders : m.loaders.length = 2 := by decide +kernel
  obtain ⟨reg₀, reg₁, reg₂, reg₃, hm⟩ : ∃ a b c d, m.registries = [a, b, c, d] :=
    List.length_eq_four.1 (by simpa using congrArg List.length hregs)
  obtain ⟨l₀, l₁, hl⟩ : ∃ a b, m.loaders = [a, b] := List.length_eq_two.1 hloaders
  simp only [hm, List.map_cons, List.map_nil, List.cons.injEq, Prod.mk.injEq, and_true] at hregs
  obtain ⟨⟨-, hzip⟩, -, ⟨hname, -⟩, hname', -⟩ := hregs
  refine ⟨⟨reg₀, l₀, by rw [hm]; rfl, by rw [hl]; rfl, hzip, ?_⟩, by decide +kernel, ?_, ?_⟩
  · exact (kept 0 l₀ 0 0 reg₀ (by rw [hl]; rfl) (by decide +kernel) (by rw [hm]; rfl)).2
  · obtain ⟨hempty, hempty'⟩ := namesakes 1 0 codecTwin.typeId 2 3 reg₂ reg₃ (by decide +kernel) (by decide +kernel)
      (by decide) (by rw [hm]; rfl) (by rw [hm]; rfl) (hname.trans hname'.symm)
    exact ⟨reg₂, reg₃, by rw [hm]; rfl, by rw [hm]; rfl, hname.trans hname'.symm, hempty, hempty'⟩
  · have hc : c ∈ s.lookups namesakeRun :=
      mem_lookups s (nestedRun.take 2) (.provider 0 (some "zip")) _ rfl
    exact provides c hc 1 (by decide +kernel)

end Store

end ProviderRegistry
