import ProviderRegistry.Proofs.KeyTables
import ProviderRegistry.Proofs.ValidateCommand

/-! One more search path. The sources that the settings of a loader name are read one behind the
other, the linked manifests first and then the search paths in their order, so a directory added at
the end is read when all else is. It takes over the keys that it lists and puts its key-classes
behind the others, and it can make a build fail that succeeds without it, but not the other way. -/

namespace ProviderRegistry

namespace Findings

theorem fault_andThen {a b : Findings} : (a.andThen b).fault = none ↔ a.fault = none ∧ b.fault = none := by
  obtain ⟨found, fault⟩ := a
  cases fault <;> simp [andThen]

theorem found_andThen {a b : Findings} (h : a.fault = none) : (a.andThen b).found = a.found ++ b.found := by
  simp [andThen, h]

end Findings

theorem Acceptance.readResources_append (a : Acceptance) (files : FileTree) (rs qs : List Resource) :
    a.readResources files (rs ++ qs) = (a.readResources files rs).andThen (a.readResources files qs) := by
  induction rs with
  | nil => rfl
  | cons r rs ih => rw [List.cons_append, readResources_cons, ih, readResources_cons, Findings.andThen_assoc]

/-- The settings with one more search path, behind the others. -/
def Settings.withSearchPath (settings : Settings) (dir : String) : Settings :=
  { settings with
    discovery := { settings.discovery with
      searchPaths := settings.discovery.searchPaths ++ [dir] } }

namespace Linked

variable {k : Linked} {files : FileTree} {p : ExtensionPoint} {rs qs : List Resource}

def inManifests (k : Linked) (d : DiscoverySettings) (point : String) : List Resource :=
  if d.embedded then
    Locator.ofEmbedded (QualifiedName.resourceName point)
      (k.manifests.mergeSort fun a b => Text.precedes a.origin b.origin)
  else []

def inDirectory (files : FileTree) (point dir : String) : List Resource :=
  (Locator.inSearchPath files (QualifiedName.resourceName point) dir).toOption.toList

/-- All resources of an extension point that the settings lead to, in the order they are read. -/
def resources (k : Linked) (files : FileTree) (d : DiscoverySettings) (point : String) : List Resource :=
  k.inManifests d point ++ d.searchPaths.flatMap (inDirectory files point)

theorem inSearchPaths_eq_flatMap (files : FileTree) (point : String) (dirs : List String) :
    Locator.inSearchPaths files (QualifiedName.resourceName point) dirs =
      dirs.flatMap (inDirectory files point) := by
  induction dirs with
  | nil => rfl
  | cons dir dirs ih =>
    rw [List.flatMap_cons, ← ih, Locator.inSearchPaths, List.filterMap_cons, inDirectory]
    cases (Locator.inSearchPath files (QualifiedName.resourceName point) dir).toOption <;> rfl

theorem locate_locator (k : Linked) (files : FileTree) (d : DiscoverySettings) (point : String) :
    ((k.locator d).locate files (QualifiedName.resourceName point)).result =
      .ok (k.resources files d point) := by
  obtain ⟨embedded, dirs⟩ := d
  rw [resources, ← inSearchPaths_eq_flatMap]
  cases embedded <;> cases dirs <;>
    simp [locator, links, Locator.locate, Locator.locateLinks, Locator.ofManifests, inManifests,
      Locator.inSearchPaths, Except.map]

/-- Whether the resources can be read to their end, every line naming a class of the point. -/
def Readable (k : Linked) (files : FileTree) (p : ExtensionPoint) (rs : List Resource) : Prop :=
  ((acceptanceFor p k.catalog).readResources files rs).fault = none

def listed (k : Linked) (files : FileTree) (p : ExtensionPoint) (rs : List Resource) :
    List ProviderClass :=
  ((acceptanceFor p k.catalog).readResources files rs).found.map (·.found)

theorem readable_append : k.Readable files p (rs ++ qs) ↔ k.Readable files p rs ∧ k.Readable files p qs := by
  rw [Readable, Acceptance.readResources_append, Findings.fault_andThen]
  rfl

theorem listed_append (h : k.Readable files p rs) :
    k.listed files p (rs ++ qs) = k.listed files p rs ++ k.listed files p qs := by
  rw [listed, Acceptance.readResources_append, Findings.found_andThen h, List.map_append]
  rfl

theorem listed_flatMap {f : String → List Resource} {dirs : List String}
    (h : k.Readable files p (dirs.flatMap f)) :
    k.listed files p (dirs.flatMap f) = dirs.flatMap fun dir => k.listed files p (f dir) := by
  induction dirs with
  | nil => rfl
  | cons dir dirs ih =>
    rw [List.flatMap_cons] at h ⊢
    obtain ⟨hdir, hrest⟩ := readable_append.1 h
    rw [listed_append hdir, ih hrest, List.flatMap_cons]

/-- The request for the registry of an extension point on a new loader under the settings. -/
def firstBuild (k : Linked) (s : Store) (settings : Settings) (p : ExtensionPoint) :
    Reply (Except BuildFault RegistryId) :=
  (s.addLoader (k.loader settings)).1.registry (s.addLoader (k.loader settings)).2 p

variable {s : Store} {settings : Settings}

theorem valid_of_built {r : RegistryId} (h : (k.firstBuild s settings p).result = .ok r) :
    p.invalid? = none := by
  cases hv : p.invalid? with
  | none => rfl
  | some reason =>
    unfold firstBuild Store.registry at h
    simp only [hv] at h
    cases h

theorem firstBuild_spec (k : Linked) (s : Store) (settings : Settings) (hv : p.invalid? = none) :
    match ((acceptanceFor p k.catalog).readResources s.files
      (k.resources s.files settings.discovery p.name)).fault with
    | some f => (k.firstBuild s settings p).result = .error (.scan p.name f)
    | none => (k.firstBuild s settings p).result = .ok s.registries.length ∧
      (k.firstBuild s settings p).store.registries[s.registries.length]? =
        some ⟨p, .ofClasses (k.listed s.files p (k.resources s.files settings.discovery p.name)), []⟩ := by
  have hnew := s.registry_of_new (k.locator settings.discovery) k.catalog hv
  have hscan := scan_of_located (a := acceptanceFor p k.catalog)
    (k.locate_locator s.files settings.discovery p.name)
  cases hf : ((acceptanceFor p k.catalog).readResources s.files
      (k.resources s.files settings.discovery p.name)).fault with
  | some f =>
    simp only [hscan, hf] at hnew
    exact hnew
  | none =>
    simp only [hscan, hf] at hnew
    exact hnew

theorem built_of_readable (hv : p.invalid? = none)
    (hr : k.Readable s.files p (k.resources s.files settings.discovery p.name)) :
    (k.firstBuild s settings p).result = .ok s.registries.length ∧
      (k.firstBuild s settings p).store.registries[s.registries.length]? =
        some ⟨p, .ofClasses (k.listed s.files p (k.resources s.files settings.discovery p.name)), []⟩ := by
  have hspec := k.firstBuild_spec s settings hv
  rw [hr] at hspec
  exact hspec

theorem readable_of_built {r : RegistryId} (h : (k.firstBuild s settings p).result = .ok r) :
    k.Readable s.files p (k.resources s.files settings.discovery p.name) := by
  have hspec := k.firstBuild_spec s settings (valid_of_built h)
  split at hspec
  · rw [hspec] at h
    cases h
  · assumption

theorem resources_withSearchPath (k : Linked) (files : FileTree) (settings : Settings) (dir point : String) :
    k.resources files (settings.withSearchPath dir).discovery point =
      k.resources files settings.discovery point ++ inDirectory files point dir := by
  have hdirs : (settings.withSearchPath dir).discovery.searchPaths =
      settings.discovery.searchPaths ++ [dir] := rfl
  rw [resources, hdirs, List.flatMap_append, List.flatMap_singleton, ← List.append_assoc]
  rfl

theorem listed_resources {d : DiscoverySettings} (h : k.Readable files p (k.resources files d p.name)) :
    k.listed files p (k.resources files d p.name) =
      k.listed files p (k.inManifests d p.name) ++
        d.searchPaths.flatMap fun dir => k.listed files p (inDirectory files p.name dir) := by
  obtain ⟨hm, hd⟩ := readable_append.1 h
  rw [resources, listed_append hm, listed_flatMap hd]

theorem indexes_sources {r : RegistryId} (h : (k.firstBuild s settings p).result = .ok r) :
    ∃ reg, (k.firstBuild s settings p).store.registries[r]? = some reg ∧ reg.point = p ∧
      reg.index = .ofClasses (k.listed s.files p (k.inManifests settings.discovery p.name) ++
        settings.discovery.searchPaths.flatMap fun d =>
          k.listed s.files p (inDirectory s.files p.name d)) := by
  have hread := readable_of_built h
  obtain ⟨hok, hreg⟩ := built_of_readable (valid_of_built h) hread
  cases h.symm.trans hok
  exact ⟨_, hreg, rfl, by rw [listed_resources hread]⟩

/-- A registry that is built with one more search path indexes what the one without it does, and
then what the search path lists. -/
theorem indexes_search_path {dir : String} {r' : RegistryId}
    (h : (k.firstBuild s (settings.withSearchPath dir) p).result = .ok r') :
    ∃ r reg reg', (k.firstBuild s settings p).result = .ok r ∧
      (k.firstBuild s settings p).store.registries[r]? = some reg ∧
      (k.firstBuild s (settings.withSearchPath dir) p).store.registries[r']? = some reg' ∧
      reg.point = p ∧ reg'.point = p ∧ k.Readable s.files p (inDirectory s.files p.name dir) ∧
      reg'.index = (k.listed s.files p (inDirectory s.files p.name dir)).foldl KeyIndex.add reg.index := by
  have hv := valid_of_built h
  have hread := readable_of_built h
  obtain ⟨hok', hreg'⟩ := built_of_readable hv hread
  cases h.symm.trans hok'
  rw [resources_withSearchPath] at hread hreg'
  obtain ⟨hbase, hdir⟩ := readable_append.1 hread
  obtain ⟨hok, hreg⟩ := built_of_readable hv hbase
  exact ⟨_, _, _, hok, hreg, hreg', rfl, rfl, hdir, by rw [listed_append hbase, KeyIndex.ofClasses_append]⟩

/-- The registry that is first built under settings indexes what the linked manifests list, if they
are included, and then what each search path lists in its order: the last class under a key is
served, and a key-class stands for the key of the first class that declares it. If a registry is
built with one more search path behind the others, then one is without it, and the one with it has
the last class listed there under every key that is listed there and the same class under every
other; it has the same key-classes, and those that are only declared there behind them; and a query
for a key-class that found a key finds the same key. -/
theorem search_path_overrides (k : Linked) (s : Store) (settings : Settings) (p : ExtensionPoint)
    (dir : String) :
    let sources := k.listed s.files p (k.inManifests settings.discovery p.name) ++
      settings.discovery.searchPaths.flatMap fun d => k.listed s.files p (inDirectory s.files p.name d)
    let added := k.listed s.files p (inDirectory s.files p.name dir)
    let built := k.firstBuild s settings p
    let extended := k.firstBuild s (settings.withSearchPath dir) p
    (∀ r, built.result = .ok r → ∃ reg, built.store.registries[r]? = some reg ∧ reg.point = p ∧
      (∀ key, reg.index.get? key = KeyIndex.lastKeyed key sources) ∧
      reg.index.keyClasses = KeyIndex.firstOfEach (sources.filterMap (·.declared?))) ∧
    ∀ r', extended.result = .ok r' → ∃ r reg reg', built.result = .ok r ∧
      built.store.registries[r]? = some reg ∧ extended.store.registries[r']? = some reg' ∧
      reg.point = p ∧ reg'.point = p ∧ k.Readable s.files p (inDirectory s.files p.name dir) ∧
      (∀ key, reg'.index.get? key = (KeyIndex.lastKeyed key added).or (reg.index.get? key)) ∧
      reg'.index.keyClasses = reg.index.keyClasses ++ KeyIndex.firstOfEach
        ((added.filterMap (·.declared?)).filter fun e => !reg.index.hasKeyClass e.1) ∧
      ∀ q key, reg.index.keyForClass q = some key → reg'.index.keyForClass q = some key := by
  intro sources added built extended
  refine ⟨fun r h => ?_, fun r' h => ?_⟩
  · obtain ⟨reg, hreg, hp, hix⟩ := indexes_sources h
    refine ⟨reg, hreg, hp, fun key => ?_, ?_⟩
    · rw [hix, KeyIndex.get?_ofClasses]
    · rw [hix, KeyIndex.keyClasses_ofClasses]
  · obtain ⟨r, reg, reg', hok, hreg, hreg', hp, hp', hdir, hix⟩ := indexes_search_path h
    have hclasses := KeyIndex.keyClasses_foldl reg.index added
    refine ⟨r, reg, reg', hok, hreg, hreg', hp, hp', hdir, fun key => ?_, ?_, fun q key hq => ?_⟩
    · rw [hix, KeyIndex.get?_foldl]
    · rw [hix, hclasses]
    · rw [hix]
      exact KeyIndex.keyForClass_of_prefix ⟨_, hclasses.symm⟩ hq

open Store (archive packed zipped plainClass packClass)

def packers : Linked :=
  ⟨[plainClass, packClass, ⟨4, "Squeeze", archive, some ⟨"pack", some zipped⟩, .makes⟩],
    [⟨"app", archive, "Plain\nPack"⟩]⟩

def plugins : FileTree :=
  ⟨[], [(["plugins"], .directory), (["plugins", "extensions"], .directory),
    (["plugins", "extensions", "Archive"], .file "Squeeze".toUTF8)]⟩

/-- The directory takes its key over and leaves the other, and the query for the narrower key-class
goes on to find the wider one first. -/
theorem search_path_overrides_plugins :
    let built := packers.firstBuild (.empty plugins) .default archive
    let extended := packers.firstBuild (.empty plugins) (Settings.default.withSearchPath "plugins") archive
    extended.result = .ok 0 ∧ ∃ (r : RegistryId) (reg reg' : Registry),
      built.store.registries[r]? = some reg ∧ extended.store.registries[0]? = some reg' ∧
      (reg.index.get? "pack").map (·.name) = some "Pack" ∧
      (reg'.index.get? "pack").map (·.name) = some "Squeeze" ∧
      reg'.index.get? "plain" = reg.index.get? "plain" ∧
      reg'.index.keyClasses.map (fun e => (e.1.name, e.2)) = [("Packed", "pack"), ("Zipped", "pack")] ∧
      reg.index.keyForClass zipped = some "pack" ∧ reg'.index.keyForClass zipped = some "pack" := by
  intro built extended
  have hok : extended.result = .ok 0 := by decide +kernel
  have hbuilt : built.result = .ok 0 ∧ (built.store.registries[0]?.map fun reg =>
      ((reg.index.get? "pack").map (·.name), reg.index.keyForClass zipped)) =
        some (some "Pack", some "pack") := by decide +kernel
  have hextended : (extended.store.registries[0]?.map fun reg =>
      ((reg.index.get? "pack").map (·.name), reg.index.keyClasses.map fun e => (e.1.name, e.2))) =
        some (some "Squeeze", [("Packed", "pack"), ("Zipped", "pack")]) := by decide +kernel
  have hother : KeyIndex.lastKeyed "plain" (packers.listed (Store.empty plugins).files archive
      (inDirectory (Store.empty plugins).files archive.name "plugins")) = none := by
    rw [← Option.isNone_iff_eq_none]
    decide +kernel
  obtain ⟨r, reg, reg', hr, hreg, hreg', -, -, -, hget, -, hkeep⟩ :=
    (search_path_overrides packers (.empty plugins) .default archive "plugins").2 0 hok
  cases hr.symm.trans hbuilt.1
  obtain ⟨-, hold⟩ := hbuilt
  rw [hreg, Option.map_some, Option.some.injEq, Prod.mk.injEq] at hold
  rw [hreg', Option.map_some, Option.some.injEq, Prod.mk.injEq] at hextended
  refine ⟨hok, 0, reg, reg', hreg, hreg', hold.1, hextended.1, ?_, hextended.2, hold.2,
    hkeep zipped "pack" hold.2⟩
  rw [hget, hother, Option.none_or]

end Linked

end ProviderRegistry
