import ProviderRegistry.Bootstrap
import ProviderRegistry.Proofs.LikeLoaders
import ProviderRegistry.Proofs.SortedTable
import ProviderRegistry.Proofs.StockedRegistries

/-! The linker presents classes and manifests in whatever order. The catalog is a table in the order of
the names, and manifests are sorted by their origins before any is served, so of what is linked together
only the names and the origins decide, as long as none comes twice. -/

namespace ProviderRegistry

namespace Keyed

variable {β : Type} {t t' : List (String × β)}

theorem Sorted.pairwise (h : Sorted t) : t.Pairwise fun a b => Text.Before a.1 b.1 :=
  List.pairwise_map.1 h

theorem Sorted.nodup (h : Sorted t) : t.Nodup :=
  h.pairwise.imp fun hab heq => hab.2 (congrArg Prod.fst heq)

theorem eq_of_get? (h : Sorted t) (h' : Sorted t') (hget : ∀ k, get? k t = get? k t') : t = t' := by
  have hmem : ∀ e, e ∈ t ↔ e ∈ t' := fun e =>
    ⟨fun he => mem_of_get? (hget e.1 ▸ get?_of_mem h he),
      fun he => mem_of_get? ((hget e.1).symm ▸ get?_of_mem h' he)⟩
  have hperm : t.Perm t' := (List.perm_ext_iff_of_nodup h.nodup h'.nodup).2 hmem
  refine hperm.eq_of_pairwise ?_ h.pairwise h'.pairwise
  intro a b _ _ hab hba
  exact absurd (Text.precedes_antisymm hab.1 hba.1) hab.2

end Keyed

namespace Catalog

variable {k : Catalog} {cs cs' : List ProviderClass} {name : String}

theorem sorted_add (h : Keyed.Sorted k.table) (c : ProviderClass) : Keyed.Sorted (k.add c).table := by
  unfold add
  split
  · exact h
  · exact Keyed.sorted_put h c.name c

theorem sorted_foldl (h : Keyed.Sorted k.table) (cs : List ProviderClass) :
    Keyed.Sorted (cs.foldl add k).table := by
  induction cs generalizing k with
  | nil => exact h
  | cons c cs ih => exact ih (sorted_add h c)

theorem sorted_ofClasses (cs : List ProviderClass) : Keyed.Sorted (ofClasses cs).table :=
  sorted_foldl (k := empty) List.Pairwise.nil cs

theorem find?_eq_some_iff (h : (cs.map (·.name)).Nodup) {c : ProviderClass} :
    cs.find? (·.name = name) = some c ↔ c ∈ cs ∧ c.name = name := by
  constructor
  · intro hc
    exact ⟨List.mem_of_find?_eq_some hc, by simpa using List.find?_some hc⟩
  · rintro ⟨hc, rfl⟩
    cases hd : cs.find? (·.name = c.name) with
    | none => simpa using List.find?_eq_none.1 hd c hc
    | some d =>
      have hname : d.name = c.name := by simpa using List.find?_some hd
      rw [List.inj_on_of_nodup_map h (List.mem_of_find?_eq_some hd) hc hname]

theorem ofClasses_of_perm (h : cs.Perm cs') (hn : (cs.map (·.name)).Nodup) :
    ofClasses cs = ofClasses cs' := by
  have hn' : (cs'.map (·.name)).Nodup := (h.map _).nodup_iff.1 hn
  have htable : (ofClasses cs).table = (ofClasses cs').table := by
    refine Keyed.eq_of_get? (sorted_ofClasses cs) (sorted_ofClasses cs') fun name => ?_
    rw [← resolve, ← resolve, resolve_ofClasses_eq, resolve_ofClasses_eq]
    ext c
    rw [find?_eq_some_iff hn, find?_eq_some_iff hn', h.mem_iff]
  exact congrArg Catalog.mk htable

theorem eventsFrom_eq_nil (hk : ∀ c ∈ cs, k.resolve c.name = none) (hn : (cs.map (·.name)).Nodup) :
    k.eventsFrom cs = [] := by
  induction cs generalizing k with
  | nil => rfl
  | cons c cs ih =>
    obtain ⟨hc, hcs⟩ := List.pairwise_cons.1 hn
    have hrest : ∀ d ∈ cs, (k.add c).resolve d.name = none := by
      intro d hd
      rw [resolve_add_eq, hk d (List.mem_cons_of_mem c hd), if_neg (hc d.name (List.mem_map_of_mem hd))]
      rfl
    rw [eventsFrom, ih hrest hcs, addEvents, hk c List.mem_cons_self]
    rfl

theorem eventsOf_eq_nil (hn : (cs.map (·.name)).Nodup) : eventsOf cs = [] :=
  eventsFrom_eq_nil (fun _ _ => rfl) hn

end Catalog

theorem QualifiedName.resourceName_inj {a b : String} : resourceName a = resourceName b ↔ a = b := by
  simp [resourceName]

namespace Locator

variable {ms ms' : List EmbeddedManifest}

theorem sorted_filter (ms : List EmbeddedManifest) (f : EmbeddedManifest → Bool) :
    ((ms.mergeSort fun a b => Text.precedes a.origin b.origin).filter f).Pairwise
      fun a b => Text.precedes a.origin b.origin :=
  (Text.pairwise_mergeSort EmbeddedManifest.origin ms).sublist List.filter_sublist

theorem ofEmbedded_of_perm (h : ms.Perm ms') (hn : (ms.map fun m => (m.point.name, m.origin)).Nodup)
    (name : String) :
    ofEmbedded name (ms.mergeSort fun a b => Text.precedes a.origin b.origin) =
      ofEmbedded name (ms'.mergeSort fun a b => Text.precedes a.origin b.origin) := by
  unfold ofEmbedded
  congr 1
  set f : EmbeddedManifest → Bool := fun m => QualifiedName.resourceName m.point.name = name with hf
  have hperm : ((ms.mergeSort fun a b => Text.precedes a.origin b.origin).filter f).Perm
      ((ms'.mergeSort fun a b => Text.precedes a.origin b.origin).filter f) :=
    (((List.mergeSort_perm _ _).trans h).trans (List.mergeSort_perm _ _).symm).filter f
  refine hperm.eq_of_pairwise ?_ (sorted_filter ms f) (sorted_filter ms' f)
  intro a b ha hb hab hba
  -- Two manifests under one resource name are of one extension point name.
  obtain ⟨ha, hfa⟩ := List.mem_filter.1 ha
  obtain ⟨hb, hfb⟩ := List.mem_filter.1 hb
  have hpoint : a.point.name = b.point.name :=
    QualifiedName.resourceName_inj.1 ((of_decide_eq_true hfa).trans (of_decide_eq_true hfb).symm)
  have horigin : a.origin = b.origin := Text.precedes_antisymm hab hba
  refine List.inj_on_of_nodup_map hn (List.mem_mergeSort.1 ha) (h.mem_iff.2 (List.mem_mergeSort.1 hb)) ?_
  rw [hpoint, horigin]

end Locator

namespace Linked

variable {k k' : Linked}

/-- Whether the same classes and manifests are linked, in whatever order. -/
structure Reordered (k k' : Linked) : Prop where
  classes : k.classes.Perm k'.classes
  manifests : k.manifests.Perm k'.manifests

/-- Whether no two classes bear one name, and no two manifests of one extension point name one origin. -/
structure Distinct (k : Linked) : Prop where
  names : (k.classes.map (·.name)).Nodup
  origins : (k.manifests.map fun m => (m.point.name, m.origin)).Nodup

theorem Reordered.catalog (h : k.Reordered k') (hd : k.Distinct) : k.catalog = k'.catalog :=
  Catalog.ofClasses_of_perm h.classes hd.names

theorem Reordered.locator (h : k.Reordered k') (hd : k.Distinct) :
    (Locator.ofManifests k.manifests).Alike (.ofManifests k'.manifests) :=
  .embedded (Locator.ofEmbedded_of_perm h.manifests hd.origins)

theorem Reordered.defaultLoader (h : k.Reordered k') (hd : k.Distinct) :
    k.defaultLoader.Alike k'.defaultLoader :=
  ⟨h.locator hd, h.catalog hd, rfl⟩

theorem Reordered.catalogEvents (h : k.Reordered k') (hd : k.Distinct) :
    Catalog.eventsOf k.classes = Catalog.eventsOf k'.classes := by
  rw [Catalog.eventsOf_eq_nil hd.names, Catalog.eventsOf_eq_nil ((h.classes.map _).nodup_iff.1 hd.names)]

theorem Reordered.ensureGlobal (h : k.Reordered k') (hd : k.Distinct) (s : Store) :
    (s.ensureGlobal k).Alike (s.ensureGlobal k') := by
  unfold Store.ensureGlobal
  split
  · exact ⟨.refl s, rfl, rfl⟩
  · obtain ⟨hcount, hloader, hfiles, hregs, hinsts, hruns⟩ :=
      (Store.Alike.refl s).addLoader (h.defaultLoader hd)
    exact ⟨⟨hcount, hloader, hfiles, hregs, hinsts, hruns⟩, h.catalogEvents hd, rfl⟩

theorem Reordered.globalRegistry (h : k.Reordered k') (hd : k.Distinct) (s : Store) (p : ExtensionPoint) :
    (s.globalRegistry k p).Alike (s.globalRegistry k' p) := by
  obtain ⟨hst, he, hres⟩ := h.ensureGlobal hd s
  obtain ⟨hst', he', hres'⟩ := hst.registry (s.ensureGlobal k).result p
  unfold Store.globalRegistry
  dsimp only
  rw [← hres, ← he]
  exact ⟨hst', by rw [he'], hres'⟩

/-- Nothing depends on the order in which the linker presents classes of distinct names and manifests
that have, for each name of an extension point, distinct origins. The catalog is the same, so it gives
the same class for every name and the classes in the same order. For every extension point the build
over the default locator comes to the same registry, or fails for the same reason, and reports the same.
A program that makes a loader over what is linked, or uses the global one, is told the same whatever
it goes on to request. -/
theorem link_order_unseen (hd : k.Distinct) (hr : k.Reordered k') :
    k.catalog = k'.catalog ∧
    (∀ files p, let b := Registry.build files p (.ofManifests k.manifests) k.catalog
      let b' := Registry.build files p (.ofManifests k'.manifests) k'.catalog
      b.result = b'.result ∧ b.events = b'.events) ∧
    (∀ (s : Store) qs, (s.addLoader k.defaultLoader).1.told qs = (s.addLoader k'.defaultLoader).1.told qs) ∧
    ∀ (s : Store) p, let a := s.globalRegistry k p
      let a' := s.globalRegistry k' p
      a.result = a'.result ∧ a.events = a'.events ∧ a.store.registries = a'.store.registries ∧
      ∀ qs, a.store.told qs = a'.store.told qs := by
  refine ⟨hr.catalog hd, ?_, ?_, ?_⟩
  · intro files p
    rw [← hr.catalog hd]
    obtain ⟨hresult, hevents, -⟩ := (hr.locator hd).build files p k.catalog
    exact ⟨hresult, hevents⟩
  · intro s qs
    exact ((Store.Alike.refl s).addLoader (hr.defaultLoader hd)).told qs
  · intro s p
    obtain ⟨hst, he, hres⟩ := hr.globalRegistry hd s p
    exact ⟨hres, he, hst.registries, hst.told⟩

open Store in
def tapeClass : ProviderClass := ⟨2, "Tape", sink, some ⟨"file", some (.mk 0 "Sequential" [])⟩, .makes⟩

open Store in
def sinks : Linked := ⟨[fileClass, tapeClass], [⟨"b", sink, "File"⟩, ⟨"a", sink, "Tape"⟩]⟩

def sinksReversed : Linked := ⟨sinks.classes.reverse, sinks.manifests.reverse⟩

def sinkBuild (k : Linked) : Except ScanFault Registry :=
  (Registry.build (.ofCwd []) Store.sink (.ofManifests k.manifests) k.catalog).result

/-- The class of the later origin is served, and both are listed by name, whichever is linked first. -/
theorem link_order_unseen_sinks :
    sinks.Distinct ∧ sinks.Reordered sinksReversed ∧ sinks.catalog = sinksReversed.catalog ∧
    sinksReversed.catalog.classes.map (·.name) = ["File", "Tape"] ∧
    sinkBuild sinks = sinkBuild sinksReversed ∧
    ((sinkBuild sinksReversed).toOption.map fun reg =>
      (reg.index.classes.map fun e => (e.1, e.2.name), reg.index.keyClasses.map (·.2))) =
        some ([("file", "File")], ["file"]) := by
  have hd : sinks.Distinct := ⟨by decide, by decide⟩
  have hr : sinks.Reordered sinksReversed := ⟨(List.reverse_perm _).symm, (List.reverse_perm _).symm⟩
  obtain ⟨hcatalog, hbuild, -, -⟩ := link_order_unseen hd hr
  have hsorted : Locator.ofManifests sinksReversed.manifests = .embedded sinksReversed.manifests :=
    congrArg Locator.embedded (List.mergeSort_of_pairwise (by decide +kernel))
  refine ⟨hd, hr, hcatalog, by decide +kernel, (hbuild (.ofCwd []) Store.sink).1, ?_⟩
  rw [sinkBuild, hsorted]
  decide +kernel

end Linked

end ProviderRegistry
