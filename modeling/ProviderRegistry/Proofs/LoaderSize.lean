import ProviderRegistry.Proofs.RegistryRuns

/-! How many registries a loader has built. A holder may stand empty after a build that failed, so
its size is not the number of its holders but that of the types it holds a registry for. One
request adds at most one type, and it reports a registry as built exactly if it adds one: what
locators report is for tracing, and of what a build reports only the last event says that it is
done. -/

namespace ProviderRegistry

open Store

namespace Loader

def types (l : Loader) : List Nat := (l.holders.filter (·.2.isInitialized)).map (·.1)

theorem nodup_types (l : Loader) : l.types.Nodup := l.distinct.sublist (List.filter_sublist.map _)

theorem size_eq (l : Loader) : l.size = l.types.length := by
  rw [size, types, List.length_map, List.countP_eq_length_filter]

theorem lookup_eq_some_iff_mem {hs : List (Nat × Holder RegistryId)} (hd : (hs.map (·.1)).Nodup)
    {ty : Nat} {h : Holder RegistryId} : hs.lookup ty = some h ↔ (ty, h) ∈ hs := by
  induction hs with
  | nil => simp
  | cons e r ih =>
    obtain ⟨k, v⟩ := e
    rw [List.map_cons, List.nodup_cons] at hd
    by_cases hk : ty = k
    · subst hk
      have hr : (ty, h) ∉ r := fun hm => hd.1 (List.mem_map.2 ⟨_, hm, rfl⟩)
      rw [List.lookup_cons_self, List.mem_cons, Option.some.injEq, Prod.mk.injEq]
      exact ⟨fun hv => .inl ⟨rfl, hv.symm⟩, fun hm => (hm.resolve_right hr).2.symm⟩
    · have hb : (ty == k) = false := by simpa using hk
      rw [List.lookup_cons, hb, List.mem_cons, Prod.mk.injEq]
      exact ⟨fun hm => .inr ((ih hd.2).1 hm), fun hm => (ih hd.2).2 (hm.resolve_left fun hh => hk hh.1)⟩

theorem mem_types {l : Loader} {ty : Nat} : ty ∈ l.types ↔ (l.built? ty).isSome := by
  rw [types, List.mem_map, built?]
  constructor
  · rintro ⟨e, he, rfl⟩
    obtain ⟨he, hi⟩ := List.mem_filter.1 he
    rw [(lookup_eq_some_iff_mem l.distinct (h := e.2)).2 he]
    exact hi
  · intro hs
    obtain ⟨r, hr⟩ := Option.isSome_iff_exists.1 hs
    obtain ⟨h, hl, hv⟩ := Option.bind_eq_some_iff.1 hr
    refine ⟨(ty, h), List.mem_filter.2 ⟨(lookup_eq_some_iff_mem l.distinct).1 hl, ?_⟩, rfl⟩
    simp [Holder.isInitialized, hv]

end Loader

namespace Store

variable {s t : Store} {j : LoaderId}

def typesOf (s : Store) (j : LoaderId) : List Nat := s.loaders[j]?.elim [] Loader.types

theorem nodup_typesOf (s : Store) (j : LoaderId) : (s.typesOf j).Nodup := by
  unfold typesOf
  cases s.loaders[j]? with
  | none => exact List.nodup_nil
  | some l => exact l.nodup_types

theorem mem_typesOf {ty : Nat} : ty ∈ s.typesOf j ↔ (s.built? j ty).isSome := by
  unfold typesOf built?
  cases s.loaders[j]? with
  | none => simp
  | some l => exact Loader.mem_types

theorem length_typesOf {tys : List Nat} (hd : tys.Nodup)
    (hm : ∀ ty, ty ∈ tys ↔ (s.built? j ty).isSome) : (s.typesOf j).length = tys.length :=
  ((List.perm_ext_iff_of_nodup (nodup_typesOf s j) hd).2 fun ty => mem_typesOf.trans (hm ty).symm).length_eq

theorem length_typesOf_of_same (h : ∀ ty, t.built? j ty = s.built? j ty) :
    (t.typesOf j).length = (s.typesOf j).length :=
  length_typesOf (nodup_typesOf s j) fun ty => by rw [h, mem_typesOf]

end Store

def Event.isBuilt : Event → Bool
  | .built _ _ _ _ => true
  | _ => false

theorem Event.level_of_isBuilt {e : Event} (h : e.isBuilt = true) : e.level = .info := by
  cases e <;> first | rfl | cases h

theorem countP_isBuilt_eq_zero {es : List Event} (h : ∀ e ∈ es, e.level ≠ .info) :
    es.countP Event.isBuilt = 0 :=
  List.countP_eq_zero.2 fun e he hb => h e he (Event.level_of_isBuilt hb)

namespace Locator

mutual

/-- Locators report for tracing only. -/
theorem level_locate (files : FileTree) (name : String) :
    ∀ l : Locator, ∀ e ∈ (locate files name l).events, e.level = .trace
  | memory _ | embedded _ | listed _ => by simp [locate]
  | directories roots => by
    simp only [locate, missesInSearchPaths, List.mem_filterMap]
    rintro e ⟨root, -, he⟩
    revert he
    unfold inSearchPath
    split
    · rename_i hp
      split at hp
      · cases hp; rintro ⟨⟩; rfl
      · split at hp
        · cases hp
        · cases hp; rintro ⟨⟩; rfl
    · rintro ⟨⟩
  | chain links => by simpa [locate] using level_locateLinks files name links
  | unreliable asked failure inner => by
    rw [locate]
    split
    · simp
    · exact level_locate files name inner

theorem level_locateLinks (files : FileTree) (name : String) :
    ∀ links : List Locator, ∀ e ∈ (locateLinks files name links).events, e.level = .trace
  | [] => by simp [locateLinks]
  | l :: rest => by
    have hl := level_locate files name l
    have hr := level_locateLinks files name rest
    rw [locateLinks]
    split
    · exact hl
    · intro e he
      rcases List.mem_append.1 he with he | he
      · exact hl e he
      · exact hr e he

end

end Locator

theorem level_scan {files : FileTree} {point : String} {locator : Locator} {a : Acceptance} :
    ∀ e ∈ (scan files point locator a).events, e.level ≠ .info := by
  have hl := Locator.level_locate files (QualifiedName.resourceName point) locator
  have hf : ∀ (n : Nat) (ds : List Discovered), ∀ e ∈
      (locator.locate files (QualifiedName.resourceName point)).events ++
        .scanning point n :: ds.map (Discovered.event point), e.level ≠ .info := by
    intro n ds e he
    rcases List.mem_append.1 he with he | he
    · simp [hl e he]
    · rcases List.mem_cons.1 he with rfl | he
      · simp [Event.level]
      · obtain ⟨d, -, rfl⟩ := List.mem_map.1 he
        simp [Discovered.event, Event.level]
  unfold scan
  dsimp only
  split
  · exact fun e he => by simp [hl e he]
  · split <;> exact hf _ _

theorem KeyIndex.level_eventsFrom (point : String) (ix : KeyIndex) (ds : List Discovered) :
    ∀ e ∈ eventsFrom point ix ds, e.level = .warn := by
  induction ds generalizing ix with
  | nil => simp [eventsFrom]
  | cons d r ih =>
    intro e he
    rcases List.mem_append.1 he with he | he
    · unfold addEvents at he
      split at he
      · split at he
        · cases he
        · rw [List.mem_singleton.1 he]; rfl
      · cases he
    · exact ih _ e he

/-- A build says that it is done exactly if it is, and once. -/
theorem countP_build (files : FileTree) (p : ExtensionPoint) (locator : Locator) (catalog : Catalog) :
    (Registry.build files p locator catalog).events.countP Event.isBuilt =
      (Registry.build files p locator catalog).result.toOption.toList.length := by
  unfold Registry.build
  dsimp only
  split
  · exact countP_isBuilt_eq_zero level_scan
  · rw [List.countP_append, List.countP_append, countP_isBuilt_eq_zero level_scan,
      countP_isBuilt_eq_zero fun e he => by simp [KeyIndex.level_eventsFrom _ _ _ e he]]
    rfl

theorem RegistryCall.length_typesOf_reply {c : RegistryCall} (h : Coherent c.store) (j : LoaderId) :
    (c.reply.store.typesOf j).length = (c.store.typesOf j).length +
      if c.loader = j then c.reply.events.countP Event.isBuilt else 0 := by
  have hb : ∀ ty, _ := fun ty => built?_reply h j ty
  have hc := c.course
  generalize c.reply = a at hc hb
  cases hc with
  | invalid | absent | cached => simp
  | @failed l f _ _ _ hres =>
    rw [length_typesOf_of_same (built?_asked c _ j)]
    have : (c.build l).events.countP Event.isBuilt = 0 := by
      rw [build, countP_build, ← build, hres]; rfl
    simp [List.countP_append, this, Event.isBuilt]
  | @built l reg _ hl hn hres =>
    have hev : (c.build l).events.countP Event.isBuilt = 1 := by
      rw [build, countP_build, ← build, hres]; rfl
    by_cases hj : c.loader = j
    · have hnew : c.point.typeId ∉ c.store.typesOf j := by
        rw [mem_typesOf, ← hj]; simp [Store.built?, hl, hn]
      have hd : (c.point.typeId :: c.store.typesOf j).Nodup :=
        List.nodup_cons.2 ⟨hnew, nodup_typesOf _ _⟩
      rw [length_typesOf hd]
      · simp [hj, hev, Event.isBuilt]
      · intro ty
        rw [hb, List.mem_cons, mem_typesOf]
        by_cases hty : c.point.typeId = ty
        · simp [hj, hty, Except.toOption]
        · simp [hty, Ne.symm hty]
    · rw [if_neg hj, Nat.add_zero, length_typesOf_of_same]
      intro ty
      rw [hb, if_neg fun h => hj h.1]

/-- How many registries the requests report as built by a loader. -/
def builtReports (calls : List RegistryCall) (j : LoaderId) : Nat :=
  ((calls.filter (·.loader = j)).flatMap (·.reply.events)).countP Event.isBuilt

/-- The types for which the requests on a loader returned a registry, as often as they did. -/
def loadedTypes (calls : List RegistryCall) (j : LoaderId) : List Nat :=
  (calls.filter fun c => c.loader = j ∧ c.reply.result.isOk).map (·.point.typeId)

namespace Follows

variable {loads : Prop} {s t : Store} {a : List RegistryCall}

theorem length_typesOf (hs : Coherent s) (h : Follows loads s a t) (j : LoaderId) :
    (t.typesOf j).length = (s.typesOf j).length + builtReports a j := by
  induction h with
  | nil hq => simp [length_typesOf_of_same (hq.built? j), builtReports]
  | @cons s t c cs hq _ ih =>
    rw [ih (RegistryCall.coherent_reply hq.coherent), RegistryCall.length_typesOf_reply hq.coherent,
      length_typesOf_of_same (hq.built? j)]
    by_cases hj : c.loader = j
    · simp [builtReports, hj, List.countP_append]; omega
    · simp [builtReports, hj]

theorem first?_isSome {j : LoaderId} {ty : Nat} :
    (first? a j ty).isSome ↔ ty ∈ loadedTypes a j := by
  simp only [first?, List.findSome?_isSome_iff, loadedTypes, List.mem_map, List.mem_filter,
    decide_eq_true_eq]
  refine exists_congr fun c => ?_
  constructor
  · rintro ⟨hc, ho⟩
    split at ho
    · rename_i hj
      refine ⟨⟨hc, hj.1, ?_⟩, hj.2⟩
      cases hr : c.reply.result <;> simp_all [Except.toOption, Except.isOk, Except.toBool]
    · cases ho
  · rintro ⟨⟨hc, hj, ho⟩, hty⟩
    refine ⟨hc, ?_⟩
    rw [if_pos ⟨hj, hty⟩]
    cases hr : c.reply.result <;> simp_all [Except.toOption, Except.isOk, Except.toBool]

/-- From a state without loaders: the size of a loader is the number of types that requests on it
returned a registry for, and that of registries reported as built by it. -/
theorem size_eq (hs : Coherent s) (hn : s.loaders = []) (h : Follows loads s a t) {j : LoaderId}
    {l : Loader} (hl : t.loaders[j]? = some l) :
    l.size = (loadedTypes a j).dedup.length ∧ l.size = builtReports a j := by
  have hsize : l.size = (t.typesOf j).length := by simp [l.size_eq, typesOf, hl]
  have hempty : ∀ ty, s.built? j ty = none := fun ty => by simp [Store.built?, hn]
  rw [hsize]
  constructor
  · refine Store.length_typesOf (List.nodup_dedup _) fun ty => ?_
    rw [List.mem_dedup, h.built? hs, hempty, Option.none_or, first?_isSome]
  · rw [h.length_typesOf hs]
    simp [typesOf, hn]

end Follows

namespace LookupCall

theorem filter_isBuilt_events (c : LookupCall) : c.reply.events.filter Event.isBuilt =
    c.requests.flatMap fun n => n.reply.events.filter Event.isBuilt := by
  induction c using nested_induction with
  | step c ih =>
    have hr : c.reported.filter Event.isBuilt =
        c.requests.flatMap fun n => n.reply.events.filter Event.isBuilt := by
      rw [reported, requests_eq]
      cases c.work with
      | alone hn hi => rw [hn, hi]; rfl
      | ungiven hn hi => simp [hn, hi]
      | nested hn hi => simp [hn, hi, ih _ hi]
    rw [← hr]
    have hc := c.course
    generalize c.reply = a at hc
    cases hc with
    | refused hs | cached hs =>
      obtain ⟨-, hn, hi, -⟩ := idle (c := c) (by simp [hs])
      simp [reported, hn, hi]
    | fails | makes => rfl

end LookupCall

theorem Store.filter_isBuilt_step {s : Store} {q : Request} (hq : q.loads) :
    (s.step q).events.filter Event.isBuilt =
      (q.registryCalls s).flatMap fun n => n.reply.events.filter Event.isBuilt := by
  have hopt : ∀ (r : RegistryId) (c : LookupCall), (s.optionally r c.reply).events.filter Event.isBuilt =
      c.requests.flatMap fun n => n.reply.events.filter Event.isBuilt := fun r c => by
    rw [← c.filter_isBuilt_events]
    unfold optionally
    split <;> simp [Event.isBuilt]
  cases q with
  | addLoader => rfl
  | registry l p => simp [Request.registryCalls, step, Reply.map, RegistryCall.reply]
  | detachedRegistry => exact hq.elim
  | provider r key => exact LookupCall.filter_isBuilt_events ⟨s.depthBound, [], s, r, key⟩
  | providerOrDefault r => exact LookupCall.filter_isBuilt_events ⟨s.depthBound, [], s, r, none⟩
  | providerByKeyClass r k =>
    exact LookupCall.filter_isBuilt_events ⟨s.depthBound, [], s, r, s.keyForClass r k⟩
  | optionalProvider r key => exact hopt r ⟨s.depthBound, [], s, r, key⟩
  | optionalProviderByKeyClass r k => exact hopt r ⟨s.depthBound, [], s, r, s.keyForClass r k⟩

end ProviderRegistry
