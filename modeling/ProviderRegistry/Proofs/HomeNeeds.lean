import Mathlib.Logic.Relation
import ProviderRegistry.Proofs.NestingDepth
import ProviderRegistry.Proofs.ServedResources

/-! What needs what on the home loader. The home loader's registry of an extension point is settled before
it is built: it is the one that is kept, or the one that the resources and the catalog of the loader make.
The keys of these registries, by the type of the extension point, depend on one another as the factories
of their classes need providers, and this stays so while a program runs. -/

namespace ProviderRegistry

/-- The keys that lookups on the registry can be for, with their classes. -/
def Registry.offers (reg : Registry) : List (String × ProviderClass) :=
  reg.index.classes.filter fun e => reg.effectiveKey (some e.1) = some e.1 ∨ reg.effectiveKey none = some e.1

def Store.neededPoints (s : Store) : List ExtensionPoint :=
  s.loaders.flatMap fun l => l.catalog.classes.filterMap fun p => p.factory.need?.map (·.1)

/-- A store with its loaders, and the extension points that come to be asked for; those that factories need
are among them. -/
structure World where
  store : Store
  points : List ExtensionPoint
  closed : ∀ q ∈ store.neededPoints, q ∈ points

namespace World

open Store

/-- The registries that the home loader keeps, and those it can come to build. -/
def registries (w : World) : List (Nat × Registry) :=
  match w.store.loaders[home]? with
  | none => []
  | some l =>
    (l.holders.filterMap fun e =>
      e.2.value.bind fun r => w.store.registries[r]?.map fun reg => (e.1, reg.bare)) ++
      (w.points.filter fun q => q.invalid? = none ∧ l.built? q.typeId = none).filterMap fun q =>
        (l.registryOf? w.store.files q).map fun reg => (q.typeId, reg)

/-- The extension points and keys on the home loader that have a class. -/
def pairs (w : World) : List (Nat × String) :=
  w.registries.flatMap fun e => e.2.offers.map fun o => (e.1, o.1)

/-- Which pair needs which extension point and key. -/
def dependences (w : World) : List ((Nat × String) × (Nat × String)) :=
  w.registries.flatMap fun e => e.2.offers.flatMap fun o => o.2.factory.need?.elim [] fun n =>
    (w.registries.filter fun t => t.1 = n.1.typeId).filterMap fun t =>
      (t.2.effectiveKey n.2).map fun k => ((e.1, o.1), (n.1.typeId, k))

def DependsOn (w : World) (x y : Nat × String) : Prop := (x, y) ∈ w.dependences

def Acyclic (w : World) : Prop := ∀ x, ¬Relation.TransGen w.DependsOn x x

/-- A numbering that goes down along every dependence leaves no cycle. -/
theorem acyclic_of_rank {w : World} (rank : Nat × String → Nat)
    (h : ∀ e ∈ w.dependences, rank e.2 < rank e.1) : w.Acyclic := by
  intro x hx
  have hlt : ∀ {y}, Relation.TransGen w.DependsOn x y → rank y < rank x := by
    intro y hy
    induction hy with
    | single he => exact h _ he
    | tail _ he ih => exact (h _ he).trans ih
  exact absurd (hlt hx) (lt_irrefl _)

variable {w : World}

theorem mem_registries_of_kept {ty : Nat} {r : RegistryId} {reg : Registry}
    (hr : w.store.built? home ty = some r) (hreg : w.store.registries[r]? = some reg) :
    (ty, reg.bare) ∈ w.registries := by
  obtain ⟨l, hl, hr⟩ := Option.bind_eq_some_iff.1 hr
  obtain ⟨h, hh, hv⟩ := Option.bind_eq_some_iff.1 hr
  rw [registries, hl]
  refine List.mem_append_left _ (List.mem_filterMap.2 ⟨(ty, h), ?_, ?_⟩)
  · exact (Loader.lookup_eq_some_iff_mem l.distinct).1 hh
  · simp [hv, hreg]

theorem mem_registries_of_built {l : Loader} {q : ExtensionPoint} {reg : Registry}
    (hl : w.store.loaders[home]? = some l) (hq : q ∈ w.points) (hv : q.invalid? = none)
    (hn : l.built? q.typeId = none) (hreg : l.registryOf? w.store.files q = some reg) :
    (q.typeId, reg) ∈ w.registries := by
  rw [registries, hl]
  refine List.mem_append_right _ (List.mem_filterMap.2 ⟨q, ?_, by rw [hreg]; rfl⟩)
  simp [hq, hv, hn]

theorem mem_offers {reg : Registry} {k : String} {p : ProviderClass} {key : Option String}
    (hk : reg.effectiveKey key = some k) (hp : reg.index.get? k = some p) : (k, p) ∈ reg.offers := by
  refine List.mem_filter.2 ⟨Keyed.mem_of_get? hp, ?_⟩
  rw [Registry.effectiveKey, Option.or_eq_some_iff] at hk
  simp only [decide_eq_true_eq]
  rcases hk with hk | ⟨-, hk⟩
  · left
    have hne : k ≠ "" := by
      have := (Option.filter_eq_some_iff.1 hk).2
      simpa using this
    simp [Registry.effectiveKey, Option.filter, hne]
  · right
    simpa [Registry.effectiveKey] using hk

theorem mem_pairs {ty : Nat} {reg : Registry} (h : (ty, reg) ∈ w.registries) {k : String} {p : ProviderClass}
    {key : Option String} (hk : reg.effectiveKey key = some k) (hp : reg.index.get? k = some p) :
    (ty, k) ∈ w.pairs :=
  List.mem_flatMap.2 ⟨(ty, reg), h, List.mem_map.2 ⟨(k, p), mem_offers hk hp, rfl⟩⟩

theorem dependsOn {ty : Nat} {reg : Registry} (h : (ty, reg) ∈ w.registries) {k : String} {p : ProviderClass}
    {key : Option String} (hk : reg.effectiveKey key = some k) (hp : reg.index.get? k = some p)
    {q : ExtensionPoint} {need : Option String} (hf : p.factory = .needs q need) {reg' : Registry}
    (h' : (q.typeId, reg') ∈ w.registries) {k' : String} (hk' : reg'.effectiveKey need = some k') :
    w.DependsOn (ty, k) (q.typeId, k') := by
  refine List.mem_flatMap.2 ⟨(ty, reg), h, List.mem_flatMap.2 ⟨(k, p), mem_offers hk hp, ?_⟩⟩
  rw [Factory.need?_eq_some.2 hf, Option.elim_some]
  refine List.mem_filterMap.2 ⟨(q.typeId, reg'), List.mem_filter.2 ⟨h', by simp⟩, ?_⟩
  rw [hk']
  rfl

/-- A store that a program comes to that starts in the world and brings in no other loader: its home loader
keeps no registries but those of the world. -/
structure Later (w : World) (t : Store) : Prop where
  coherent : Coherent t
  stocked : t.Stocked
  grows : Grows w.store t
  profiles : t.profiles = w.store.profiles
  kept : ∀ ty r reg, t.built? home ty = some r → t.registries[r]? = some reg → (ty, reg.bare) ∈ w.registries

/-- The requests of such a program: those for registries are for extension points of the world. -/
def Admits (w : World) : Request → Prop
  | .addLoader _ _ => False
  | .registry _ p => p ∈ w.points
  | _ => True

namespace Later

variable {s t : Store}

theorem refl (h : Coherent w.store) (hs : w.store.Stocked) : w.Later w.store :=
  ⟨h, hs, Grows.refl _, rfl, fun _ _ _ => mem_registries_of_kept⟩

theorem needed_mem (h : w.Later t) {r : RegistryId} {k : String} {p : ProviderClass}
    (hp : t.class? r k = some p) {q : ExtensionPoint} {need : Option String} (hf : p.factory = .needs q need) :
    q ∈ w.points := by
  obtain ⟨reg, hreg, hp⟩ := Option.bind_eq_some_iff.1 hp
  obtain ⟨l, hl, hst⟩ := h.stocked.all r reg hreg
  have hcat : l.catalog ∈ w.store.loaders.map (·.catalog) := by
    rw [← catalogs_of_profiles h.profiles]
    exact List.mem_map_of_mem (f := fun x : Loader => x.catalog) hl
  obtain ⟨m, hm, hcat⟩ := List.mem_map.1 hcat
  have hneed : p.factory.need?.map (·.1) = some q := by rw [Factory.need?_eq_some.2 hf, Option.map_some]
  refine w.closed q (List.mem_flatMap.2 ⟨m, hm, List.mem_filterMap.2 ⟨p, ?_, hneed⟩⟩)
  rw [hcat]
  exact (hst k p hp).1

theorem bare_mem (h : w.Later s) (hg : Grows s t) {ty : Nat} {r : RegistryId} {reg : Registry}
    (hr : s.built? home ty = some r) (hreg : t.registries[r]? = some reg) : (ty, reg.bare) ∈ w.registries := by
  obtain ⟨old, hold, -⟩ := h.coherent.typed _ _ _ hr
  obtain ⟨reg', hreg', hbare⟩ := hg.bare hold
  rw [hreg, Option.some.injEq] at hreg'
  rw [hreg', hbare]
  exact h.kept ty r old hr hold

theorem next (h : w.Later s) (hg : Grows s t) (hc : Coherent t) (hs : t.Stocked)
    (hp : t.profiles = s.profiles) (hk : ∀ ty, t.built? home ty = s.built? home ty) : w.Later t := by
  refine ⟨hc, hs, h.grows.trans hg, hp.trans h.profiles, ?_⟩
  intro ty r reg hr hreg
  exact h.bare_mem hg (hk ty ▸ hr) hreg

/-- A registry that comes to be kept is the one that the home loader of the world can build. -/
theorem request {c : RegistryCall} (h : w.Later c.store) (hq : c.loader = home → c.point ∈ w.points) :
    w.Later c.reply.store := by
  refine ⟨RegistryCall.coherent_reply h.coherent, invariant_stocked.request c h.stocked,
    h.grows.trans c.grows_reply, c.profiles_reply.trans h.profiles, ?_⟩
  intro ty r reg hr hreg
  have hkeeps : c.store.built? home ty = some r → (ty, reg.bare) ∈ w.registries := fun hr =>
    h.bare_mem c.grows_reply hr hreg
  have hc := c.course
  generalize c.reply = a at hc hr hreg
  cases hc with
  | invalid | absent | cached => exact hkeeps hr
  | failed => exact hkeeps (by rwa [RegistryCall.built?_asked] at hr)
  | @built l new hv hl hn hb =>
    rw [RegistryCall.built?_keeping hl] at hr
    split at hr
    · rename_i hty
      obtain ⟨hhome, rfl⟩ := hty
      cases hr
      obtain rfl : new = reg := by
        rw [RegistryCall.registries_keeping, List.getElem?_concat_length, Option.some.injEq] at hreg
        exact hreg
      obtain ⟨l', hl', hprofile⟩ := loader_of_profiles h.profiles (hhome ▸ hl)
      -- the world's loader has not built it, else it would still be kept
      have hn' : l'.built? c.point.typeId = none := by
        rw [Option.eq_none_iff_forall_ne_some]
        intro r' hr'
        have hkept := h.grows.kept home c.point.typeId r' (by simp [Store.built?, hl', hr'])
        rw [← hhome, Store.built?, hl, Option.bind_some, hn] at hkept
        cases hkept
      have hof := Loader.registryOf?_of_build hb
      rw [h.grows.files, ← Loader.registryOf?_of_profile hprofile] at hof
      have hbare : new.bare = new := by
        rw [Registry.bare, ← (RegistryCall.build_ok hb).2]
      rw [hbare]
      exact mem_registries_of_built hl' (hq hhome) hv hn' hof
    · exact hkeeps hr

theorem started {c : LookupCall} (h : w.Later c.store) : w.Later c.started := by
  refine h.next c.grows_started (LookupCall.coherent_started h.coherent)
    (invariant_stocked.started h.stocked) (profiles_of_loaders c.loaders_started) ?_
  intro ty
  rw [Store.built?, c.loaders_started, Store.built?]

theorem needed {c : LookupCall} (h : w.Later c.store) {n : RegistryCall × Option String}
    (hn : c.needed? = some n) : w.Later n.1.reply.store := by
  obtain ⟨point, k, p, hs, hf, -⟩ := LookupCall.needed_spec hn
  refine request ?_ fun _ => h.needed_mem (LookupCall.settled_due hs).2.2.1 hf
  rw [LookupCall.needed_store hn]
  exact h.started

theorem inner {c d : LookupCall} (h : w.Later c.store) (hi : c.inner? = some d) : w.Later d.store := by
  obtain ⟨_, _, _, n, -, hn, hd, -⟩ := LookupCall.inner_spec hi
  exact hd ▸ h.needed hn

theorem lookup (c : LookupCall) : w.Later c.store → w.Later c.reply.store := by
  induction c using LookupCall.nested_induction with
  | step c ih =>
    intro h
    have hworked : w.Later c.worked := by
      cases c.work with
      | alone _ _ he => exact he ▸ h.started
      | ungiven hn _ he => exact he ▸ h.needed hn
      | nested _ hi _ he => exact he ▸ ih _ hi (h.inner hi)
    refine hworked.next (c.steady h.coherent).ends (c.coherent_reply h.coherent)
      (invariant_stocked.lookup c h.stocked) (profiles_of_loaders c.loaders_reply) ?_
    intro ty
    rw [Store.built?, c.loaders_reply, Store.built?]

theorem step (h : w.Later s) {q : Request} (hq : w.Admits q) : w.Later (s.step q).store := by
  cases hc : q.lookup? s with
  | some c =>
    obtain rfl := store_lookup? hc
    rw [(step_lookup hc).1]
    exact lookup c h
  | none =>
    cases q with
    | addLoader => exact absurd hq id
    | registry l p => exact request (c := ⟨s, l, p⟩) h fun _ => hq
    | detachedRegistry l p =>
      refine h.next (grows_detachedRegistry s l p) (h.coherent.detachedRegistry l p)
        (invariant_stocked.detached s l p h.stocked) (s.profiles_detached l p) ?_
      have hquiet : Quiet False s (s.detachedRegistry l p).store := quiet_detachedRegistry h.coherent l p id
      exact hquiet.built? home
    | provider | providerOrDefault | providerByKeyClass | optionalProvider
    | optionalProviderByKeyClass => cases hc

theorem after (h : w.Later s) {qs : List Request} (hqs : ∀ q ∈ qs, w.Admits q) : w.Later (s.after qs) := by
  induction qs generalizing s with
  | nil => exact h
  | cons q qs ih =>
    exact ih (h.step (hqs q List.mem_cons_self)) fun p hp => hqs p (List.mem_cons_of_mem q hp)

end Later

end World

end ProviderRegistry
