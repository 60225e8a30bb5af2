import ProviderRegistry.Proofs.NestingDepth
import ProviderRegistry.Proofs.RunMoments
import ProviderRegistry.Proofs.SingleInstance
import ProviderRegistry.Proofs.SingleRegistry

/-! What a step leaves alone. A request for a registry reaches one holder of one loader; a lookup reaches
one holder of one registry and, when its factory looks something up, those that the requests and lookups
inside reach, which are all on the home loader. Whatever a step reaches it only adds to: holders are added
or filled with something new, and all else is as it was before. -/

namespace ProviderRegistry

open Store

/-- How a holder may come to change: it is added, or it is filled with something new. -/
inductive Holder.Gains {α : Type} (new : α → Prop) : Option (Holder α) → Option (Holder α) → Prop
  | same (h : Option (Holder α)) : Gains new h h
  | added : Gains new none (some .empty)
  | filled {h : Option (Holder α)} {v : α} (hh : h.bind (·.value) = none) (hv : new v) :
      Gains new h (some ⟨some v⟩)

theorem Holder.Gains.trans {α : Type} {new new' : α → Prop} {a b c : Option (Holder α)} (h : Gains new a b)
    (h' : Gains new' b c) (hnew : ∀ v, new' v → new v) : Gains new a c := by
  cases h' with
  | same => exact h
  | added =>
    cases h with
    | same => exact .added
  | filled hh hv =>
    refine .filled ?_ (hnew _ hv)
    cases h with
    | same => exact hh
    | added => rfl
    | filled => cases hh

namespace Loader

theorem lookup_put (l : Loader) (ty u : Nat) (h : Holder RegistryId) :
    (l.put ty h).holders.lookup u = if u = ty then some h else l.holders.lookup u := by
  unfold put
  rw [List.lookup_cons]
  by_cases hu : u = ty
  · simp [hu]
  · have hb : (u == ty) = false := by simpa using hu
    simp only [hb, hu, if_false, lookup_filter_ne hu]

theorem lookup_touch (l : Loader) (ty u : Nat) : (l.touch ty).holders.lookup u =
    if u = ty then some ((l.holders.lookup ty).getD .empty) else l.holders.lookup u := by
  unfold touch
  split
  · rename_i h hl
    split
    · rename_i hu
      rw [hu, hl]
      rfl
    · rfl
  · rename_i hl
    rw [lookup_put, hl]
    rfl

end Loader

namespace Registry

theorem get?_cells_touch (reg : Registry) (k j : String) : Keyed.get? j (reg.touch k).cells =
    if k = j then some ((Keyed.get? k reg.cells).getD .empty) else Keyed.get? j reg.cells := by
  unfold touch
  split
  · rename_i h hh
    split
    · rename_i hk
      rw [← hk, hh]
      rfl
    · rfl
  · rename_i hh
    split
    · rename_i hk
      rw [← hk, Keyed.get?_put_self, hh]
      rfl
    · rename_i hk
      rw [Keyed.get?_put_ne hk]

theorem get?_cells_fill (reg : Registry) (k j : String) (i : InstanceId) : Keyed.get? j (reg.fill k i).cells =
    if k = j then some ⟨some i⟩ else Keyed.get? j reg.cells := by
  unfold fill
  split
  · rename_i hk
    rw [← hk, Keyed.get?_put_self]
  · rename_i hk
    rw [Keyed.get?_put_ne hk]

end Registry

namespace Store

variable {s t u : Store}

def holder? (s : Store) (j : LoaderId) (ty : Nat) : Option (Holder RegistryId) :=
  s.loaders[j]?.bind (·.holders.lookup ty)

def cell? (s : Store) (r : RegistryId) (k : String) : Option (Holder InstanceId) :=
  s.registries[r]?.bind fun reg => Keyed.get? k reg.cells

theorem built?_eq_holder? (s : Store) (j : LoaderId) (ty : Nat) :
    s.built? j ty = (s.holder? j ty).bind (·.value) := by
  rw [holder?, Option.bind_assoc]
  rfl

theorem instance?_eq_cell? (s : Store) (r : RegistryId) (k : String) :
    s.instance? r k = (s.cell? r k).bind (·.value) := by
  rw [cell?, Option.bind_assoc]
  rfl

/-- What a step reaches: loaders that it asks, the types whose holders it may touch there, and the keys
whose holders it may touch in registries. -/
structure Reach where
  loader : LoaderId → Prop
  type : LoaderId → Nat → Prop
  key : RegistryId → String → Prop

def Reach.asking (i : LoaderId) : Reach := ⟨(· = i), fun _ _ => False, fun _ _ => False⟩

def Reach.keyOf (r : RegistryId) (k : String) : Reach :=
  ⟨fun _ => False, fun _ _ => False, fun r' k' => r' = r ∧ k' = k⟩

def Reach.nothing : Reach := ⟨fun _ => False, fun _ _ => False, fun _ _ => False⟩

/-- A step changes nothing but what it reaches, and there it only adds: loaders it does not ask and
registries in which it reaches no key are the same; of the others the catalogs, extension points and
indexes are; holders it does not reach are the same, and those it does reach gain at most a registry or
an instance that was not there before. -/
structure Frame (reach : Reach) (s t : Store) : Prop where
  grows : Grows s t
  loader : ∀ (j : LoaderId) (l : Loader), s.loaders[j]? = some l → ¬reach.loader j → t.loaders[j]? = some l
  registry : ∀ (r : RegistryId) (reg : Registry), s.registries[r]? = some reg → (∀ k, ¬reach.key r k) →
    t.registries[r]? = some reg
  holder : ∀ j ty, ¬reach.type j ty → t.holder? j ty = s.holder? j ty
  cell : ∀ r k, ¬reach.key r k → t.cell? r k = s.cell? r k
  gainsRegistry : ∀ j ty, Holder.Gains (s.registries.length ≤ ·) (s.holder? j ty) (t.holder? j ty)
  gainsInstance : ∀ r k, Holder.Gains (s.instances.length ≤ ·) (s.cell? r k) (t.cell? r k)

namespace Frame

variable {reach reach' : Reach}

theorem refl (reach : Reach) (s : Store) : Frame reach s s :=
  ⟨.refl s, fun _ _ h _ => h, fun _ _ h _ => h, fun _ _ _ => rfl, fun _ _ _ => rfl, fun _ _ => .same _,
    fun _ _ => .same _⟩

theorem trans (h : Frame reach s t) (h' : Frame reach t u) : Frame reach s u := by
  have hregs : s.registries.length ≤ t.registries.length := by
    simpa using h.grows.registries.length_le
  refine ⟨h.grows.trans h'.grows, ?_, ?_, ?_, ?_, ?_, ?_⟩
  · intro j l hl hj
    exact h'.loader j l (h.loader j l hl hj) hj
  · intro r reg hr hk
    exact h'.registry r reg (h.registry r reg hr hk) hk
  · intro j ty hj
    rw [h'.holder j ty hj, h.holder j ty hj]
  · intro r k hk
    rw [h'.cell r k hk, h.cell r k hk]
  · intro j ty
    exact (h.gainsRegistry j ty).trans (h'.gainsRegistry j ty) fun _ hv => hregs.trans hv
  · intro r k
    exact (h.gainsInstance r k).trans (h'.gainsInstance r k) fun _ hv => h.grows.instances.length_le.trans hv

theorem mono (h : Frame reach s t) (hl : ∀ j, reach.loader j → reach'.loader j)
    (ht : ∀ j ty, reach.type j ty → reach'.type j ty) (hk : ∀ r k, reach.key r k → reach'.key r k) :
    Frame reach' s t :=
  ⟨h.grows, fun j l hj hn => h.loader j l hj fun hr => hn (hl j hr),
    fun r reg hr hn => h.registry r reg hr fun k hr => hn k (hk r k hr),
    fun j ty hn => h.holder j ty fun hr => hn (ht j ty hr), fun r k hn => h.cell r k fun hr => hn (hk r k hr),
    h.gainsRegistry, h.gainsInstance⟩

end Frame

theorem frame_modifyRegistry {f : Registry → Registry} {r : RegistryId} {k : String}
    (hg : Grows s t) (hl : t.loaders = s.loaders) (hr : t.registries = s.registries.modify r f)
    (hcells : ∀ reg j, j ≠ k → Keyed.get? j (f reg).cells = Keyed.get? j reg.cells)
    (hgain : Holder.Gains (s.instances.length ≤ ·) (s.cell? r k) (t.cell? r k)) :
    Frame (.keyOf r k) s t := by
  have hholder : ∀ j ty, t.holder? j ty = s.holder? j ty := fun j ty => by rw [holder?, hl, holder?]
  have hregistry : ∀ r', r' ≠ r → t.registries[r']? = s.registries[r']? := by
    intro r' hne
    cases hreg : s.registries[r']? <;> simp [hr, Ne.symm hne, hreg]
  have hcell : ∀ r' k', ¬(r' = r ∧ k' = k) → t.cell? r' k' = s.cell? r' k' := by
    intro r' k' hne
    by_cases hr' : r' = r
    · subst hr'
      have hk : k' ≠ k := fun hk => hne ⟨rfl, hk⟩
      cases hreg : s.registries[r']? <;> simp [cell?, hr, hreg, hcells _ _ hk]
    · rw [cell?, hregistry r' hr', cell?]
  refine ⟨hg, ?_, ?_, fun j ty _ => hholder j ty, hcell, ?_, ?_⟩
  · intro j l hj _
    rw [hl, hj]
  · intro r' reg hreg hk
    rw [hregistry r' fun he => hk k ⟨he, rfl⟩, hreg]
  · intro j ty
    rw [hholder]
    exact .same _
  · intro r' k'
    by_cases he : r' = r ∧ k' = k
    · obtain ⟨rfl, rfl⟩ := he
      exact hgain
    · rw [hcell r' k' he]
      exact .same _

theorem frame_start {r : RegistryId} {k : String} (hn : s.instance? r k = none) (c : ProviderClass) :
    Frame (.keyOf r k) s (s.start r k c) := by
  refine frame_modifyRegistry (f := (·.touch k)) (grows_start hn c) rfl rfl ?_ ?_
  · intro reg j hj
    rw [Registry.get?_cells_touch, if_neg (Ne.symm hj)]
  · cases hreg : s.registries[r]? with
    | none => simp [cell?, start, hreg, Holder.Gains.same]
    | some reg =>
      have hcell : (s.start r k c).cell? r k = some ((s.cell? r k).getD .empty) := by
        simp [cell?, start, hreg, Registry.get?_cells_touch]
      rw [hcell]
      cases s.cell? r k with
      | none => exact .added
      | some h => exact .same _

theorem frame_finish {r : RegistryId} {k : String} {c : ProviderClass} (hc : s.class? r k = some c)
    (hn : s.instance? r k = none) : Frame (.keyOf r k) s (s.finish r k c).store := by
  refine frame_modifyRegistry (f := (·.fill k s.instances.length)) (grows_finish hc hn) rfl rfl ?_ ?_
  · intro reg j hj
    rw [Registry.get?_cells_fill, if_neg (Ne.symm hj)]
  · obtain ⟨reg, hreg, -⟩ := Option.bind_eq_some_iff.1 hc
    have hcell : (s.finish r k c).store.cell? r k = some ⟨some s.instances.length⟩ := by
      simp [cell?, finish, hreg, Registry.get?_cells_fill]
    rw [hcell]
    exact .filled (by rw [← instance?_eq_cell?, hn]) le_rfl

theorem frame_addLoader (s : Store) (locator : Locator) (catalog : Catalog) :
    Frame .nothing s (s.addLoader (.new locator catalog)).1 := by
  have hholder : ∀ j ty, (s.addLoader (.new locator catalog)).1.holder? j ty = s.holder? j ty := by
    intro j ty
    rw [holder?, holder?, addLoader, List.getElem?_append]
    split
    · rfl
    · rename_i hj
      rw [List.getElem?_eq_none (Nat.le_of_not_lt hj), List.getElem?_singleton]
      split <;> rfl
  refine ⟨grows_addLoader s locator catalog, ?_, fun _ _ h _ => h, fun j ty _ => hholder j ty,
    fun _ _ _ => rfl, fun j ty => ?_, fun _ _ => .same _⟩
  · intro j l hl _
    exact getElem?_of_prefix (List.prefix_append _ _) hl
  · rw [hholder]
    exact .same _

theorem holder?_modifyLoader (s : Store) (i j : LoaderId) (f : Loader → Loader) (ty : Nat) :
    (s.modifyLoader i f).holder? j ty =
      if i = j then s.loaders[j]?.bind fun l => (f l).holders.lookup ty else s.holder? j ty := by
  rw [holder?, loaders_modifyLoader]
  split
  · cases s.loaders[j]? <;> rfl
  · rfl

theorem cell?_addRegistry (s : Store) {reg : Registry} (h : reg.cells = []) (r : RegistryId) (k : String) :
    (s.addRegistry reg).1.cell? r k = s.cell? r k := by
  rw [cell?, cell?, addRegistry, List.getElem?_append]
  split
  · rfl
  · rename_i hr
    rw [List.getElem?_eq_none (Nat.le_of_not_lt hr), List.getElem?_singleton]
    split
    · simp [h, Keyed.get?]
    · rfl

theorem frame_setLocator (s : Store) (i : LoaderId) (locator : Locator) :
    Frame (.asking i) s (s.setLocator i locator) := by
  have hholder : ∀ j ty, (s.setLocator i locator).holder? j ty = s.holder? j ty := by
    intro j ty
    rw [setLocator, holder?_modifyLoader]
    split <;> rfl
  refine ⟨grows_setLocator s i locator, ?_, fun _ _ h _ => h, fun j ty _ => hholder j ty,
    fun _ _ _ => rfl, fun j ty => ?_, fun _ _ => .same _⟩
  · intro j l hl hj
    rw [setLocator, loaders_modifyLoader, if_neg (Ne.symm hj), hl]
  · rw [hholder]
    exact .same _

theorem frame_addRegistry (s : Store) {reg : Registry} (h : reg.cells = []) (reach : Reach) :
    Frame reach s (s.addRegistry reg).1 := by
  refine ⟨grows_addRegistry s h, fun _ _ hl _ => hl, ?_, fun _ _ _ => rfl,
    fun r k _ => cell?_addRegistry s h r k, fun _ _ => .same _, fun r k => ?_⟩
  · intro r reg' hr _
    exact getElem?_of_prefix (List.prefix_append _ _) hr
  · rw [cell?_addRegistry s h]
    exact .same _

theorem frame_detachedRegistry (s : Store) (i : LoaderId) (p : ExtensionPoint) :
    Frame (.asking i) s (s.detachedRegistry i p).store := by
  unfold detachedRegistry
  split
  · exact .refl _ s
  · dsimp only
    split
    · exact frame_setLocator ..
    · rename_i hb
      exact (frame_setLocator ..).trans (frame_addRegistry _ (RegistryCall.build_ok hb).2 _)

theorem frame_holder {i : LoaderId} {ty : Nat} (hg : Grows s t)
    (hl : ∀ j, i ≠ j → t.loaders[j]? = s.loaders[j]?) (hh : ∀ u, u ≠ ty → t.holder? i u = s.holder? i u)
    (hgain : Holder.Gains (s.registries.length ≤ ·) (s.holder? i ty) (t.holder? i ty))
    (hr : s.registries <+: t.registries) (hc : ∀ r k, t.cell? r k = s.cell? r k) :
    Frame ⟨(· = i), fun j u => j = i ∧ u = ty, fun _ _ => False⟩ s t := by
  have hholder : ∀ j u, ¬(j = i ∧ u = ty) → t.holder? j u = s.holder? j u := by
    intro j u hne
    by_cases hj : j = i
    · subst hj
      exact hh u fun hu => hne ⟨rfl, hu⟩
    · rw [holder?, hl j (Ne.symm hj), holder?]
  refine ⟨hg, ?_, fun r reg hreg _ => getElem?_of_prefix hr hreg, hholder, fun r k _ => hc r k, ?_, ?_⟩
  · intro j l hj hne
    rw [hl j (Ne.symm hne), hj]
  · intro j u
    by_cases he : j = i ∧ u = ty
    · obtain ⟨rfl, rfl⟩ := he
      exact hgain
    · rw [hholder j u he]
      exact .same _
  · intro r k
    rw [hc]
    exact .same _

end Store

namespace RegistryCall

variable {c : RegistryCall}

/-- What a request for a registry reaches. -/
def reach (c : RegistryCall) : Reach :=
  ⟨(· = c.loader), fun j ty => j = c.loader ∧ ty = c.point.typeId, fun _ _ => False⟩

theorem holder?_asked (c : RegistryCall) (next : Locator) (ty : Nat) : (c.asked next).holder? c.loader ty =
    c.store.loaders[c.loader]?.bind fun l => (l.touch c.point.typeId).holders.lookup ty := by
  rw [holder?, loaders_asked, if_pos rfl]
  cases c.store.loaders[c.loader]? <;> rfl

theorem frame_asked (c : RegistryCall) (next : Locator) : Frame c.reach c.store (c.asked next) := by
  refine frame_holder (grows_asked c next) ?_ ?_ ?_ (List.prefix_refl _) fun _ _ => rfl
  · intro j hj
    rw [loaders_asked, if_neg hj]
  · intro ty hty
    rw [holder?_asked, holder?]
    exact congrArg _ (funext fun l => by rw [Loader.lookup_touch, if_neg hty])
  · rw [holder?_asked, holder?]
    cases c.store.loaders[c.loader]? with
    | none => exact .same _
    | some l =>
      rw [Option.bind_some, Option.bind_some, Loader.lookup_touch, if_pos rfl]
      cases l.holders.lookup c.point.typeId with
      | none => exact .added
      | some h => exact .same _

theorem frame_keeping {l : Loader} {reg : Registry} (hl : c.store.loaders[c.loader]? = some l)
    (hn : l.built? c.point.typeId = none) (hr : reg.cells = []) (next : Locator) :
    Frame c.reach c.store (c.keeping next reg) := by
  have hkept : (c.keeping next reg).loaders[c.loader]? =
      some (({ l.touch c.point.typeId with locator := next } : Loader).fill c.point.typeId
        c.store.registries.length) := by
    rw [loaders_keeping, if_pos rfl, loaders_asked, if_pos rfl, hl]
    rfl
  refine frame_holder (grows_keeping hl hn hr next) ?_ ?_ ?_ ?_ (cell?_addRegistry (c.asked next) hr)
  · intro j hj
    rw [loaders_keeping, if_neg hj, loaders_asked, if_neg hj]
  · intro ty hty
    rw [holder?, holder?, hkept, hl, Option.bind_some, Option.bind_some, Loader.fill, Loader.lookup_put,
      if_neg hty, Loader.lookup_touch, if_neg hty]
  · have hempty : (c.store.holder? c.loader c.point.typeId).bind (·.value) = none := by
      rw [← built?_eq_holder?, built?, hl]
      exact hn
    have hfilled : (c.keeping next reg).holder? c.loader c.point.typeId =
        some ⟨some c.store.registries.length⟩ := by
      rw [holder?, hkept, Option.bind_some, Loader.fill, Loader.lookup_put, if_pos rfl]
    rw [hfilled]
    exact .filled hempty le_rfl
  · rw [registries_keeping]
    exact List.prefix_append _ _

theorem frame (c : RegistryCall) : Frame c.reach c.store c.reply.store := by
  have hc := c.course
  generalize c.reply = a at hc
  cases hc with
  | invalid | absent | cached => exact .refl _ _
  | failed => exact frame_asked c _
  | built _ hl hn hb => exact frame_keeping hl hn (build_ok hb).2 _

end RegistryCall

namespace LookupCall

variable {c : LookupCall}

/-- What a lookup reaches: its own key, and all that the requests and lookups inside factories reach. -/
def reach (c : LookupCall) : Reach :=
  ⟨fun j => ∃ n ∈ c.requests, n.reach.loader j, fun j ty => ∃ n ∈ c.requests, n.reach.type j ty,
    fun r k => ∃ d ∈ c.chain, d.registry = r ∧ d.effectiveKey = some k⟩

theorem frame_own {s t : Store} {point k : String} {p : ProviderClass} (hs : c.settled = .due point k p)
    (h : Frame (.keyOf c.registry k) s t) : Frame c.reach s t := by
  refine h.mono (fun _ => False.elim) (fun _ _ => False.elim) ?_
  rintro r k' ⟨rfl, rfl⟩
  exact ⟨c, c.chain_eq ▸ List.mem_cons_self, rfl, (settled_due hs).1⟩

theorem frame_started (c : LookupCall) : Frame c.reach c.store c.started := by
  unfold started
  split
  · rename_i hs
    exact frame_own hs (frame_start (settled_due hs).2.1 _)
  · exact .refl _ _

theorem frame_needed {n : RegistryCall × Option String} (hn : c.needed? = some n) :
    Frame c.reach c.started n.1.reply.store := by
  have hmem : n.1 ∈ c.requests := by
    rw [c.requests_eq, hn]
    simp
  refine needed_store hn ▸ n.1.frame.mono ?_ ?_ fun _ _ => False.elim
  · exact fun j hj => ⟨n.1, hmem, hj⟩
  · exact fun j ty hj => ⟨n.1, hmem, hj⟩

theorem frame_inner {d : LookupCall} (hi : c.inner? = some d) {s t : Store} (h : Frame d.reach s t) :
    Frame c.reach s t := by
  have hrequests : ∀ n ∈ d.requests, n ∈ c.requests := by
    intro n hn
    rw [c.requests_eq, hi]
    exact List.mem_append_right _ hn
  have hchain : ∀ e ∈ d.chain, e ∈ c.chain := by
    intro e he
    rw [c.chain_eq, hi]
    exact List.mem_cons_of_mem _ he
  refine h.mono ?_ ?_ ?_
  · exact fun j ⟨n, hn, hj⟩ => ⟨n, hrequests n hn, hj⟩
  · exact fun j ty ⟨n, hn, hj⟩ => ⟨n, hrequests n hn, hj⟩
  · exact fun r k ⟨e, he, hk⟩ => ⟨e, hchain e he, hk⟩

/-- A lookup changes nothing but what it reaches, and there it only adds. -/
theorem frame (c : LookupCall) : Coherent c.store → Frame c.reach c.store c.reply.store := by
  induction c using nested_induction with
  | step c ih =>
    intro h
    have hworked : Frame c.reach c.store c.worked := by
      cases c.work with
      | alone _ _ he => exact he ▸ frame_started c
      | ungiven hn _ he => exact he ▸ (frame_started c).trans (frame_needed hn)
      | @nested n d hn hi hd he =>
        have hin : Frame d.reach d.store d.reply.store := ih d hi (hd ▸ (needed_steady h hn).1)
        exact he ▸ ((frame_started c).trans (frame_needed hn)).trans (hd ▸ frame_inner hi hin)
    have hc := c.course
    generalize c.reply = a at hc
    cases hc with
    | refused | cached => exact .refl _ _
    | fails => exact hworked
    | makes hs => exact hworked.trans (frame_own hs (frame_finish (class?_worked h hs) (worked_empty h hs)))

theorem requests_home (c : LookupCall) : ∀ n ∈ c.requests, n.loader = home := by
  intro n hn
  obtain ⟨d, -, hd⟩ := List.mem_filterMap.1 hn
  obtain ⟨m, hm, rfl⟩ := Option.map_eq_some_iff.1 hd
  obtain ⟨_, _, _, -, -, hcall⟩ := needed_spec hm
  rw [hcall]

theorem chain_home (c : LookupCall) : Coherent c.store → ∀ d ∈ c.chain,
    d = c ∨ ∃ ty, c.reply.store.built? home ty = some d.registry := by
  induction c using nested_induction with
  | step c ih =>
    intro h d hd
    rw [chain_eq] at hd
    rcases List.mem_cons.1 hd with rfl | hd
    · exact .inl rfl
    · right
      cases hi : c.inner? with
      | none => simp [hi] at hd
      | some e =>
        obtain ⟨point, k, p, q, hw⟩ := within_inner hi
        obtain ⟨hce, -⟩ := hw.coherent_grows h
        have hworked : c.worked = e.reply.store := by simp only [worked, hi]
        have hends := (c.steady h).ends
        rw [hworked] at hends
        rcases ih e hi hce d (by simpa [hi] using hd) with rfl | ⟨ty, hty⟩
        · exact ⟨_, hends.kept _ _ _ ((d.grows_reply hce).kept _ _ _ (hw.kept h))⟩
        · exact ⟨ty, hends.kept _ _ _ hty⟩

theorem chain_of_no_requests (h : c.requests = []) : c.chain = [c] := by
  have hn : c.needed? = none := by
    rw [requests_eq] at h
    cases hn : c.needed? with
    | none => rfl
    | some n => simp [hn] at h
  have hi : c.inner? = none := by
    unfold inner?
    split
    · rename_i hs
      rw [hn] at hs
      cases hs
    · rfl
  rw [chain_eq, hi]
  rfl

/-- What a lookup leaves as it was: every loader but the home loader and what it keeps, apart from the
registry that the lookup is made on; and if no factory looks anything up, that loader too. -/
structure LeavesOthers (c : LookupCall) : Prop where
  loaders : ∀ j, j ≠ home ∨ c.requests = [] → ∀ l, c.store.loaders[j]? = some l →
    c.reply.store.loaders[j]? = some l
  registries : ∀ (r : RegistryId) (reg : Registry), c.store.registries[r]? = some reg → r ≠ c.registry →
    (∀ ty, c.reply.store.built? home ty ≠ some r) ∨ c.requests = [] →
      c.reply.store.registries[r]? = some reg
  keys : ∀ k, c.effectiveKey ≠ some k →
    (∀ ty, c.reply.store.built? home ty ≠ some c.registry) ∨ c.requests = [] →
      c.reply.store.cell? c.registry k = c.store.cell? c.registry k
  kept : ∀ j ty r, j ≠ home → c.store.built? j ty = some r → r ≠ c.registry →
    c.reply.store.registries[r]? = c.store.registries[r]?

/-- What is reached in a registry that the home loader does not keep. -/
theorem reach_key {r : RegistryId} {k : String} (h : Coherent c.store) (hk : c.reach.key r k)
    (hr : (∀ ty, c.reply.store.built? home ty ≠ some r) ∨ c.requests = []) :
    r = c.registry ∧ c.effectiveKey = some k := by
  obtain ⟨d, hd, rfl, hk⟩ := hk
  have hdc : d = c := by
    rcases hr with hr | hr
    · rcases c.chain_home h d hd with hdc | ⟨ty, hty⟩
      · exact hdc
      · exact absurd hty (hr ty)
    · rw [chain_of_no_requests hr] at hd
      exact List.mem_singleton.1 hd
  subst hdc
  exact ⟨rfl, hk⟩

theorem leavesOthers (h : Coherent c.store) : c.LeavesOthers := by
  have hf := c.frame h
  have hregistries : ∀ (r : RegistryId) (reg : Registry), c.store.registries[r]? = some reg → r ≠ c.registry →
      (∀ ty, c.reply.store.built? home ty ≠ some r) ∨ c.requests = [] →
        c.reply.store.registries[r]? = some reg := by
    intro r reg hreg hne hr
    exact hf.registry r reg hreg fun k hk => hne (reach_key h hk hr).1
  refine ⟨?_, hregistries, ?_, ?_⟩
  · intro j hj l hl
    refine hf.loader j l hl ?_
    rintro ⟨n, hn, rfl⟩
    rcases hj with hj | hj
    · exact hj (c.requests_home n hn)
    · rw [hj] at hn
      cases hn
  · intro k hne hr
    exact hf.cell _ k fun hk => hne (reach_key h hk hr).2
  · intro j ty r hj hr hne
    obtain ⟨reg, hreg, -⟩ := h.typed j ty r hr
    -- what another loader keeps the home loader never comes to keep
    have hother : ∀ ty', c.reply.store.built? home ty' ≠ some r := fun ty' hhome =>
      hj ((c.coherent_reply h).owned _ _ _ _ _ (hf.grows.kept _ _ _ hr) hhome)
    rw [hreg, hregistries r reg hreg hne (.inl hother)]

end LookupCall

namespace Store

/-- In a run from nothing, at every moment: a new loader touches no other; a request for a registry reaches
the holder of its type on its loader and nothing else, and a registry built past a loader reaches no holder
at all; neither makes an instance. A lookup, be it one inside a factory, reaches what it and the lookups and
requests inside reach, and of that all but its own key is on the home loader and its registries; every other
loader with its registries stays the same, and so does the home loader if no factory looks anything up. What
is reached is only added to. Registries that different loaders keep are different, requests on different
loaders return different ones, and lookups on them different instances. -/
theorem steps_isolated (files : FileTree) (qs : List Request) :
    let s := empty files
    (∀ m ∈ s.moments qs,
      (∀ locator catalog, Frame .nothing m (m.addLoader (.new locator catalog)).1) ∧
      ∀ i p, Frame (RegistryCall.mk m i p).reach m (m.registry i p).store ∧
        (m.registry i p).store.instances = m.instances ∧
        Frame (.asking i) m (m.detachedRegistry i p).store ∧
        (m.detachedRegistry i p).store.instances = m.instances) ∧
    (∀ c ∈ s.lookups qs, Frame c.reach c.store c.reply.store ∧ (∀ n ∈ c.requests, n.loader = home) ∧
      (∀ d ∈ c.chain, d = c ∨ ∃ ty, c.reply.store.built? home ty = some d.registry) ∧ c.LeavesOthers) ∧
    (∀ before q later c, qs = before ++ q :: later → q.lookup? (s.after before) = some c →
      c ∈ s.lookups qs ∧ ((s.after before).step q).store = c.reply.store) ∧
    (∀ m ∈ s.moments qs, ∀ i j ty ty' r r', i ≠ j → m.built? i ty = some r → m.built? j ty' = some r' →
      r ≠ r' ∧ ∀ k k' x y, m.instance? r k = some x → m.instance? r' k' = some y → x ≠ y) ∧
    (∀ c ∈ s.registryCalls qs, ∀ d ∈ s.registryCalls qs, ∀ r r', c.loader ≠ d.loader →
      c.reply.result = .ok r → d.reply.result = .ok r' → r ≠ r') ∧
    ∀ c ∈ s.lookups qs, ∀ d ∈ s.lookups qs, ∀ i j ty ty' x y, i ≠ j →
      (s.after qs).built? i ty = some c.registry → (s.after qs).built? j ty' = some d.registry →
        c.reply.result = .ok x → d.reply.result = .ok y → x ≠ y := by
  intro s
  have h : Coherent s := coherent_empty files
  refine ⟨?_, ?_, ?_, ?_, ?_, ?_⟩
  · intro m _
    refine ⟨frame_addLoader m, fun i p => ?_⟩
    set c : RegistryCall := ⟨m, i, p⟩
    exact ⟨c.frame, c.instances_reply, frame_detachedRegistry m i p, instances_detachedRegistry m i p⟩
  · intro c hc
    have hcoh := (lookups_spec h qs hc).1
    exact ⟨c.frame hcoh, c.requests_home, c.chain_home hcoh, c.leavesOthers hcoh⟩
  · rintro before q later c rfl hc
    exact ⟨mem_lookups s before q later hc, (step_lookup hc).1⟩
  · intro m hm i j ty ty' r r' hne hr hr'
    have hcoh : Coherent m := coherent_moments h hm
    have hrr : r ≠ r' := by
      rintro rfl
      exact hne (hcoh.owned _ _ _ _ _ hr hr')
    refine ⟨hrr, ?_⟩
    rintro k k' x y hx hy rfl
    exact hrr (hcoh.apart _ _ _ _ _ hx hy).1
  · intro c hc d hd r r' hne hr hr' heq
    exact hne ((same_registry_iff hc hd hr hr').1 heq).1
  · intro c hc d hd i j ty ty' x y hne hi hj hx hy heq
    obtain ⟨hreg, -⟩ := (same_instance_iff h hc hd hx hy).1 heq
    rw [hreg] at hi
    exact hne ((h.after qs).owned _ _ _ _ _ hi hj)

def twinRun : List Request :=
  [codecLoader, codecLoader, .registry 0 codec, .registry 1 codec, .provider 1 (some "zip"),
    .provider 0 (some "zip")]

/-- The lookup on the second loader leaves that loader alone and the other registry of its extension point;
the home loader comes to keep a registry of what the factory needs. The instances are different ones. -/
theorem steps_isolated_twins :
    let s := empty (.ofCwd [])
    let c := (s.after (twinRun.take 4)).lookup 1 (some "zip")
    let d := (s.after (twinRun.take 5)).lookup 0 (some "zip")
    c.chain.length = 2 ∧ c.requests.length = 1 ∧ c.reply.result = .ok 1 ∧ d.reply.result = .ok 2 ∧
    Frame c.reach c.store c.reply.store ∧
    c.reply.store.registries[0]? = c.store.registries[0]? ∧
    (∃ l, c.store.loaders[1]? = some l ∧ c.reply.store.loaders[1]? = some l) ∧
    c.store.built? home sink.typeId = none ∧ c.reply.store.built? home sink.typeId = some 2 ∧
    (1 : InstanceId) ≠ 2 := by
  intro s c d
  obtain ⟨-, lookups, mem, -, -, apart⟩ := steps_isolated (.ofCwd []) twinRun
  obtain ⟨hc, -⟩ := mem (twinRun.take 4) _ _ c rfl rfl
  obtain ⟨hd, -⟩ := mem (twinRun.take 5) _ _ d rfl rfl
  obtain ⟨frame, -, -, others⟩ := lookups c hc
  have hci : c.reply.result = .ok 1 := by decide +kernel
  have hdi : d.reply.result = .ok 2 := by decide +kernel
  have hchain : c.chain.map (·.registry) = [1, 2] := by decide +kernel
  obtain ⟨l, hl⟩ : ∃ l, c.store.loaders[1]? = some l := Option.isSome_iff_exists.1 (by decide +kernel)
  obtain ⟨reg, hreg⟩ : ∃ reg, c.store.registries[0]? = some reg :=
    Option.isSome_iff_exists.1 (by decide +kernel)
  have hkept : c.reply.store.registries[0]? = some reg := by
    refine frame.registry 0 reg hreg ?_
    rintro k ⟨e, he, hzero, -⟩
    have hmem : e.registry ∈ c.chain.map (·.registry) := List.mem_map_of_mem he
    rw [hchain, hzero] at hmem
    simp at hmem
  refine ⟨by simpa using congrArg List.length hchain, by decide +kernel, hci, hdi, frame, ?_, ?_,
    by decide +kernel, by decide +kernel, ?_⟩
  · rw [hkept, hreg]
  · exact ⟨l, hl, others.loaders 1 (.inl (by decide)) l hl⟩
  · exact apart c hc d hd 1 0 codec.typeId codec.typeId 1 2 (by decide) (by decide +kernel)
      (by decide +kernel) hci hdi

end Store

end ProviderRegistry
