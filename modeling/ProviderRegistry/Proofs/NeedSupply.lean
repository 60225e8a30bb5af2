import ProviderRegistry.Proofs.NestingDepth
import ProviderRegistry.Proofs.RunMoments
import ProviderRegistry.Proofs.SingleInstance
import ProviderRegistry.Proofs.SingleRegistry

/-! What factories need. An instance whose factory needs a provider is completed after the instance it
was given, and that one stays where it was looked up, so needs always lead from an instance to one with
a lower number. A factory that is given nothing fails with that very fault as the cause; its key stays
empty, but what was completed on the way is kept, and later lookups and requests are answered with it. -/

namespace ProviderRegistry

open Store

namespace Store

variable {s t : Store}

/-- The instance that a factory is given which needs the provider of an extension point: that of the
home loader's registry under the key the need comes to there. -/
def Supplies (s : Store) (q : ExtensionPoint) (key : Option String) (j : InstanceId) : Prop :=
  ∃ r k, s.built? home q.typeId = some r ∧ s.effectiveKey r key = some k ∧ s.instance? r k = some j

/-- Whether an instance was made by a factory that was given another one. -/
def Needs (s : Store) (i j : InstanceId) : Prop :=
  ∃ p q key, s.instances[i]? = some p ∧ p.factory = .needs q key ∧ s.Supplies q key j

/-- Whatever the factory of an instance needed is there, with a lower number. -/
def Supplied (s : Store) : Prop :=
  ∀ i p q key, s.instances[i]? = some p → p.factory = .needs q key → ∃ j < i, s.Supplies q key j

theorem Supplies.grows {q : ExtensionPoint} {key : Option String} {j : InstanceId} (h : s.Supplies q key j)
    (hg : Grows s t) : t.Supplies q key j := by
  obtain ⟨r, k, hr, hk, hj⟩ := h
  exact ⟨r, k, hg.kept _ _ _ hr, hg.effectiveKey hk, hg.held _ _ _ hj⟩

theorem Supplies.unique {q : ExtensionPoint} {key : Option String} {i j : InstanceId}
    (h : s.Supplies q key i) (h' : s.Supplies q key j) : i = j := by
  obtain ⟨r, k, hr, hk, hi⟩ := h
  obtain ⟨r', k', hr', hk', hj⟩ := h'
  rw [hr, Option.some.injEq] at hr'
  subst hr'
  rw [hk, Option.some.injEq] at hk'
  subst hk'
  exact Option.some.inj (hi.symm.trans hj)

theorem Supplied.lt (h : s.Supplied) {i j : InstanceId} (hn : s.Needs i j) : j < i := by
  obtain ⟨p, q, key, hp, hf, hj⟩ := hn
  obtain ⟨j', hlt, hj'⟩ := h i p q key hp hf
  rwa [hj.unique hj']

theorem Supplied.wellFounded (h : s.Supplied) : WellFounded fun j i => s.Needs i j :=
  Subrelation.wf h.lt Nat.lt_wfRel.wf

theorem Supplied.of_same (h : s.Supplied) (hg : Grows s t) (hi : t.instances = s.instances) : t.Supplied := by
  intro i p q key hp hf
  rw [hi] at hp
  obtain ⟨j, hlt, hj⟩ := h i p q key hp hf
  exact ⟨j, hlt, hj.grows hg⟩

theorem Supplied.finish (h : s.Supplied) {r : RegistryId} {k : String} {p : ProviderClass}
    (hg : Grows s (s.finish r k p).store)
    (hp : ∀ q key, p.factory = .needs q key → ∃ j < s.instances.length, s.Supplies q key j) :
    (s.finish r k p).store.Supplied := by
  intro i c q key hc hf
  have hc : (s.instances ++ [p])[i]? = some c := hc
  rcases Nat.lt_or_ge i s.instances.length with hi | hi
  · rw [List.getElem?_append_left hi] at hc
    obtain ⟨j, hlt, hj⟩ := h i c q key hc hf
    exact ⟨j, hlt, hj.grows hg⟩
  · rw [List.getElem?_append_right hi] at hc
    obtain rfl : c = p := by simpa using List.mem_of_getElem? hc
    obtain ⟨j, hlt, hj⟩ := hp q key hf
    exact ⟨j, Nat.lt_of_lt_of_le hlt hi, hj.grows hg⟩

end Store

theorem RegistryCall.supplied_reply (c : RegistryCall) (h : c.store.Supplied) : c.reply.store.Supplied :=
  h.of_same c.grows_reply c.instances_reply

namespace LookupCall

variable {c d : LookupCall}

theorem supplied_started (h : c.store.Supplied) : c.started.Supplied := by
  refine h.of_same (grows_started c) ?_
  unfold started
  split <;> rfl

theorem supplied_of_makes (h : Coherent c.store) {point k : String} {p : ProviderClass}
    (hs : c.settled = .due point k p) (hf : ∀ f, ¬c.Fails point k p f) {q : ExtensionPoint}
    {key : Option String} (hp : p.factory = .needs q key) :
    ∃ j < c.worked.instances.length, c.worked.Supplies q key j := by
  have hn : c.needed? = some (⟨c.started, Store.home, q⟩, key) := by simp only [needed?, hs, hp]
  cases hi : c.inner? with
  | none =>
    -- without the registry there is a fault
    exfalso
    cases hr : (RegistryCall.mk c.started Store.home q).reply.result with
    | error f => exact hf _ (.ungiven hn hr)
    | ok r => simp [inner?, hs, hn, hr] at hi
  | some d =>
    obtain ⟨point', k', p', q', hw⟩ := within_inner hi
    cases hs.symm.trans hw.due
    cases hp.symm.trans hw.needs
    obtain ⟨hc, -⟩ := hw.coherent_grows h
    have hg := d.grows_reply hc
    have hworked : c.worked = d.reply.store := by simp only [worked, hi]
    cases hr : d.reply.result with
    | error f => exact absurd (.missed hi hr) (hf _)
    | ok j =>
      obtain ⟨k', hk, hj⟩ := d.held_of_ok hc hr
      rw [hworked]
      exact ⟨j, (d.coherent_reply hc).instance_lt hj, d.registry, k',
        hg.kept _ _ _ (hw.kept h), hg.effectiveKey hk, hj⟩

/-- What a factory is not given: the registry it needs, or the provider there. -/
inductive Ungiven (c : LookupCall) : Fault → Prop
  | registry {n : RegistryCall × Option String} {f : BuildFault} (hn : c.needed? = some n)
      (hr : n.1.reply.result = .error f) : c.Ungiven f.fault
  | provider {d : LookupCall} {f : LookupFault} (hi : c.inner? = some d)
      (hr : d.reply.result = .error f) : c.Ungiven f.fault

/-- A lookup whose factory is not given what it needs: it fails with the fault of the need as the cause
and its key stays empty, but nothing is lost of what came about while the need was looked up. -/
structure Abandoned (c : LookupCall) (f : Fault) (point k : String) (p : ProviderClass) : Prop where
  due : c.settled = .due point k p
  failed : ∃ g, c.reply.result = .error g ∧
    g.fault = ⟨.state, LookupFault.notMade point k ++ ": " ++ f.shown, f.chain⟩
  empty : c.reply.store.instance? c.registry k = none
  held : ∀ m ∈ c.moments, ∀ r j i, m.instance? r j = some i → c.reply.store.instance? r j = some i
  kept : ∀ m ∈ c.moments, ∀ l ty r, m.built? l ty = some r → c.reply.store.built? l ty = some r

theorem Fails.of_needs {point k : String} {p : ProviderClass} {q : ExtensionPoint} {key : Option String}
    {g : LookupFault} (hs : c.settled = .due point k p) (hp : p.factory = .needs q key)
    (h : c.Fails point k p g) :
    (∃ f, (RegistryCall.mk c.started Store.home q).reply.result = .error f ∧ g = .needUnbuilt point k f) ∨
    ∃ d f, c.inner? = some d ∧ d.reply.result = .error f ∧ g = .needMissed point k f := by
  have hn : c.needed? = some (⟨c.started, Store.home, q⟩, key) := by simp only [needed?, hs, hp]
  cases h with
  | otherType hf | failed hf => rw [hp] at hf; cases hf
  | ungiven hn' hr =>
    rw [hn, Option.some.injEq] at hn'
    exact .inl ⟨_, by rw [← hn'] at hr; exact hr, rfl⟩
  | missed hi hr => exact .inr ⟨_, _, hi, hr, rfl⟩

theorem Ungiven.need {f : Fault} (h : c.Ungiven f) : ∃ point k p q key g,
    c.settled = .due point k p ∧ p.factory = .needs q key ∧ c.Fails point k p g ∧
      g.fault = f.wrap .state (LookupFault.notMade point k) ∧ ∀ g', c.Fails point k p g' → g' = g := by
  cases h with
  | @registry n f hn hr =>
    obtain ⟨point, k, p, hs, hp, hcall⟩ := needed_spec hn
    refine ⟨point, k, p, n.1.point, n.2, _, hs, hp, .ungiven hn hr, rfl, ?_⟩
    intro g' hg'
    rcases hg'.of_needs hs hp with ⟨f', hr', rfl⟩ | ⟨d, f', hi, -, -⟩
    · rw [← hcall, hr, Except.error.injEq] at hr'
      rw [hr']
    · obtain ⟨_, _, _, _, hw⟩ := within_inner hi
      cases hn.symm.trans hw.needed
      cases hr.symm.trans hw.given
  | @provider d f hi hr =>
    obtain ⟨point, k, p, q, hw⟩ := within_inner hi
    refine ⟨point, k, p, q, d.key, _, hw.due, hw.needs, .missed hi hr, rfl, ?_⟩
    intro g' hg'
    rcases hg'.of_needs hw.due hw.needs with ⟨f', hr', -⟩ | ⟨d', f', hi', hr', rfl⟩
    · rw [hw.given] at hr'
      cases hr'
    · cases hi.symm.trans hi'
      rw [hr, Except.error.injEq] at hr'
      rw [hr']

theorem Ungiven.abandoned (h : Coherent c.store) {f : Fault} (hu : c.Ungiven f) :
    ∃ point k p q key, p.factory = .needs q key ∧ c.Abandoned f point k p := by
  obtain ⟨point, k, p, q, key, g, hs, hp, hg, hfault, hunique⟩ := hu.need
  have hall := (c.ascending h).below
  have hempty := worked_empty h hs
  have hreply : c.reply.result = .error g ∧ c.reply.store = c.worked := by
    have hc := c.course
    generalize c.reply = a at hc
    cases hc with
    | refused hs' | cached hs' => rw [hs] at hs'; cases hs'
    | fails hs' hf =>
      rw [hs] at hs'
      cases hs'
      exact ⟨by rw [hunique _ hf], rfl⟩
    | makes hs' hf =>
      rw [hs] at hs'
      cases hs'
      exact absurd hg (hf g)
  refine ⟨point, k, p, q, key, hp, hs, ⟨g, hreply.1, hfault⟩, hreply.2 ▸ hempty, ?_, ?_⟩
  · intro m hm
    exact (hall m hm).held
  · intro m hm
    exact (hall m hm).kept

theorem settled_of_held (hd : 0 < c.depth) {k : String} {i : InstanceId} (hk : c.effectiveKey = some k)
    (hi : c.store.instance? c.registry k = some i) : c.settled = .cached i := by
  obtain ⟨reg, hr, hk⟩ := Option.bind_eq_some_iff.1 hk
  have hi : reg.instance? k = some i := by simpa [Store.instance?, hr] using hi
  obtain ⟨n, hn⟩ := Nat.exists_eq_add_one.2 hd
  simp only [settled, hn, settle, hr, hk, hi]

theorem reply_of_held (hd : 0 < c.depth) {k : String} {i : InstanceId} (hk : c.effectiveKey = some k)
    (hi : c.store.instance? c.registry k = some i) : c.reply = ⟨c.store, [], .ok i⟩ := by
  have hs := settled_of_held hd hk hi
  have hc := c.course
  generalize c.reply = a at hc ⊢
  cases hc with
  | cached hs' => rw [hs] at hs'; cases hs'; rfl
  | refused hs' | fails hs' | makes hs' => rw [hs] at hs'; cases hs'

end LookupCall

namespace Store

variable {s : Store}

/-- All lookups of a run return an instance that was there before the run. -/
theorem lookups_of_held (h : Coherent s) (hs : s.Stocked) {qs : List Request} {r : RegistryId} {k : String}
    {i : InstanceId} (hi : s.instance? r k = some i) {d : LookupCall} (hd : d ∈ s.lookups qs)
    (hr : d.registry = r) (hk : d.effectiveKey = some k) : d.reply = ⟨d.store, [], .ok i⟩ := by
  obtain ⟨-, hm, -⟩ := lookups_spec h qs hd
  have hg := (ascending_moments h qs).above _ hm
  exact d.reply_of_held (placed_lookups h hs qs d hd).depth_pos hk (hr ▸ hg.held _ _ _ hi)

theorem registryCalls_of_kept (h : Coherent s) {qs : List Request} {l : LoaderId} {q : ExtensionPoint}
    {r : RegistryId} (hr : s.built? l q.typeId = some r) (hv : q.invalid? = none) {d : RegistryCall}
    (hd : d ∈ s.registryCalls qs) (hl : d.loader = l) (hq : d.point = q) :
    d.reply = ⟨d.store, [], .ok r⟩ := by
  obtain ⟨pre, post, hsplit⟩ := List.append_of_mem hd
  have hf : Follows False s (s.registryCalls qs) (s.after qs) := follows_run h False.elim
  rw [hsplit] at hf
  have hpre := hf.split.1
  exact RegistryCall.reply_of_built hpre.coherent (hq ▸ hv) (hl ▸ hq ▸ hpre.grows.kept _ _ _ hr)

theorem abiding_supplied : Abiding Supplied where
  addLoader s locator catalog _ hs := hs.of_same (grows_addLoader s locator catalog) rfl
  detached s l p _ hs := hs.of_same (grows_detachedRegistry s l p) (instances_detachedRegistry s l p)
  request c _ := c.supplied_reply
  started _ _ := LookupCall.supplied_started
  makes _ _ _ _ h hw hs hf :=
    hw.finish (grows_finish (LookupCall.class?_worked h hs) (LookupCall.worked_empty h hs))
      fun _ _ hp => LookupCall.supplied_of_makes h hs hf hp

/-- In a run from nothing, at every moment: what the factory of a held instance needed is held by the
home loader's registry of the extension point needed, under the key that the need comes to there, and was
completed before; so following needs ends. A lookup whose factory is not given what it needs fails with
a fault of state that has the fault of the need at the head of its causes, and its key stays empty. What
came about while it went on is kept, and every later lookup and request is answered with it. -/
theorem needs_supplied (files : FileTree) (qs : List Request) :
    let s := empty files
    (∀ m ∈ s.moments qs,
      (∀ r k i p q key, m.instance? r k = some i → m.instances[i]? = some p → p.factory = .needs q key →
        ∃ r' k' j, m.built? home q.typeId = some r' ∧ m.effectiveKey r' key = some k' ∧
          m.instance? r' k' = some j ∧ j < i) ∧
      WellFounded fun j i => m.Needs i j) ∧
    (∀ c ∈ s.lookups qs, ∀ f, c.Ungiven f →
      ∃ point k p q key, p.factory = .needs q key ∧ c.Abandoned f point k p) ∧
    ∀ before q later c, qs = before ++ q :: later → q.lookup? (s.after before) = some c →
      ∀ d ∈ c.chain, ∀ m ∈ d.moments,
        (∀ r k i, m.instance? r k = some i → ∀ e ∈ (s.after (before ++ [q])).lookups later,
          e.registry = r → e.effectiveKey = some k → e.reply = ⟨e.store, [], .ok i⟩) ∧
        ∀ l p r, m.built? l p.typeId = some r → p.invalid? = none →
          ∀ e ∈ (s.after (before ++ [q])).registryCalls later, e.loader = l → e.point = p →
            e.reply = ⟨e.store, [], .ok r⟩ := by
  intro s
  have h : Coherent s := coherent_empty files
  refine ⟨?_, ?_, ?_⟩
  · intro m hm
    have hempty : s.Supplied := by
      intro i p q key hp
      cases hp
    have hs : m.Supplied := abiding_supplied.moments h hempty qs m hm
    refine ⟨?_, hs.wellFounded⟩
    intro r k i p q key _ hp hf
    obtain ⟨j, hlt, r', k', hr', hk', hj⟩ := hs i p q key hp hf
    exact ⟨r', k', j, hr', hk', hj, hlt⟩
  · intro c hc f hf
    exact hf.abandoned (lookups_spec h qs hc).1
  · rintro before q later c rfl hc d hd m hm
    have hb := h.after before
    have hcs := store_lookup? hc
    have hstep : s.after (before ++ [q]) = c.reply.store := by
      rw [after, List.foldl_append]
      exact (step_lookup hc).1
    -- what there was at a moment inside the lookup is there after the request
    have hg : Grows m (s.after (before ++ [q])) := by
      have hcc : Coherent c.store := hcs ▸ hb
      obtain ⟨hdc, -, hdm⟩ := c.chain_spec hcc d hd
      rw [hstep]
      exact ((d.ascending hdc).below m hm).trans ((c.ascending hcc).below _ hdm)
    have hafter := h.after (before ++ [q])
    have hstocked := invariant_stocked.after (stocked_empty files) (before ++ [q])
    refine ⟨?_, ?_⟩
    · intro r k i hi e he hr hk
      exact lookups_of_held hafter hstocked (hg.held _ _ _ hi) he hr hk
    · intro l p r hr hv e he hl hp
      exact registryCalls_of_kept hafter (hg.kept _ _ _ hr) hv he hl hp

def retryRun : List Request :=
  fullDiskRun ++ [.provider 0 (some "zip"), .provider 0 (some "zip"), .registry 0 sink]

/-- The first lookup fails with the fault of its need, but the registry built for it is returned when it
is asked for; in the end the second instance needs the first. -/
theorem needs_supplied_full_disk :
    let s := empty (.ofCwd [])
    let c := (s.after fullDiskRun).lookup 0 (some "zip")
    (∃ g, c.reply.result = .error g ∧
      g.fault.causes = (LookupFault.failed "Sink" "file" "disk full").fault.chain) ∧
    (∀ e ∈ (s.after (fullDiskRun ++ [.provider 0 (some "zip")])).registryCalls
        [.provider 0 (some "zip"), .registry 0 sink],
      e.loader = 0 → e.point = sink → e.reply = ⟨e.store, [], .ok 1⟩) ∧
    (s.after retryRun).instance? 0 "zip" = some 1 ∧
    ∃ r' k' j, (s.after retryRun).built? home sink.typeId = some r' ∧
      (s.after retryRun).effectiveKey r' none = some k' ∧ (s.after retryRun).instance? r' k' = some j ∧
        j < 1 := by
  intro s c
  obtain ⟨supplied, abandoned, reused⟩ := needs_supplied (.ofCwd []) retryRun
  obtain ⟨d, hi⟩ : ∃ d, c.inner? = some d := Option.isSome_iff_exists.1 (by decide +kernel)
  have hr : d.reply.result = .error (.failed "Sink" "file" "disk full") := by
    have hmap : c.inner?.map (·.reply.result) = some (.error (.failed "Sink" "file" "disk full")) := by
      decide +kernel
    rw [hi] at hmap
    exact Option.some.inj hmap
  have hc : c ∈ s.lookups retryRun := mem_lookups s fullDiskRun (.provider 0 (some "zip")) _ rfl
  obtain ⟨_, _, _, _, _, -, habandoned⟩ := abandoned c hc _ (.provider hi hr)
  obtain ⟨g, hg, hfault⟩ := habandoned.failed
  have hlast := after_mem_moments s retryRun
  refine ⟨⟨g, hg, by rw [hfault]⟩, ?_, by decide +kernel, ?_⟩
  · have hm : c.reply.store ∈ c.moments := by
      rw [c.moments_eq]
      simp
    have hself : c ∈ c.chain := by
      rw [c.chain_eq]
      exact List.mem_cons_self
    exact (reused fullDiskRun _ _ c rfl rfl c hself _ hm).2 0 sink 1 (by decide +kernel) rfl
  · have hneeds : (s.after retryRun).instances[1]?.map (·.factory.need?) = some (some (sink, none)) := by
      decide +kernel
    obtain ⟨p, hp, hf⟩ := Option.map_eq_some_iff.1 hneeds
    have hf : p.factory = .needs sink none := Factory.need?_eq_some.1 hf
    exact (supplied _ hlast).1 0 "zip" 1 p sink none (by decide +kernel) hp hf

end Store

end ProviderRegistry
