import ProviderRegistry.Proofs.LookupCall

/-! Runs with everything that takes place in them: the lookups, those inside factories included,
the requests for registries, those of factories included, and the states in the order they come
about. Along a run the states only grow, so what was held or kept at one moment is held or kept at
every later one; and what every single change of a state keeps, a run keeps. -/

namespace ProviderRegistry

open Store

namespace LookupCall

def chainFrom : Nat → LookupCall → List LookupCall
  | 0, c => [c]
  | n + 1, c => c :: c.inner?.elim [] (chainFrom n)

/-- The lookup and those inside it, the outermost first. -/
def chain (c : LookupCall) : List LookupCall := chainFrom c.depth c

def momentsFrom : Nat → LookupCall → List Store
  | 0, c => [c.store, c.started, c.reply.store]
  | n + 1, c => c.store :: c.started :: ((c.needed?.map (·.1.reply.store)).toList ++
      c.inner?.elim [] (momentsFrom n) ++ [c.reply.store])

/-- The states that come about while the lookup goes on. -/
def moments (c : LookupCall) : List Store := momentsFrom c.depth c

def requests (c : LookupCall) : List RegistryCall := c.chain.filterMap fun d => d.needed?.map (·.1)

theorem flat_of_depth {c : LookupCall} (h : c.depth = 0) : c.needed? = none ∧ c.inner? = none := by
  obtain ⟨-, hn, hi, -⟩ := idle (c := c) (by simp [settled, h])
  exact ⟨hn, hi⟩

theorem chain_eq (c : LookupCall) : c.chain = c :: c.inner?.elim [] chain := by
  cases hd : c.depth with
  | zero => simp [chain, chainFrom, hd, (flat_of_depth hd).2]
  | succ n =>
    cases hi : c.inner? with
    | none => simp [chain, chainFrom, hd, hi]
    | some d =>
      have : d.depth = n := by have := depth_inner hi; omega
      simp [chain, chainFrom, hd, hi, this]

/-- What passes from every lookup to the one inside it holds of all that are inside it. -/
theorem chain_forall {P : LookupCall → Prop} (hstep : ∀ c d, c.inner? = some d → P c → P d) {c : LookupCall} :
    P c → ∀ d ∈ c.chain, P d := by
  induction c using nested_induction with
  | step c ih =>
    intro h d hd
    rw [chain_eq] at hd
    rcases List.mem_cons.1 hd with rfl | hd
    · exact h
    · cases hi : c.inner? with
      | none => simp [hi] at hd
      | some e => exact ih e hi (hstep c e hi h) d (by simpa [hi] using hd)

theorem moments_eq (c : LookupCall) : c.moments = c.store :: c.started ::
    ((c.needed?.map (·.1.reply.store)).toList ++ c.inner?.elim [] moments ++ [c.reply.store]) := by
  cases hd : c.depth with
  | zero => simp [moments, momentsFrom, hd, flat_of_depth hd]
  | succ n =>
    cases hi : c.inner? with
    | none => simp [moments, momentsFrom, hd, hi]
    | some d =>
      have : d.depth = n := by have := depth_inner hi; omega
      simp [moments, momentsFrom, hd, hi, this]

end LookupCall

def Request.lookup? (s : Store) : Request → Option LookupCall
  | .provider r key | .optionalProvider r key => some ⟨s.depthBound, [], s, r, key⟩
  | .providerOrDefault r => some ⟨s.depthBound, [], s, r, none⟩
  | .providerByKeyClass r q | .optionalProviderByKeyClass r q =>
    some ⟨s.depthBound, [], s, r, s.keyForClass r q⟩
  | .addLoader _ _ | .registry _ _ | .detachedRegistry _ _ => none

def Outcome.instance? : Outcome → Option InstanceId
  | .provider result => result.toOption
  | .optional result => result
  | .loader _ | .registry _ => none

namespace Store

/-- The lookups of a run. -/
def lookups (s : Store) : List Request → List LookupCall
  | [] => []
  | q :: qs => (q.lookup? s).elim [] LookupCall.chain ++ (s.step q).store.lookups qs

/-- The states of a run, in the order they come about. -/
def moments (s : Store) : List Request → List Store
  | [] => [s]
  | q :: qs => s :: ((q.lookup? s).elim [] LookupCall.moments ++ (s.step q).store.moments qs)

theorem step_lookup {s : Store} {q : Request} {c : LookupCall} (h : q.lookup? s = some c) :
    (s.step q).store = c.reply.store ∧ (s.step q).result.instance? = c.reply.result.toOption := by
  have hopt : ∀ (r : RegistryId) (a : Reply (Except LookupFault InstanceId)),
      (s.optionally r a).store = a.store ∧ (s.optionally r a).result = a.result.toOption := by
    intro r a
    unfold optionally
    split <;> rename_i hr <;> simp [hr, Except.toOption]
  cases q with
  | provider r key | providerOrDefault r | providerByKeyClass r k => cases h; exact ⟨rfl, rfl⟩
  | optionalProvider r key | optionalProviderByKeyClass r k => cases h; exact hopt r _
  | addLoader | registry | detachedRegistry => cases h

theorem grows_detachedRegistry (s : Store) (l : LoaderId) (p : ExtensionPoint) :
    Grows s (s.detachedRegistry l p).store := by
  unfold detachedRegistry
  split
  · exact Grows.refl _
  · dsimp only
    split
    · exact grows_setLocator ..
    · rename_i hb
      exact (grows_setLocator ..).trans (grows_addRegistry _ (RegistryCall.build_ok hb).2)

theorem Coherent.detachedRegistry {s : Store} (h : Coherent s) (l : LoaderId) (p : ExtensionPoint) :
    Coherent (s.detachedRegistry l p).store := by
  unfold Store.detachedRegistry
  split
  · exact h
  · dsimp only
    split
    · exact h.setLocator ..
    · rename_i hb
      exact (h.setLocator ..).addRegistry (RegistryCall.build_ok hb).2

theorem store_lookup? {s : Store} {q : Request} {c : LookupCall} (h : q.lookup? s = some c) :
    c.store = s := by
  cases q <;> cases h <;> rfl

theorem steady_lookup {s : Store} {q : Request} {c : LookupCall} (h : Coherent s)
    (hq : q.lookup? s = some c) : Coherent (s.step q).store ∧ Grows s (s.step q).store := by
  rw [(step_lookup hq).1]
  obtain rfl := store_lookup? hq
  exact ⟨c.coherent_reply h, c.grows_reply h⟩

theorem steady_step {s : Store} (h : Coherent s) (q : Request) :
    Coherent (s.step q).store ∧ Grows s (s.step q).store := by
  cases q with
  | addLoader locator catalog =>
    exact ⟨h.addLoader locator catalog, grows_addLoader s locator catalog⟩
  | registry l p =>
    exact ⟨RegistryCall.coherent_reply (c := ⟨s, l, p⟩) h, RegistryCall.grows_reply ⟨s, l, p⟩⟩
  | detachedRegistry l p => exact ⟨h.detachedRegistry l p, grows_detachedRegistry s l p⟩
  | provider | providerOrDefault | providerByKeyClass | optionalProvider
  | optionalProviderByKeyClass => exact steady_lookup h rfl

theorem Coherent.step {s : Store} (h : Coherent s) (q : Request) : Coherent (s.step q).store :=
  (steady_step h q).1

theorem grows_step {s : Store} (h : Coherent s) (q : Request) : Grows s (s.step q).store :=
  (steady_step h q).2

theorem Coherent.after {s : Store} (h : Coherent s) (qs : List Request) : Coherent (s.after qs) := by
  induction qs generalizing s with
  | nil => exact h
  | cons q qs ih => exact ih (h.step q)

structure Ascending (s : Store) (l : List Store) (t : Store) : Prop where
  pairwise : l.Pairwise Grows
  above : ∀ x ∈ l, Grows s x
  below : ∀ x ∈ l, Grows x t
  grows : Grows s t

theorem Ascending.single {s x t : Store} (h : Grows s x) (h' : Grows x t) : Ascending s [x] t :=
  ⟨List.pairwise_singleton _ _, by simpa using h, by simpa using h', h.trans h'⟩

theorem Ascending.nil {s t : Store} (h : Grows s t) : Ascending s [] t :=
  ⟨List.Pairwise.nil, by simp, by simp, h⟩

theorem Ascending.append {s t u : Store} {l m : List Store} (h : Ascending s l t)
    (h' : Ascending t m u) : Ascending s (l ++ m) u := by
  refine ⟨List.pairwise_append.2 ⟨h.pairwise, h'.pairwise, ?_⟩, ?_, ?_, h.grows.trans h'.grows⟩
  · intro x hx y hy
    exact (h.below x hx).trans (h'.above y hy)
  · intro x hx
    rcases List.mem_append.1 hx with hx | hx
    · exact h.above x hx
    · exact h.grows.trans (h'.above x hx)
  · intro x hx
    rcases List.mem_append.1 hx with hx | hx
    · exact (h.below x hx).trans h'.grows
    · exact h'.below x hx

end Store

namespace LookupCall

/-- The states between the start of a factory and its end: the one after its request for a registry
and those of the lookup inside it. -/
theorem ascending_worked {c : LookupCall} (h : Coherent c.store)
    (ih : ∀ d, c.inner? = some d → Coherent d.store → Ascending d.store d.moments d.reply.store) :
    Ascending c.started ((c.needed?.map (·.1.reply.store)).toList ++ c.inner?.elim [] moments)
      c.worked := by
  have hw := (c.steady h).works
  cases c.work with
  | alone hn hi _ =>
    rw [hn, hi]
    exact .nil hw
  | ungiven hn hi he =>
    rw [he] at hw ⊢
    rw [hn, hi]
    exact .single hw (Grows.refl _)
  | @nested n d hn hi hd he =>
    obtain ⟨hc, hg, -⟩ := needed_steady h hn
    have hin := ih d hi (hd ▸ hc)
    rw [he, hn, hi]
    exact (Ascending.single hg (Grows.refl _)).append (hd ▸ hin)

theorem ascending (c : LookupCall) : Coherent c.store → Ascending c.store c.moments c.reply.store := by
  induction c using nested_induction with
  | step c ih =>
    intro h
    have hs := c.steady h
    rw [moments_eq]
    have h1 := (Ascending.single (Grows.refl c.store) (Grows.refl _)).append
      (Ascending.single (grows_started c) (Grows.refl _))
    exact (h1.append (ascending_worked h ih)).append (Ascending.single hs.ends (Grows.refl _))

theorem chain_spec (c : LookupCall) : Coherent c.store → ∀ d ∈ c.chain,
    Coherent d.store ∧ d.store ∈ c.moments ∧ d.reply.store ∈ c.moments := by
  induction c using nested_induction with
  | step c ih =>
    intro h d hd
    rw [chain_eq] at hd
    rw [moments_eq]
    rcases List.mem_cons.1 hd with rfl | hd
    · exact ⟨h, by simp, by simp⟩
    · cases hi : c.inner? with
      | none => simp [hi] at hd
      | some e =>
        obtain ⟨_, _, _, n, -, hn, he, -⟩ := inner_spec hi
        obtain ⟨hc, hm, hr⟩ := ih e hi (he ▸ (needed_steady h hn).1) d (by simpa [hi] using hd)
        exact ⟨hc, by simp [hm], by simp [hr]⟩

end LookupCall

namespace Store

theorem ascending_moments {s : Store} (h : Coherent s) (qs : List Request) :
    Ascending s (s.moments qs) (s.after qs) := by
  induction qs generalizing s with
  | nil => exact Ascending.single (Grows.refl s) (Grows.refl s)
  | cons q qs ih =>
    have hstep : Ascending s ((q.lookup? s).elim [] LookupCall.moments) (s.step q).store := by
      cases hq : q.lookup? s with
      | none => exact Ascending.nil (grows_step h q)
      | some c =>
        have hc := store_lookup? hq
        rw [(step_lookup hq).1]
        exact hc ▸ c.ascending (hc ▸ h)
    exact (Ascending.single (Grows.refl s) (Grows.refl s)).append (hstep.append (ih (h.step q)))

theorem lookups_spec {s : Store} (h : Coherent s) (qs : List Request) {c : LookupCall}
    (hc : c ∈ s.lookups qs) : Coherent c.store ∧ c.store ∈ s.moments qs ∧
      c.reply.store ∈ s.moments qs := by
  induction qs generalizing s with
  | nil => cases hc
  | cons q qs ih =>
    rw [lookups, List.mem_append] at hc
    rw [moments]
    rcases hc with hc | hc
    · cases hq : q.lookup? s with
      | none => simp [hq] at hc
      | some d =>
        have hd := store_lookup? hq
        obtain ⟨h1, h2, h3⟩ := d.chain_spec (hd ▸ h) c (by simpa [hq] using hc)
        exact ⟨h1, by simp [h2], by simp [h3]⟩
    · obtain ⟨h1, h2, h3⟩ := ih (h.step q) hc
      exact ⟨h1, by simp [h2], by simp [h3]⟩

end Store

/-- What holds of a store through every change that a run can make to it. -/
structure Invariant (P : Store → Prop) : Prop where
  addLoader : ∀ s locator catalog, P s → P (s.addLoader (.new locator catalog)).1
  detached : ∀ s l p, P s → P (s.detachedRegistry l p).store
  request : ∀ c : RegistryCall, P c.store → P c.reply.store
  start : ∀ s r k p, P s → P (s.start r k p)
  finish : ∀ s r k p, P s → P (s.finish r k p).store

namespace Invariant

variable {P : Store → Prop} (hP : Invariant P)
include hP

theorem started {c : LookupCall} (h : P c.store) : P c.started := by
  unfold LookupCall.started
  split
  · exact hP.start _ _ _ _ h
  · exact h

theorem needed {c : LookupCall} (h : P c.store) {n : RegistryCall × Option String}
    (hn : c.needed? = some n) : P n.1.reply.store :=
  hP.request _ (LookupCall.needed_store hn ▸ hP.started h)

theorem inner {c d : LookupCall} (h : P c.store) (hi : c.inner? = some d) : P d.store := by
  obtain ⟨_, _, _, n, -, hn, hd, -⟩ := LookupCall.inner_spec hi
  exact hd ▸ hP.needed h hn

theorem lookup (c : LookupCall) : P c.store → P c.reply.store := by
  induction c using LookupCall.nested_induction with
  | step c ih =>
    intro h
    -- whatever becomes of the lookup, its factory leaves a store like the one it was given
    have hw : P c.worked := by
      cases c.work with
      | alone _ _ he => exact he ▸ hP.started h
      | ungiven hn _ he => exact he ▸ hP.needed h hn
      | nested _ hi _ he => exact he ▸ ih _ hi (hP.inner h hi)
    have hc := c.course
    generalize c.reply = a at hc
    cases hc with
    | refused | cached => exact h
    | fails => exact hw
    | makes => exact hP.finish _ _ _ _ hw

theorem step {s : Store} (h : P s) (q : Request) : P (s.step q).store := by
  cases hq : q.lookup? s with
  | some c =>
    rw [(step_lookup hq).1]
    exact hP.lookup c (store_lookup? hq ▸ h)
  | none =>
    cases q with
    | addLoader => exact hP.addLoader _ _ _ h
    | registry l p => exact hP.request ⟨s, l, p⟩ h
    | detachedRegistry => exact hP.detached _ _ _ h
    | provider | providerOrDefault | providerByKeyClass | optionalProvider
    | optionalProviderByKeyClass => cases hq

theorem after {s : Store} (h : P s) (qs : List Request) : P (s.after qs) := by
  induction qs generalizing s with
  | nil => exact h
  | cons q qs ih => exact ih (hP.step h q)

end Invariant

end ProviderRegistry
