import ProviderRegistry.Proofs.RegistryCall

/-! A lookup together with the one that may take place inside it. The factory that a lookup runs
may ask the home loader for a registry and look a provider up there before it finishes, so lookups
are nested to any depth, each with the keys of the enclosing ones pending. What a lookup does is
shown by induction along this nesting. A nested lookup never fills the holder of a pending key, and
that is why the outer one finds its own holder as empty as it left it. -/

namespace ProviderRegistry

open Store

/-- A lookup and the state it is made in: how deep others may be nested inside it, and the keys
whose factories are running. -/
structure LookupCall where
  depth : Nat
  pending : Pending
  store : Store
  registry : RegistryId
  key : Option String

namespace LookupCall

def reply (c : LookupCall) : Reply (Except LookupFault InstanceId) :=
  lookupFuel c.depth c.pending c.store c.registry c.key

def effectiveKey (c : LookupCall) : Option String := c.store.effectiveKey c.registry c.key

/-- What the lookup comes to before a factory runs for it. -/
def settled (c : LookupCall) : Settled :=
  match c.depth with
  | 0 => .refused (.unending (c.store.pointName c.registry) (c.key.getD ""))
  | _ + 1 => c.store.settle c.pending c.registry c.key

def started (c : LookupCall) : Store :=
  match c.settled with
  | .due _ k p => c.store.start c.registry k p
  | _ => c.store

/-- What the factory asks the home loader for, and the key it means to look up there. -/
def needed? (c : LookupCall) : Option (RegistryCall × Option String) :=
  match c.settled with
  | .due _ _ p =>
    match p.factory with
    | .needs point key => some (⟨c.started, home, point⟩, key)
    | _ => none
  | _ => none

/-- The lookup that the factory makes once it was given the registry. -/
def inner? (c : LookupCall) : Option LookupCall :=
  match c.settled, c.needed? with
  | .due _ k _, some (call, key) =>
    match call.reply.result with
    | .ok r => some ⟨c.depth - 1, (c.registry, k) :: c.pending, call.reply.store, r, key⟩
    | .error _ => none
  | _, _ => none

/-- The state that the factory leaves. -/
def worked (c : LookupCall) : Store :=
  match c.inner?, c.needed? with
  | some d, _ => d.reply.store
  | none, some n => n.1.reply.store
  | none, none => c.started

def reported (c : LookupCall) : List Event :=
  (c.needed?.map (·.1.reply.events)).getD [] ++ (c.inner?.map (·.reply.events)).getD []

/-- How the factory of the class under a key comes to make no instance: it makes a value of another
type, it fails by itself, it is not given the registry it needs, or it misses the provider there. -/
inductive Fails (c : LookupCall) (point k : String) (p : ProviderClass) : LookupFault → Prop
  | otherType (hf : p.factory = .makesOther) : c.Fails point k p (.otherType point k p.name)
  | failed {message : String} {times : Option Nat} (hf : p.factory = .fails message times)
      (ht : c.started.stillFails p times) : c.Fails point k p (.failed point k message)
  | ungiven {n : RegistryCall × Option String} {f : BuildFault} (hn : c.needed? = some n)
      (hr : n.1.reply.result = .error f) : c.Fails point k p (.needUnbuilt point k f)
  | missed {d : LookupCall} {f : LookupFault} (hi : c.inner? = some d)
      (hr : d.reply.result = .error f) : c.Fails point k p (.needMissed point k f)

inductive Course (c : LookupCall) : Reply (Except LookupFault InstanceId) → Prop
  | refused {f : LookupFault} (h : c.settled = .refused f) : c.Course ⟨c.store, [], .error f⟩
  | cached {i : InstanceId} (h : c.settled = .cached i) : c.Course ⟨c.store, [], .ok i⟩
  | fails {point k : String} {p : ProviderClass} {f : LookupFault} (h : c.settled = .due point k p)
      (hf : c.Fails point k p f) :
      c.Course ⟨c.worked, .instantiating point k p.name :: c.reported, .error f⟩
  | makes {point k : String} {p : ProviderClass} (h : c.settled = .due point k p)
      (hf : ∀ f, ¬c.Fails point k p f) :
      c.Course ⟨(c.worked.finish c.registry k p).store,
        .instantiating point k p.name :: c.reported, .ok c.worked.instances.length⟩

theorem depth_inner {c d : LookupCall} (h : c.inner? = some d) : c.depth = d.depth + 1 := by
  obtain ⟨depth, pending, s, r, key⟩ := c
  cases depth with
  | zero => simp [inner?, settled] at h
  | succ n =>
    unfold inner? at h
    split at h
    · split at h
      · cases h; rfl
      · cases h
    · cases h

@[elab_as_elim]
theorem nested_induction {P : LookupCall → Prop}
    (step : ∀ c, (∀ d, c.inner? = some d → P d) → P c) (c : LookupCall) : P c := by
  generalize hn : c.depth = n
  induction n generalizing c with
  | zero => exact step c fun d hd => by have := depth_inner hd; omega
  | succ n ih => exact step c fun d hd => ih d (by have := depth_inner hd; omega)

theorem needs_nothing {c : LookupCall} {point k : String} {p : ProviderClass}
    (h : c.settled = .due point k p) (hf : ∀ q key, p.factory ≠ .needs q key) :
    c.needed? = none ∧ c.inner? = none ∧ c.worked = c.store.start c.registry k p ∧ c.reported = [] := by
  have hn : c.needed? = none := by
    simp only [needed?, h]
  have hi : c.inner? = none := by simp only [inner?, h, hn]
  exact ⟨hn, hi, by simp only [worked, hi, hn, started, h], by simp [reported, hi, hn]⟩

theorem idle {c : LookupCall} (h : ∀ point k p, c.settled ≠ .due point k p) :
    c.started = c.store ∧ c.needed? = none ∧ c.inner? = none ∧ c.worked = c.store := by
  have hst : c.started = c.store := by
    unfold started; split
    · rename_i hs; exact absurd hs (h _ _ _)
    · rfl
  have hn : c.needed? = none := by
    unfold needed?; split
    · rename_i hs; exact absurd hs (h _ _ _)
    · rfl
  have hi : c.inner? = none := by
    unfold inner?; split
    · rename_i hs _; exact absurd hs (h _ _ _)
    · rfl
  exact ⟨hst, hn, hi, by simp only [worked, hi, hn, hst]⟩

/-- What the run of a factory comes to: if the factory does not fail, the instance is kept in the
state that it leaves, else there is none. -/
theorem run_of_due {c : LookupCall} {point k : String} {p : ProviderClass} {n : Nat}
    (hd : c.depth = n + 1) (h : c.settled = .due point k p) :
    let a := runFactory (needWith (lookupFuel n) ((c.registry, k) :: c.pending)) c.store c.registry point k p
    ((∀ f, ¬c.Fails point k p f) ∧
      a = ⟨(c.worked.finish c.registry k p).store, c.reported, .ok c.worked.instances.length⟩) ∨
      ∃ f, c.Fails point k p f ∧ a = ⟨c.worked, c.reported, .error f⟩ := by
  have hst : c.started = c.store.start c.registry k p := by simp only [started, h]
  cases hf : p.factory with
  | makes =>
    obtain ⟨hn, hi, hw, he⟩ := needs_nothing h (by simp [hf])
    refine .inl ⟨?_, by simp only [runFactory, hf, hw, he]; rfl⟩
    intro f hF
    cases hF with
    | otherType hf' | failed hf' => rw [hf] at hf'; cases hf'
    | ungiven hn' => rw [hn] at hn'; cases hn'
    | missed hi' => rw [hi] at hi'; cases hi'
  | makesOther =>
    obtain ⟨-, -, hw, he⟩ := needs_nothing h (by simp [hf])
    exact .inr ⟨_, .otherType hf, by simp only [runFactory, hf, hw, he]⟩
  | fails message times =>
    obtain ⟨hn, hi, hw, he⟩ := needs_nothing h (by simp [hf])
    by_cases hs : (c.store.start c.registry k p).stillFails p times
    · exact .inr ⟨_, .failed hf (hst ▸ hs), by simp only [runFactory, hf, hw, he, if_pos hs]⟩
    · refine .inl ⟨?_, by simp only [runFactory, hf, hw, he, if_neg hs]; rfl⟩
      intro f hF
      cases hF with
      | otherType hf' => rw [hf] at hf'; cases hf'
      | failed hf' ht => rw [hf] at hf'; cases hf'; exact hs (hst ▸ ht)
      | ungiven hn' => rw [hn] at hn'; cases hn'
      | missed hi' => rw [hi] at hi'; cases hi'
  | needs q key =>
    have hn : c.needed? = some (⟨c.started, home, q⟩, key) := by simp only [needed?, h, hf]
    set call : RegistryCall := ⟨c.started, home, q⟩ with hcall
    have hreply : (c.store.start c.registry k p).registry home q = call.reply := by
      rw [RegistryCall.reply, hcall, hst]
    cases hres : call.reply.result with
    | error f =>
      have hi : c.inner? = none := by simp only [inner?, h, hn, hres]
      have hw : c.worked = call.reply.store := by simp only [worked, hi, hn]
      have he : c.reported = call.reply.events := by simp [reported, hi, hn]
      exact .inr ⟨_, .ungiven hn hres,
        by simp only [runFactory, hf, needWith, hreply, hres, hw, he]; rfl⟩
    | ok r =>
      have hi : c.inner? = some ⟨n, (c.registry, k) :: c.pending, call.reply.store, r, key⟩ := by
        simp only [inner?, h, hn, hres, hd, Nat.add_sub_cancel]
      set d : LookupCall := ⟨n, (c.registry, k) :: c.pending, call.reply.store, r, key⟩ with hdd
      have hin : lookupFuel n ((c.registry, k) :: c.pending) call.reply.store r key = d.reply := rfl
      have hw : c.worked = d.reply.store := by simp only [worked, hi]
      have he : c.reported = call.reply.events ++ d.reply.events := by simp [reported, hi, hn]
      cases hdr : d.reply.result with
      | error f =>
        exact .inr ⟨_, .missed hi hdr, by
          simp only [runFactory, hf, needWith, hreply, hres, hin, hdr, Except.mapError, hw, he]; rfl⟩
      | ok i =>
        refine .inl ⟨?_, by
          simp only [runFactory, hf, needWith, hreply, hres, hin, hdr, Except.mapError, hw, he, finish,
            List.append_nil]⟩
        intro f hF
        cases hF with
        | otherType hf' | failed hf' => rw [hf] at hf'; cases hf'
        | ungiven hn' hr => rw [hn] at hn'; cases hn'; rw [hres] at hr; cases hr
        | missed hi' hr => rw [hi] at hi'; cases hi'; rw [hdr] at hr; cases hr

theorem course (c : LookupCall) : c.Course c.reply := by
  cases hd : c.depth with
  | zero =>
    have hs : c.settled = .refused (.unending (c.store.pointName c.registry) (c.key.getD "")) := by
      simp only [settled, hd]
    have hr : c.reply = ⟨c.store, [], .error (.unending (c.store.pointName c.registry) (c.key.getD ""))⟩ := by
      simp only [reply, hd, lookupFuel]
    exact hr ▸ .refused hs
  | succ n =>
    have hr : c.reply = lookupWith (needWith (lookupFuel n)) c.pending c.store c.registry c.key := by
      simp only [reply, hd, lookupFuel]
    have hset : c.settled = c.store.settle c.pending c.registry c.key := by simp only [settled, hd]
    rw [hr, lookupWith, ← hset]
    cases hs : c.settled with
    | refused f => exact .refused hs
    | cached i => exact .cached hs
    | due point k p =>
      rcases run_of_due hd hs with ⟨hf, ha⟩ | ⟨f, hf, ha⟩
      · dsimp only at ha ⊢; rw [ha]; exact .makes hs hf
      · dsimp only at ha ⊢; rw [ha]; exact .fails hs hf

theorem settle_cached {s : Store} {pending : Pending} {r : RegistryId} {key : Option String}
    {i : InstanceId} (h : s.settle pending r key = .cached i) :
    ∃ k, s.effectiveKey r key = some k ∧ s.instance? r k = some i := by
  unfold settle at h
  split at h
  · cases h
  · rename_i reg hreg
    split at h
    · cases h
    · rename_i k hk
      split at h
      · rename_i j hj
        cases h
        exact ⟨k, by simp [Store.effectiveKey, hreg, hk], by simp [instance?, hreg, hj]⟩
      · split at h
        · cases h
        · split at h <;> cases h

theorem settle_due {s : Store} {pending : Pending} {r : RegistryId} {key : Option String}
    {point k : String} {p : ProviderClass} (h : s.settle pending r key = .due point k p) :
    s.effectiveKey r key = some k ∧ s.instance? r k = none ∧ s.class? r k = some p ∧
      (r, k) ∉ pending := by
  unfold settle at h
  split at h
  · cases h
  · rename_i reg hreg
    split at h
    · cases h
    · rename_i k' hk
      split at h
      · cases h
      · rename_i hi
        split at h
        · cases h
        · rename_i c hc
          split at h
          · cases h
          · rename_i hp
            cases h
            exact ⟨by simp [Store.effectiveKey, hreg, hk], by simp [instance?, hreg, hi],
              by simp [class?, hreg, hc], by simpa using hp⟩

theorem settled_cached {c : LookupCall} {i : InstanceId} (h : c.settled = .cached i) :
    ∃ k, c.effectiveKey = some k ∧ c.store.instance? c.registry k = some i := by
  unfold settled at h
  split at h
  · cases h
  · exact settle_cached h

theorem settled_due {c : LookupCall} {point k : String} {p : ProviderClass}
    (h : c.settled = .due point k p) : c.effectiveKey = some k ∧
      c.store.instance? c.registry k = none ∧ c.store.class? c.registry k = some p ∧
      (c.registry, k) ∉ c.pending := by
  unfold settled at h
  split at h
  · cases h
  · exact settle_due h

theorem needed_spec {c : LookupCall} {n : RegistryCall × Option String} (h : c.needed? = some n) :
    ∃ point k p, c.settled = .due point k p ∧ p.factory = .needs n.1.point n.2 ∧
      n.1 = ⟨c.started, home, n.1.point⟩ := by
  unfold needed? at h
  split at h
  · rename_i hs
    split at h
    · rename_i hf
      cases h
      exact ⟨_, _, _, hs, hf, rfl⟩
    · cases h
  · cases h

theorem needed_store {c : LookupCall} {n : RegistryCall × Option String} (h : c.needed? = some n) :
    n.1.store = c.started := by
  obtain ⟨_, _, _, -, -, hn⟩ := needed_spec h
  rw [hn]

theorem inner_spec {c d : LookupCall} (h : c.inner? = some d) : ∃ point k p n,
    c.settled = .due point k p ∧ c.needed? = some n ∧ d.store = n.1.reply.store ∧
      d.pending = (c.registry, k) :: c.pending := by
  unfold inner? at h
  split at h
  · rename_i hs hn
    split at h
    · cases h; exact ⟨_, _, _, _, hs, hn, rfl, rfl⟩
    · cases h
  · cases h

/-- How far a factory comes: it needs nothing, it is not given the registry it needs, or it looks
a provider up there. -/
inductive Work (c : LookupCall) : Prop
  | alone (hn : c.needed? = none) (hi : c.inner? = none) (hw : c.worked = c.started)
  | ungiven {n : RegistryCall × Option String} (hn : c.needed? = some n) (hi : c.inner? = none)
      (hw : c.worked = n.1.reply.store)
  | nested {n : RegistryCall × Option String} {d : LookupCall} (hn : c.needed? = some n)
      (hi : c.inner? = some d) (hd : d.store = n.1.reply.store) (hw : c.worked = d.reply.store)

theorem work (c : LookupCall) : c.Work := by
  cases hi : c.inner? with
  | some d =>
    obtain ⟨point, k, p, n, -, hn, hd, -⟩ := inner_spec hi
    exact .nested hn hi hd (by simp only [worked, hi])
  | none =>
    cases hn : c.needed? with
    | some n => exact .ungiven hn hi (by simp only [worked, hi, hn])
    | none => exact .alone hn hi (by simp only [worked, hi, hn])

/-- What a lookup leaves of the store it was made in, whatever it came to. -/
structure Steady (c : LookupCall) (t : Store) : Prop where
  coherent : Coherent t
  grows : Grows c.store t
  works : Grows c.started c.worked
  ends : Grows c.worked t
  pending : ∀ x ∈ c.pending, t.instance? x.1 x.2 = c.store.instance? x.1 x.2

theorem coherent_started {c : LookupCall} (h : Coherent c.store) : Coherent c.started := by
  unfold started
  split
  · rename_i hs; exact h.start (settled_due hs).2.1 _
  · exact h

theorem loaders_started (c : LookupCall) : c.started.loaders = c.store.loaders := by
  unfold started
  split <;> rfl

theorem reply_store (c : LookupCall) : c.reply.store = c.worked ∨
    ∃ k p, c.reply.store = (c.worked.finish c.registry k p).store := by
  have hc := c.course
  generalize c.reply = a at hc
  cases hc with
  | refused hs | cached hs => exact .inl (idle (c := c) (by simp [hs])).2.2.2.symm
  | fails => exact .inl rfl
  | @makes _ k p => exact .inr ⟨k, p, rfl⟩

theorem loaders_reply (c : LookupCall) : c.reply.store.loaders = c.worked.loaders := by
  rcases c.reply_store with h | ⟨k, p, h⟩ <;> rw [h]
  rfl

theorem runs_reply (c : LookupCall) : c.reply.store.runs = c.worked.runs := by
  rcases c.reply_store with h | ⟨k, p, h⟩ <;> rw [h]
  rfl

theorem grows_started (c : LookupCall) : Grows c.store c.started := by
  unfold started
  split
  · rename_i hs; exact grows_start (settled_due hs).2.1 _
  · exact Grows.refl _

@[simp] theorem instance?_started (c : LookupCall) (r : RegistryId) (k : String) :
    c.started.instance? r k = c.store.instance? r k := by
  unfold started
  split
  · exact instance?_start ..
  · rfl

theorem needed_steady {c : LookupCall} (h : Coherent c.store) {n : RegistryCall × Option String}
    (hn : c.needed? = some n) : Coherent n.1.reply.store ∧ Grows c.started n.1.reply.store ∧
      ∀ r k, n.1.reply.store.instance? r k = c.store.instance? r k := by
  have hst := needed_store hn
  refine ⟨RegistryCall.coherent_reply (by rw [hst]; exact coherent_started h),
    hst ▸ n.1.grows_reply, fun r k => ?_⟩
  rw [RegistryCall.instance?_reply, hst, instance?_started]

/-- What the factory leaves, given that a lookup inside it is steady: the holder it works for, whose
key was pending all along, is still empty. -/
theorem worked_steady {c : LookupCall} (h : Coherent c.store) {point k : String} {p : ProviderClass}
    (hs : c.settled = .due point k p)
    (ih : ∀ d, c.inner? = some d → Coherent d.store → Steady d d.reply.store) :
    Coherent c.worked ∧ Grows c.started c.worked ∧
      ∀ x ∈ (c.registry, k) :: c.pending, c.worked.instance? x.1 x.2 = c.store.instance? x.1 x.2 := by
  cases c.work with
  | alone hn hi hw =>
    rw [hw]
    exact ⟨coherent_started h, Grows.refl _, fun x _ => instance?_started c x.1 x.2⟩
  | ungiven hn hi hw =>
    obtain ⟨hc, hg, hins⟩ := needed_steady h hn
    rw [hw]
    exact ⟨hc, hg, fun x _ => hins x.1 x.2⟩
  | @nested n d hn hi hd hw =>
    obtain ⟨hc, hg, hins⟩ := needed_steady h hn
    obtain ⟨dc, dg, -, -, dp⟩ := ih d hi (hd ▸ hc)
    obtain ⟨_, _, _, _, hs', -, -, hp⟩ := inner_spec hi
    cases hs.symm.trans hs'
    rw [hw]
    refine ⟨dc, hg.trans (hd ▸ dg), fun x hx => ?_⟩
    rw [dp x (hp ▸ hx), hd, hins]

theorem steady (c : LookupCall) : Coherent c.store → Steady c c.reply.store := by
  induction c using nested_induction with
  | step c ih =>
    intro h
    have hc := c.course
    generalize c.reply = a at hc
    cases hc with
    | refused hs | cached hs =>
      obtain ⟨hst, -, -, hw⟩ := idle (c := c) (by simp [hs])
      exact ⟨h, Grows.refl _, by rw [hst, hw]; exact Grows.refl _, by rw [hw]; exact Grows.refl _,
        fun _ _ => rfl⟩
    | fails hs =>
      obtain ⟨wc, wg, wp⟩ := worked_steady h hs ih
      exact ⟨wc, (grows_started c).trans wg, wg, Grows.refl _,
        fun x hx => wp x (List.mem_cons_of_mem _ hx)⟩
    | @makes point k p hs =>
      obtain ⟨wc, wg, wp⟩ := worked_steady h hs ih
      obtain ⟨-, hn, hk, hnp⟩ := settled_due hs
      have hg := (grows_started c).trans wg
      have hempty : c.worked.instance? c.registry k = none :=
        (wp (c.registry, k) List.mem_cons_self).trans hn
      have hf := grows_finish (hg.class? hk) hempty
      refine ⟨wc.finish (hg.class? hk) hempty, hg.trans hf, wg, hf, fun x hx => ?_⟩
      rw [instance?_finish (hg.class? hk), if_neg, wp x (List.mem_cons_of_mem _ hx)]
      rintro ⟨hr, hk'⟩
      exact hnp (hr ▸ hk' ▸ hx)

theorem coherent_reply {c : LookupCall} (h : Coherent c.store) : Coherent c.reply.store :=
  (c.steady h).coherent

theorem grows_reply {c : LookupCall} (h : Coherent c.store) : Grows c.store c.reply.store :=
  (c.steady h).grows

theorem held_of_ok {c : LookupCall} (h : Coherent c.store) {i : InstanceId}
    (hi : c.reply.result = .ok i) :
    ∃ k, c.effectiveKey = some k ∧ c.reply.store.instance? c.registry k = some i := by
  have hc := c.course
  generalize c.reply = a at hc hi
  cases hc with
  | refused | fails => cases hi
  | cached hs => cases hi; exact settled_cached hs
  | @makes point k p hs =>
    cases hi
    obtain ⟨hk, -, hp, -⟩ := settled_due hs
    obtain ⟨-, wg, -⟩ := worked_steady h hs fun d _ hd => d.steady hd
    refine ⟨k, hk, ?_⟩
    rw [instance?_finish (((grows_started c).trans wg).class? hp), if_pos ⟨rfl, rfl⟩]

end LookupCall

end ProviderRegistry
