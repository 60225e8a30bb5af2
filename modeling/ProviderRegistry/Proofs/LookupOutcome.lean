import ProviderRegistry.Proofs.RunCalls

/-! The outcome of a lookup and what it leaves behind. It ends in one of five ways, told apart by the
key it is for, the index, the holder of the key and the factory alone; what takes place inside the
factory shows in the kind of the fault no more than a fault of its own would. A lookup that comes to
no factory changes nothing. One whose factory fails leaves an empty holder and a counted run, and
else only what its factory's own lookup leaves, which in turn takes no instance away. -/

namespace ProviderRegistry

open Store

/-- Whether the lookup, or the one inside it that it got its fault from, does not return. -/
def LookupFault.isUnending : LookupFault → Bool
  | .unending _ _ => true
  | .needMissed _ _ f => f.isUnending
  | _ => false

/-- Every fault of a factory is one of state, and says which key of which extension point has no
instance. -/
theorem LookupCall.Fails.fault {c : LookupCall} {point k : String} {p : ProviderClass} {f : LookupFault}
    (h : c.Fails point k p f) : f.fault.kind = .state ∧
      ∃ cause, f.fault.message = LookupFault.notMade point k ++ ": " ++ cause := by
  cases h with
  | otherType =>
    have hcolon : ": factory of " = ": " ++ "factory of " := by decide
    refine ⟨rfl, "factory of " ++ p.name ++ " returned a value of another type", ?_⟩
    simp only [LookupFault.fault, Fault.state, hcolon, String.append_assoc]
  | failed | ungiven | missed => exact ⟨rfl, _, rfl⟩

namespace LookupCall

/-- Whether the lookup is for a key whose own factory is running. -/
def Circular (c : LookupCall) : Prop := ∃ point k, c.settled = .refused (.unending point k)

/-- The ways a lookup on a registry can end. -/
inductive Ends (c : LookupCall) (reg : Registry) : Reply (Except LookupFault InstanceId) → Prop
  | unkeyed (hk : reg.effectiveKey c.key = none) :
      c.Ends reg ⟨c.store, [], .error (.noKey reg.point.name)⟩
  | unindexed {k : String} (hk : reg.effectiveKey c.key = some k) (hp : reg.index.get? k = none) :
      c.Ends reg ⟨c.store, [], .error (.unknownKey reg.point.name k)⟩
  | cached {k : String} {p : ProviderClass} {i : InstanceId} (hk : reg.effectiveKey c.key = some k)
      (hp : reg.index.get? k = some p) (hi : reg.instance? k = some i) :
      c.Ends reg ⟨c.store, [], .ok i⟩
  | fails {k : String} {p : ProviderClass} {f : LookupFault} (hk : reg.effectiveKey c.key = some k)
      (hp : reg.index.get? k = some p) (hi : reg.instance? k = none)
      (hs : c.settled = .due reg.point.name k p) (hf : c.Fails reg.point.name k p f) :
      c.Ends reg ⟨c.worked, .instantiating reg.point.name k p.name :: c.reported, .error f⟩
  | makes {k : String} {p : ProviderClass} (hk : reg.effectiveKey c.key = some k)
      (hp : reg.index.get? k = some p) (hi : reg.instance? k = none)
      (hs : c.settled = .due reg.point.name k p) (hf : ∀ f, ¬c.Fails reg.point.name k p f) :
      c.Ends reg ⟨(c.worked.finish c.registry k p).store,
        .instantiating reg.point.name k p.name :: c.reported, .ok c.worked.instances.length⟩

theorem not_circular_of_result {c : LookupCall}
    (h : ∀ point k, c.reply.result ≠ .error (.unending point k)) : ¬c.Circular := by
  rintro ⟨point, k, hs⟩
  have hc := c.course
  generalize ha : c.reply = a at hc
  cases hc with
  | refused hs' =>
    rw [hs] at hs'
    cases hs'
    exact h point k (by rw [ha])
  | cached hs' | fails hs' | makes hs' => rw [hs] at hs'; cases hs'

theorem settled_of_registry {c : LookupCall} (hn : ¬c.Circular) {reg : Registry}
    (hr : c.store.registries[c.registry]? = some reg) :
    c.settled = match reg.effectiveKey c.key with
      | none => .refused (.noKey reg.point.name)
      | some k =>
        match reg.instance? k with
        | some i => .cached i
        | none =>
          match reg.index.get? k with
          | none => .refused (.unknownKey reg.point.name k)
          | some p => .due reg.point.name k p := by
  cases hd : c.depth with
  | zero =>
    have hz : c.settled = .refused (.unending (c.store.pointName c.registry) (c.key.getD "")) := by
      simp only [settled, hd]
    exact absurd ⟨_, _, hz⟩ hn
  | succ n =>
    have hs : c.settled = c.store.settle c.pending c.registry c.key := by simp only [settled, hd]
    rw [Circular, hs] at hn
    rw [hs]
    simp only [settle, hr] at hn ⊢
    cases hk : reg.effectiveKey c.key with
    | none => rfl
    | some k =>
      cases hi : reg.instance? k with
      | some i => simp only [hi]
      | none =>
        cases hp : reg.index.get? k with
        | none => simp only [hi, hp]
        | some p =>
          simp only [hk, hi, hp] at hn ⊢
          split
          · rename_i hc
            exact absurd ⟨_, _, if_pos hc⟩ hn
          · rfl

theorem ends {c : LookupCall} (h : Coherent c.store) (hn : ¬c.Circular) {reg : Registry}
    (hr : c.store.registries[c.registry]? = some reg) : c.Ends reg c.reply := by
  have hc := c.course
  have hset := settled_of_registry hn hr
  generalize c.reply = a at hc
  cases hk : reg.effectiveKey c.key with
  | none =>
    simp only [hk] at hset
    cases hc with
    | refused hs => rw [hset] at hs; cases hs; exact .unkeyed hk
    | cached hs | fails hs | makes hs => rw [hset] at hs; cases hs
  | some k =>
    cases hi : reg.instance? k with
    | some i =>
      obtain ⟨p, hp, -⟩ := h.made c.registry k i (by simp [Store.instance?, hr, hi])
      simp only [hk, hi] at hset
      cases hc with
      | cached hs =>
        rw [hset] at hs
        cases hs
        exact .cached hk (by simpa [Store.class?, hr] using hp) hi
      | refused hs | fails hs | makes hs => rw [hset] at hs; cases hs
    | none =>
      cases hp : reg.index.get? k with
      | none =>
        simp only [hk, hi, hp] at hset
        cases hc with
        | refused hs => rw [hset] at hs; cases hs; exact .unindexed hk hp
        | cached hs | fails hs | makes hs => rw [hset] at hs; cases hs
      | some p =>
        simp only [hk, hi, hp] at hset
        cases hc with
        | refused hs | cached hs => rw [hset] at hs; cases hs
        | fails hs hf => rw [hset] at hs; cases hs; exact .fails hk hp hi hset hf
        | makes hs hf => rw [hset] at hs; cases hs; exact .makes hk hp hi hset hf

section

variable {c : LookupCall} {point k : String} {p : ProviderClass}

theorem started_of_due (hs : c.settled = .due point k p) :
    c.started = c.store.start c.registry k p := by
  simp only [started, hs]

theorem runs_of_due (h : Coherent c.store) (hs : c.settled = .due point k p) :
    ∃ later, c.reply.store.runs = c.store.runs ++ ⟨c.registry, k, p⟩ :: later := by
  obtain ⟨new, hn, -⟩ := ((c.steady h).works.trans (c.steady h).ends).runs
  exact ⟨new, by simp [hn, started_of_due hs, start]⟩

theorem worked_empty (h : Coherent c.store) (hs : c.settled = .due point k p) :
    c.worked.instance? c.registry k = none := by
  obtain ⟨-, -, hw⟩ := worked_steady h hs fun d _ hd => d.steady hd
  exact (hw (c.registry, k) List.mem_cons_self).trans (settled_due hs).2.1

end

theorem due_again {c d : LookupCall} {reg : Registry} (hg : Grows c.store d.store)
    (hr : c.store.registries[c.registry]? = some reg) (hd : d.registry = c.registry)
    (hk : d.key = c.key) (hn : ¬d.Circular) {k : String} {p : ProviderClass}
    (hek : reg.effectiveKey c.key = some k) (hp : reg.index.get? k = some p)
    (hi : d.store.instance? c.registry k = none) : d.settled = .due reg.point.name k p := by
  obtain ⟨reg', hr', hb⟩ := hg.bare hr
  have hi' : reg'.instance? k = none := by simpa [Store.instance?, hr'] using hi
  rw [settled_of_registry hn (hd ▸ hr'), Registry.effectiveKey_of_bare hb, hk, hek]
  simp only [hi', Registry.index_of_bare hb, Registry.point_of_bare hb, hp]

/-- What a lookup leaves that ran the factory of a class under a key and got no instance: the run is
counted and the key has a holder, an empty one; all else comes of what the factory asked for, and
that takes no instance away. -/
structure Leaves (c : LookupCall) (k : String) (p : ProviderClass) : Prop where
  started : c.started = c.store.start c.registry k p
  alone : c.needed? = none → c.reply.store = c.started
  nested : ∀ n, c.needed? = some n → n.1.store = c.started ∧
    (c.inner? = none → c.reply.store = n.1.reply.store) ∧
    ∀ d, c.inner? = some d → d.store = n.1.reply.store ∧ c.reply.store = d.reply.store
  grows : Grows c.started c.reply.store
  held : ∀ r j i, c.store.instance? r j = some i → c.reply.store.instance? r j = some i
  empty : c.reply.store.instance? c.registry k = none
  again : ∀ d : LookupCall, d.store = c.reply.store → d.registry = c.registry → d.key = c.key →
    ¬d.Circular → ∃ later, d.reply.store.runs = d.store.runs ++ ⟨c.registry, k, p⟩ :: later

/-- What a lookup on a registry comes to, and what it leaves if it comes to nothing. -/
structure Contract (c : LookupCall) (reg : Registry) : Prop where
  unkeyed : (∃ f, c.reply.result = .error f ∧ f.fault.kind = .invalidArgument) ↔
    reg.effectiveKey c.key = none
  unindexed : (∃ f, c.reply.result = .error f ∧ f.fault.kind = .configuration) ↔
    ∃ k, reg.effectiveKey c.key = some k ∧ reg.index.contains k = false
  answered : ∀ k, reg.effectiveKey c.key = some k → reg.index.contains k = true →
    (∃ i, c.reply.result = .ok i) ∨ ∃ f, c.reply.result = .error f ∧ f.fault.kind = .state
  failed : (∃ f, c.reply.result = .error f ∧ f.fault.kind = .state) ↔
    ∃ k p f, reg.effectiveKey c.key = some k ∧ reg.index.get? k = some p ∧
      reg.instance? k = none ∧ c.Fails reg.point.name k p f
  never_io : ∀ f, c.reply.result = .error f → f.fault.kind ≠ .io
  unchanged : ∀ f, c.reply.result = .error f →
    f.fault.kind = .invalidArgument ∨ f.fault.kind = .configuration → c.reply.store = c.store
  leaves : ∀ f, c.reply.result = .error f → f.fault.kind = .state → ∃ k p,
    reg.effectiveKey c.key = some k ∧ reg.index.get? k = some p ∧ c.Leaves k p

theorem leaves {c : LookupCall} (h : Coherent c.store) {reg : Registry}
    (hr : c.store.registries[c.registry]? = some reg) {k : String} {p : ProviderClass}
    (hk : reg.effectiveKey c.key = some k) (hp : reg.index.get? k = some p)
    (hs : c.settled = .due reg.point.name k p) (hw : c.reply.store = c.worked) : c.Leaves k p := by
  have hempty : c.reply.store.instance? c.registry k = none := hw ▸ worked_empty h hs
  have hsteady := c.steady h
  refine ⟨started_of_due hs, ?_, ?_, hw ▸ hsteady.works, hsteady.grows.held, hempty, ?_⟩
  · intro hn
    cases c.work with
    | alone _ _ he => rw [hw, he]
    | ungiven hn' | nested hn' => rw [hn] at hn'; cases hn'
  · intro n hn
    refine ⟨needed_store hn, ?_⟩
    cases c.work with
    | alone hn' => rw [hn] at hn'; cases hn'
    | ungiven hn' hi he =>
      rw [hn] at hn'
      cases hn'
      exact ⟨fun _ => hw.trans he, fun d hd => by rw [hi] at hd; cases hd⟩
    | nested hn' hi hd he =>
      rw [hn] at hn'
      cases hn'
      refine ⟨fun hi' => ?_, fun d hd' => ?_⟩
      · rw [hi] at hi'
        cases hi'
      · rw [hi] at hd'
        cases hd'
        exact ⟨hd, hw.trans he⟩
  · intro d hd hdr hdk hnc
    have hdue := due_again (hd ▸ hsteady.grows) hr hdr hdk hnc hk hp (by rw [hd]; exact hempty)
    obtain ⟨later, hl⟩ := runs_of_due (hd ▸ hsteady.coherent) hdue
    exact ⟨later, by rw [hl, hdr]⟩

theorem contract {c : LookupCall} (h : Coherent c.store) (hn : ¬c.Circular) {reg : Registry}
    (hr : c.store.registries[c.registry]? = some reg) : c.Contract reg := by
  have he := ends h hn hr
  generalize ha : c.reply = a at he
  cases he with
  | unkeyed hk =>
    constructor <;> simp [ha, hk, LookupFault.fault, Fault.invalidArgument]
  | unindexed hk hp =>
    constructor <;> simp [ha, hk, hp, KeyIndex.contains, LookupFault.fault, Fault.configuration]
  | cached hk hp hi =>
    constructor <;> simp [ha, hk, hp, hi, KeyIndex.contains]
  | fails hk hp hi hs hf =>
    have hkind := hf.fault.1
    have hleaves : c.Leaves _ _ := leaves h hr hk hp hs (by rw [ha])
    constructor <;> simp [ha, hk, hp, hi, KeyIndex.contains, hkind, hleaves]
    exact ⟨_, hf⟩
  | makes hk hp hi hs hf =>
    constructor <;> simp [ha, hk, hp, hi, hf, KeyIndex.contains]

end LookupCall

namespace Store

def lookup (s : Store) (r : RegistryId) (key : Option String) : LookupCall :=
  ⟨s.depthBound, [], s, r, key⟩

/-- No factory is running, so the lookup waits for none. -/
theorem settle_refused {s : Store} {r : RegistryId} {key : Option String} {f : LookupFault}
    (h : s.settle [] r key = .refused f) : f.isUnending = false := by
  unfold settle at h
  split at h
  · cases h
    rfl
  · split at h
    · cases h
      rfl
    · split at h
      · cases h
      · split at h
        · cases h
          rfl
        · simp at h

theorem not_circular_lookup (s : Store) (r : RegistryId) (key : Option String) :
    ¬(s.lookup r key).Circular := by
  rintro ⟨point, k, h⟩
  exact absurd (settle_refused h) (by simp [LookupFault.isUnending])

/-- What every store of a run gives of its lookups, and every lookup of the one inside it, holds of all
lookups of the run. -/
theorem lookups_forall {P : Store → Prop} {Q : LookupCall → Prop}
    (hstep : ∀ s q, P s → P (s.step q).store) (hfirst : ∀ s r key, P s → Q (s.lookup r key))
    (hinner : ∀ c d, c.inner? = some d → Q c → Q d) {s : Store} (hs : P s) (qs : List Request) :
    ∀ c ∈ s.lookups qs, Q c := by
  induction qs generalizing s with
  | nil => simp [lookups]
  | cons q qs ih =>
    intro c hc
    rw [lookups, List.mem_append] at hc
    rcases hc with hc | hc
    · cases hq : q.lookup? s with
      | none => simp [hq] at hc
      | some d =>
        have hd : Q d := by
          cases q <;> cases hq <;> exact hfirst s _ _ hs
        exact LookupCall.chain_forall hinner hd c (by simpa [hq] using hc)
    · exact ih (hstep s q hs) c hc

theorem optionally_eq (s : Store) (r : RegistryId) (a : Reply (Except LookupFault InstanceId)) :
    s.optionally r a = ⟨a.store, a.events ++ match a.result with
      | .ok _ => []
      | .error f => [.lookupFailed (s.pointName r) f.fault], a.result.toOption⟩ := by
  unfold optionally
  cases a.result with
  | ok i => simp [Except.toOption]
  | error f => rfl

end Store

end ProviderRegistry
