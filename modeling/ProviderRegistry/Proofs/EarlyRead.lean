import ProviderRegistry.Proofs.LookupTraces
import ProviderRegistry.Proofs.StartedKeys

/-! A lookup reads the holder of its key before it asks the index. To leave that out is to go through the
index for every key, to add a holder where there is none and to ask it for the instance, with the factory
as its initialiser. It comes to the same, since a filled holder stands under an indexed key only, and the
key of a running factory has a holder already. -/

namespace ProviderRegistry

open Store

theorem modify_eq_self {α : Type} {l : List α} {i : Nat} {f : α → α} (h : ∀ x, l[i]? = some x → f x = x) :
    l.modify i f = l := by
  refine List.ext_getElem? fun j => ?_
  rw [List.getElem?_modify]
  split
  · rename_i hij
    subst hij
    cases hx : l[i]? with
    | none => rfl
    | some x => simp [h x hx]
  · simp

namespace Holder

variable {α ε : Type} {h : Holder α}

theorem getOrInit_of_none (hv : h.value = none) (init : Unit → Except ε α) :
    (h.getOrInit init).ran = true ∧ (h.getOrInit init).result = init () := by
  unfold getOrInit
  rw [hv]
  cases init () <;> exact ⟨rfl, rfl⟩

end Holder

namespace Registry

variable {reg : Registry} {k : String}

theorem touch_of_mem (h : k ∈ Keyed.keys reg.cells) : reg.touch k = reg := by
  obtain ⟨v, hv⟩ := Option.isSome_iff_exists.1 (Keyed.mem_keys_iff.1 h)
  rw [touch, hv]

theorem mem_keys_touch (reg : Registry) (k : String) : k ∈ Keyed.keys (reg.touch k).cells := by
  rw [Keyed.mem_keys_iff, get?_cells_touch, if_pos rfl]
  rfl

theorem mem_keys_of_instance? {i : InstanceId} (h : reg.instance? k = some i) : k ∈ Keyed.keys reg.cells := by
  obtain ⟨v, hv, -⟩ := Option.bind_eq_some_iff.1 h
  exact Keyed.mem_keys_iff.2 (Option.isSome_iff_exists.2 ⟨v, hv⟩)

theorem inspect_eq (reg : Registry) :
    ∃ fields, fields.map Prod.fst = ["extension_point", "default_key", "keys", "key_classes"] ∧
      reg.inspect = Text.Inspect.record "Registry" (fields ++ [("instances", toString reg.started)]) false :=
  ⟨[_, _, _, _], rfl, rfl⟩

@[simp] theorem touch_touch (reg : Registry) (k : String) : (reg.touch k).touch k = reg.touch k :=
  touch_of_mem (reg.mem_keys_touch k)

end Registry

namespace Store

variable {s : Store} {r : RegistryId} {k : String}

def touch (s : Store) (r : RegistryId) (key : String) : Store :=
  { s with registries := s.registries.modify r (·.touch key) }

/-- What a request on the holder of a key comes to. A key without one is given one, and the initialiser
runs in that store unless the holder is filled. -/
def accessHolder (s : Store) (r : RegistryId) (key : String)
    (init : Store → Reply (Except LookupFault InstanceId)) : Reply (Except LookupFault InstanceId) :=
  let s := s.touch r key
  let made := init s
  let access := ((s.cell? r key).getD .empty).getOrInit fun _ => made.result
  if access.ran then ⟨made.store, made.events, access.result⟩ else ⟨s, [], access.result⟩

/-- The initialiser of a holder reports the start of the factory and runs it. Asked for while it runs it
does not return. -/
def initialise (need : Pending → Need) (pending : Pending) (s : Store) (r : RegistryId) (point key : String)
    (c : ProviderClass) : Reply (Except LookupFault InstanceId) :=
  if pending.contains (r, key) then ⟨s, [], .error (.unending point key)⟩
  else
    let made := runFactory (need ((r, key) :: pending)) s r point key c
    ⟨made.store, .instantiating point key c.name :: made.events, made.result⟩

/-- A lookup that reads no holder early: the class under the key is found, then the holder of the key is
asked. -/
def lookupByIndexWith (need : Pending → Need) (pending : Pending) (s : Store) (r : RegistryId)
    (key : Option String) : Reply (Except LookupFault InstanceId) :=
  match s.registries[r]? with
  | none => ⟨s, [], .error .noRegistry⟩
  | some reg =>
    match reg.effectiveKey key with
    | none => ⟨s, [], .error (.noKey reg.point.name)⟩
    | some k =>
      match reg.index.get? k with
      | none => ⟨s, [], .error (.unknownKey reg.point.name k)⟩
      | some c => s.accessHolder r k fun s => initialise need pending s r reg.point.name k c

/-- Such a lookup nests as the one with the early read does. -/
def lookupByIndexFuel : Nat → Pending → Store → RegistryId → Option String →
    Reply (Except LookupFault InstanceId)
  | 0 => fun _ s r key => ⟨s, [], .error (.unending (s.pointName r) (key.getD ""))⟩
  | n + 1 => lookupByIndexWith (needWith (lookupByIndexFuel n))

def providerByIndex (s : Store) (r : RegistryId) (key : Option String) :
    Reply (Except LookupFault InstanceId) :=
  lookupByIndexFuel s.depthBound [] s r key

theorem start_touch (s : Store) (r : RegistryId) (k : String) (c : ProviderClass) :
    (s.touch r k).start r k c = s.start r k c := by
  have htwice : (s.registries.modify r (·.touch k)).modify r (·.touch k) = s.registries.modify r (·.touch k) := by
    refine modify_eq_self fun reg hreg => ?_
    rw [List.getElem?_modify_eq] at hreg
    obtain ⟨reg', -, rfl⟩ := Option.map_eq_some_iff.1 hreg
    exact reg'.touch_touch k
  simp only [start, touch, htwice]

theorem runFactory_touch (need : Need) (s : Store) (r : RegistryId) (point k : String) (c : ProviderClass) :
    runFactory need (s.touch r k) r point k c = runFactory need s r point k c := by
  simp only [runFactory, start_touch]

theorem touch_of_mem {reg : Registry} (hr : s.registries[r]? = some reg) (hk : k ∈ Keyed.keys reg.cells) :
    s.touch r k = s := by
  have hregs : s.registries.modify r (·.touch k) = s.registries := by
    refine modify_eq_self fun reg' hreg => ?_
    rw [hr, Option.some.injEq] at hreg
    exact hreg ▸ Registry.touch_of_mem hk
  rw [touch, hregs]

theorem value_touch {reg : Registry} (hr : s.registries[r]? = some reg) :
    (((s.touch r k).cell? r k).getD .empty).value = reg.instance? k := by
  have hcell : (s.touch r k).cell? r k = some ((Keyed.get? k reg.cells).getD .empty) := by
    simp [cell?, touch, hr, Registry.get?_cells_touch]
  rw [hcell, Registry.instance?]
  cases Keyed.get? k reg.cells <;> rfl

theorem accessHolder_of_some {reg : Registry} {i : InstanceId} (hr : s.registries[r]? = some reg)
    (hi : reg.instance? k = some i) (init : Store → Reply (Except LookupFault InstanceId)) :
    s.accessHolder r k init = ⟨s, [], .ok i⟩ := by
  have hvalue := value_touch (k := k) hr
  rw [hi, touch_of_mem hr (Registry.mem_keys_of_instance? hi)] at hvalue
  simp only [accessHolder, touch_of_mem hr (Registry.mem_keys_of_instance? hi),
    Holder.getOrInit_of_some hvalue]
  rfl

theorem accessHolder_of_none {reg : Registry} (hr : s.registries[r]? = some reg)
    (hi : reg.instance? k = none) (init : Store → Reply (Except LookupFault InstanceId)) :
    s.accessHolder r k init = init (s.touch r k) := by
  have hvalue := (value_touch hr).trans hi
  obtain ⟨hran, hresult⟩ := Holder.getOrInit_of_none hvalue fun _ => (init (s.touch r k)).result
  simp only [accessHolder, hran, hresult, if_true]

/-- Without the early read a lookup comes to the same, as long as every instance is held under an indexed
key and the keys of running factories have holders. -/
theorem lookupByIndexWith_eq (need : Pending → Need) {pending : Pending} (h : Coherent s)
    (hp : ∀ k reg, (r, k) ∈ pending → s.registries[r]? = some reg → k ∈ Keyed.keys reg.cells)
    (key : Option String) : lookupByIndexWith need pending s r key = lookupWith need pending s r key := by
  unfold lookupByIndexWith lookupWith settle
  cases hr : s.registries[r]? with
  | none => rfl
  | some reg =>
    dsimp only
    cases hk : reg.effectiveKey key with
    | none => rfl
    | some k =>
      dsimp only
      cases hi : reg.instance? k with
      | some i =>
        -- what is held was made by the class under the key, so the index does not refuse the key
        obtain ⟨c, hc, -⟩ := h.made r k i (by simpa [instance?, hr] using hi)
        have hget : reg.index.get? k = some c := by simpa [class?, hr] using hc
        simp only [hget, accessHolder_of_some hr hi]
      | none =>
        cases hc : reg.index.get? k with
        | none => rfl
        | some c =>
          simp only [accessHolder_of_none hr hi, initialise, runFactory_touch]
          by_cases hpending : (r, k) ∈ pending
          · -- a key whose factory is running has its holder, so none was added before the refusal
            simp [hpending, touch_of_mem hr (hp k reg hpending hr)]
          · simp [hpending]

end Store

namespace LookupCall

variable {c d : LookupCall}

def replyByIndex (c : LookupCall) : Reply (Except LookupFault InstanceId) :=
  lookupByIndexFuel c.depth c.pending c.store c.registry c.key

/-- What holds of every lookup of a run: the holders are those of the keys whose factories were started,
and so were those of the keys whose factories are running. -/
structure Ready (c : LookupCall) : Prop where
  coherent : Coherent c.store
  tracked : c.store.Tracked
  pending : ∀ x ∈ c.pending, x.2 ∈ c.store.startedKeys x.1

theorem ready_lookup {s : Store} (h : Coherent s) (ht : s.Tracked) (r : RegistryId) (key : Option String) :
    (s.lookup r key).Ready :=
  ⟨h, ht, by simp [Store.lookup]⟩

theorem Ready.inner (h : c.Ready) (hi : c.inner? = some d) : d.Ready := by
  obtain ⟨point, k, p, q, hw⟩ := within_inner hi
  obtain ⟨hc, hg⟩ := hw.coherent_grows h.coherent
  have hstarted := abiding_tracked.started c h.coherent h.tracked
  refine ⟨hc, ?_, ?_⟩
  · rw [hw.store]
    exact abiding_tracked.request _ (coherent_started h.coherent) hstarted
  · rw [hw.pending]
    intro x hx
    rcases List.mem_cons.1 hx with rfl | hx
    · exact hg.mem_startedKeys (mem_startedKeys_started hw.due)
    · exact hg.mem_startedKeys ((grows_started c).mem_startedKeys (h.pending x hx))

theorem inner?_of_needs {n : Nat} {point k : String} {p : ProviderClass} {q : ExtensionPoint}
    {need : Option String} {r : RegistryId} (hd : c.depth = n + 1) (hs : c.settled = .due point k p)
    (hf : p.factory = .needs q need)
    (hr : ((c.store.start c.registry k p).registry home q).result = .ok r) :
    c.inner? = some ⟨n, (c.registry, k) :: c.pending, ((c.store.start c.registry k p).registry home q).store,
      r, need⟩ := by
  have hneed : c.needed? = some (⟨c.store.start c.registry k p, home, q⟩, need) := by
    simp only [needed?, hs, hf, started_of_due hs]
  have hgiven : (RegistryCall.mk (c.store.start c.registry k p) home q).reply.result = .ok r := hr
  simp only [inner?, hs, hneed, hgiven, hd, Nat.add_sub_cancel]
  rfl

theorem Ready.replyByIndex_eq (c : LookupCall) : c.Ready → c.replyByIndex = c.reply := by
  induction c using nested_induction with
  | step c ih =>
    intro h
    cases hd : c.depth with
    | zero => simp only [replyByIndex, reply, hd, lookupByIndexFuel, lookupFuel]
    | succ n =>
      have hheld : ∀ k reg, (c.registry, k) ∈ c.pending → c.store.registries[c.registry]? = some reg →
          k ∈ Keyed.keys reg.cells := by
        intro k reg hk hreg
        exact ((h.tracked.tracks _ _ hreg).started k).2 (h.pending _ hk)
      have hreply : c.reply = lookupWith (needWith (lookupFuel n)) c.pending c.store c.registry c.key := by
        simp only [reply, hd, lookupFuel]
      have hset : c.settled = c.store.settle c.pending c.registry c.key := by simp only [settled, hd]
      rw [replyByIndex, hd, lookupByIndexFuel, lookupByIndexWith_eq _ h.coherent hheld, hreply]
      apply lookupWith_congr rfl
      intro point k p q need r hs hf hr
      have hi := inner?_of_needs hd (hset.trans hs) hf hr
      exact ih _ hi (h.inner hi)

end LookupCall

namespace Store

variable {s : Store}

theorem ready_lookups (h : Coherent s) (ht : s.Tracked) (qs : List Request) : ∀ c ∈ s.lookups qs, c.Ready := by
  refine lookups_forall (P := fun s => Coherent s ∧ s.Tracked) ?_ ?_ ?_ ⟨h, ht⟩ qs
  · exact fun s q hs => ⟨hs.1.step q, abiding_tracked.step hs.1 hs.2 q⟩
  · exact fun s r key hs => LookupCall.ready_lookup hs.1 hs.2 r key
  · exact fun c d hi hc => hc.inner hi

theorem providerByIndex_eq (h : Coherent s) (ht : s.Tracked) (r : RegistryId) (key : Option String) :
    s.providerByIndex r key = s.provider r key :=
  LookupCall.Ready.replyByIndex_eq _ (LookupCall.ready_lookup h ht r key)

/-- At every moment of a run: a registry has holders for indexed keys only; what is held under one was made
by the class under it; its holders are as many as the keys that a factory was started for, that is the
number of instances shown, and no more than it has keys. And a lookup on any registry for any key comes to
the same, leaves the same and reports the same without the early read, as do all lookups of the run. -/
theorem early_read_unseen (files : FileTree) (qs : List Request) :
    (∀ m ∈ (empty files).moments qs,
      (∀ r (reg : Registry), m.registries[r]? = some reg →
        Keyed.keys reg.cells ⊆ reg.index.keys ∧
        (∀ k i, reg.instance? k = some i → ∃ p, reg.index.get? k = some p ∧ m.instances[i]? = some p) ∧
        (∃ fields, fields.map Prod.fst = ["extension_point", "default_key", "keys", "key_classes"] ∧
          reg.inspect = Text.Inspect.record "Registry"
            (fields ++ [("instances", toString (m.startedKeys r).length)]) false) ∧
        (m.startedKeys r).length ≤ reg.index.size) ∧
      ∀ r key, m.providerByIndex r key = m.provider r key) ∧
    ∀ c ∈ (empty files).lookups qs, c.replyByIndex = c.reply := by
  have hc := coherent_empty files
  have ht := tracked_empty files
  refine ⟨fun m hm => ?_, fun c hmem => LookupCall.Ready.replyByIndex_eq c (ready_lookups hc ht qs c hmem)⟩
  have hcm := coherent_moments hc hm
  have htm := abiding_tracked.moments hc ht qs m hm
  refine ⟨fun r reg hr => ?_, providerByIndex_eq hcm htm⟩
  have htracks := htm.tracks r reg hr
  have hlength := htracks.length_eq (nodup_startedKeys m r)
  refine ⟨htracks.indexed, fun k i hi => ?_, hlength ▸ reg.inspect_eq, hlength ▸ htracks.started_le⟩
  obtain ⟨p, hp, hmade⟩ := hcm.made r k i (by simpa [instance?, hr] using hi)
  exact ⟨p, by simpa [class?, hr] using hp, hmade⟩

/-- A key whose factory failed is counted, and so is that of the factory that needed it. -/
example : (((empty (.ofCwd [])).after (fullDiskRun ++ [.provider 0 (some "zip")])).registries.map
    fun reg => (reg.started, reg.instance? "zip", reg.instance? "file")) =
      [(1, none, none), (1, none, none)] := by
  decide +kernel

end Store

end ProviderRegistry
