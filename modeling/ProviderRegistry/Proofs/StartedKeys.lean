import ProviderRegistry.Proofs.Isolation
import ProviderRegistry.Proofs.SortedTable

/-! The keys that a registry has holders for. A key gets its holder when a factory starts for it, which
only happens for an indexed key, and no holder is ever taken away; so at every moment of a run the holders
are those of the keys whose factories were started, whatever became of these, and there are no more of
them than the index has keys. -/

namespace ProviderRegistry

open Store

namespace Keyed

variable {β : Type} {t : List (String × β)}

theorem Sorted.nodup_keys (h : Sorted t) : (keys t).Nodup :=
  h.imp fun hab => hab.2

end Keyed

namespace Registry

variable {reg : Registry} {ks ks' : List String} {k : String}

structure Tracks (reg : Registry) (ks : List String) : Prop where
  sorted : Keyed.Sorted reg.cells
  indexed : Keyed.keys reg.cells ⊆ reg.index.keys
  started : ∀ k, k ∈ Keyed.keys reg.cells ↔ k ∈ ks

theorem tracks_nil (h : reg.cells = []) : reg.Tracks [] := by
  refine ⟨?_, ?_, ?_⟩ <;> simp [h, Keyed.keys, Keyed.Sorted]

theorem Tracks.congr (h : reg.Tracks ks) (hks : ∀ j, j ∈ ks' ↔ j ∈ ks) : reg.Tracks ks' :=
  ⟨h.sorted, h.indexed, fun j => (h.started j).trans (hks j).symm⟩

theorem Tracks.put (h : reg.Tracks ks) (hk : k ∈ reg.index.keys) (hks : ∀ j, j ∈ ks' ↔ j ∈ ks ∨ k = j)
    (v : Holder InstanceId) : Tracks { reg with cells := Keyed.put k v reg.cells } ks' := by
  refine ⟨Keyed.sorted_put h.sorted k v, ?_, fun j => ?_⟩
  · intro j hj
    rcases Keyed.mem_keys_put.1 hj with rfl | hj
    · exact hk
    · exact h.indexed hj
  · rw [Keyed.mem_keys_put, h.started, hks, or_comm, eq_comm]

theorem Tracks.touch (h : reg.Tracks ks) (hk : k ∈ reg.index.keys)
    (hks : ∀ j, j ∈ ks' ↔ j ∈ ks ∨ k = j) : (reg.touch k).Tracks ks' := by
  unfold Registry.touch
  split
  · rename_i v hv
    have hmem : k ∈ ks := (h.started k).1 (Keyed.mem_keys_iff.2 (Option.isSome_iff_exists.2 ⟨v, hv⟩))
    refine h.congr fun j => (hks j).trans (or_iff_left_of_imp ?_)
    rintro rfl
    exact hmem
  · exact h.put hk hks .empty

theorem Tracks.fill (h : reg.Tracks ks) (hk : k ∈ ks) (i : InstanceId) : (reg.fill k i).Tracks ks := by
  refine h.put (h.indexed ((h.started k).2 hk)) (fun j => (or_iff_left_of_imp ?_).symm) _
  rintro rfl
  exact hk

theorem Tracks.length_eq (h : reg.Tracks ks) (hn : ks.Nodup) : reg.started = ks.length := by
  have hperm := (List.perm_ext_iff_of_nodup h.sorted.nodup_keys hn).2 h.started
  rw [← hperm.length_eq, Keyed.keys, List.length_map, Registry.started]

theorem Tracks.started_le (h : reg.Tracks ks) : reg.started ≤ reg.index.size := by
  have hle := (List.subperm_of_subset h.sorted.nodup_keys h.indexed).length_le
  simpa [Keyed.keys, KeyIndex.keys, Registry.started, KeyIndex.size] using hle

end Registry

namespace Store

variable {s t : Store} {r : RegistryId} {k : String} {c : ProviderClass}

def startedKeys (s : Store) (r : RegistryId) : List String :=
  ((s.runs.filter fun x => x.registry = r).map (·.key)).dedup

theorem nodup_startedKeys (s : Store) (r : RegistryId) : (s.startedKeys r).Nodup :=
  List.nodup_dedup _

theorem mem_startedKeys : k ∈ s.startedKeys r ↔ ∃ x ∈ s.runs, x.registry = r ∧ x.key = k := by
  simp [startedKeys, and_assoc]

theorem startedKeys_of_runs (h : t.runs = s.runs) (r : RegistryId) : t.startedKeys r = s.startedKeys r := by
  rw [startedKeys, h, startedKeys]

theorem mem_startedKeys_start (s : Store) (r j : RegistryId) (key k : String) (c : ProviderClass) :
    k ∈ (s.start r key c).startedKeys j ↔ k ∈ s.startedKeys j ∨ r = j ∧ key = k := by
  simp only [mem_startedKeys, start, List.mem_append, List.mem_singleton, or_and_right, exists_or,
    exists_eq_left]

theorem Grows.mem_startedKeys (h : Grows s t) (hk : k ∈ s.startedKeys r) : k ∈ t.startedKeys r := by
  obtain ⟨x, hx, hxr⟩ := Store.mem_startedKeys.1 hk
  obtain ⟨new, hnew, -⟩ := h.runs
  exact Store.mem_startedKeys.2 ⟨x, hnew ▸ List.mem_append_left new hx, hxr⟩

/-- Whether the holders of every registry are those of the keys that a factory was started for. -/
structure Tracked (s : Store) : Prop where
  tracks : ∀ r (reg : Registry), s.registries[r]? = some reg → reg.Tracks (s.startedKeys r)
  placed : ∀ x ∈ s.runs, x.registry < s.registries.length

theorem tracked_empty (files : FileTree) : (empty files).Tracked := by
  constructor <;> simp [empty]

theorem Tracked.startedKeys_eq_nil (h : s.Tracked) (hr : s.registries.length ≤ r) :
    s.startedKeys r = [] := by
  rw [List.eq_nil_iff_forall_not_mem]
  intro k hk
  obtain ⟨x, hx, rfl, -⟩ := mem_startedKeys.1 hk
  exact absurd (h.placed x hx) (Nat.not_lt.2 hr)

theorem Tracked.append (h : s.Tracked) (new : List Registry) (hr : t.registries = s.registries ++ new)
    (hn : ∀ reg ∈ new, reg.cells = []) (hruns : t.runs = s.runs) : t.Tracked := by
  refine ⟨fun r reg hreg => ?_, fun x hx => ?_⟩
  · rw [startedKeys_of_runs hruns]
    rw [hr] at hreg
    by_cases hlt : r < s.registries.length
    · rw [List.getElem?_append_left hlt] at hreg
      exact h.tracks r reg hreg
    · rw [List.getElem?_append_right (Nat.le_of_not_lt hlt)] at hreg
      rw [h.startedKeys_eq_nil (Nat.le_of_not_lt hlt)]
      exact Registry.tracks_nil (hn reg (List.mem_of_getElem? hreg))
  · rw [hr, List.length_append]
    exact Nat.lt_add_right _ (h.placed x (hruns ▸ hx))

theorem Tracked.of_registries (h : s.Tracked) (hr : t.registries = s.registries) (hruns : t.runs = s.runs) :
    t.Tracked :=
  h.append [] (by rw [hr, List.append_nil]) (by simp) hruns

theorem Tracked.detached (h : s.Tracked) (l : LoaderId) (p : ExtensionPoint) :
    (s.detachedRegistry l p).store.Tracked := by
  unfold detachedRegistry
  split
  · exact h
  · dsimp only
    split
    · exact h.of_registries rfl rfl
    · rename_i reg hb
      exact h.append [reg] rfl (by simpa using (RegistryCall.build_ok hb).2) rfl

theorem Tracked.request {c : RegistryCall} (h : c.store.Tracked) : c.reply.store.Tracked := by
  have hc := c.course
  generalize c.reply = a at hc
  cases hc with
  | invalid | absent | cached => exact h
  | failed => exact h.of_registries rfl rfl
  | @built l reg _ _ _ hb =>
    exact h.append [reg] rfl (by simpa using (RegistryCall.build_ok hb).2) rfl

theorem mem_keys_of_class? {reg : Registry} (hr : s.registries[r]? = some reg) (hc : s.class? r k = some c) :
    k ∈ reg.index.keys := by
  have hget : reg.index.get? k = some c := by simpa [class?, hr] using hc
  exact Keyed.mem_keys_iff.2 (Option.isSome_iff_exists.2 ⟨c, hget⟩)

theorem Tracked.start (h : s.Tracked) (hc : s.class? r k = some c) : (s.start r k c).Tracked := by
  refine ⟨fun j reg hreg => ?_, fun x hx => ?_⟩
  · rw [registries_start] at hreg
    have hkeys := fun i => mem_startedKeys_start s r j k i c
    split at hreg
    · rename_i hj
      subst hj
      obtain ⟨reg', hreg', rfl⟩ := Option.map_eq_some_iff.1 hreg
      exact (h.tracks r reg' hreg').touch (mem_keys_of_class? hreg' hc) fun i => by simpa using hkeys i
    · rename_i hj
      exact (h.tracks j reg hreg).congr fun i => by simpa [hj] using hkeys i
  · rw [Store.start] at hx ⊢
    rw [List.length_modify]
    rcases List.mem_append.1 hx with hx | hx
    · exact h.placed x hx
    · obtain ⟨reg, hreg, -⟩ := Option.bind_eq_some_iff.1 hc
      rw [List.mem_singleton.1 hx]
      exact (List.getElem?_eq_some_iff.1 hreg).1

theorem registries_finish (s : Store) (r j : RegistryId) (key : String) (c : ProviderClass) :
    (s.finish r key c).store.registries[j]? =
      if r = j then s.registries[j]?.map (·.fill key s.instances.length) else s.registries[j]? := by
  rw [finish, List.getElem?_modify]
  split <;> simp [*]

theorem Tracked.finish (h : s.Tracked) (hk : k ∈ s.startedKeys r) (c : ProviderClass) :
    (s.finish r k c).store.Tracked := by
  refine ⟨fun j reg hreg => ?_, fun x hx => ?_⟩
  · change reg.Tracks (s.startedKeys j)
    rw [registries_finish] at hreg
    split at hreg
    · rename_i hj
      subst hj
      obtain ⟨reg', hreg', rfl⟩ := Option.map_eq_some_iff.1 hreg
      exact (h.tracks r reg' hreg').fill hk _
    · exact h.tracks j reg hreg
  · rw [Store.finish, List.length_modify]
    exact h.placed x hx

end Store

namespace LookupCall

variable {c : LookupCall} {point k : String} {p : ProviderClass}

theorem mem_startedKeys_started (hs : c.settled = .due point k p) :
    k ∈ c.started.startedKeys c.registry := by
  rw [started_of_due hs, mem_startedKeys_start]
  exact .inr ⟨rfl, rfl⟩

end LookupCall

theorem Store.abiding_tracked : Abiding Tracked where
  addLoader _ _ _ _ h := h.of_registries rfl rfl
  detached _ l p _ h := h.detached l p
  request _ _ h := h.request
  started c _ h := by
    unfold LookupCall.started
    split
    · rename_i hs
      exact h.start (LookupCall.settled_due hs).2.2.1
    · exact h
  makes c point k p hc hw hs _ := by
    -- the run was counted before the factory worked, and counted runs stay
    obtain ⟨-, hg, -⟩ := LookupCall.worked_steady hc hs fun d _ => d.steady
    exact hw.finish (hg.mem_startedKeys (LookupCall.mem_startedKeys_started hs)) p

end ProviderRegistry
