import ProviderRegistry.Proofs.RunCalls

/-! One instance for every key of every registry. Whatever a run mixes, two lookups that return an
instance return the same one exactly if they were made on one registry and for one key, and an
instance that is held once stays where it is and keeps the factories of its key from running. -/

namespace ProviderRegistry.Store

variable {s : Store}

theorem held_after (h : Coherent s) {qs : List Request} {c : LookupCall} (hc : c ∈ s.lookups qs)
    {i : InstanceId} (hi : c.reply.result = .ok i) :
    ∃ k, c.effectiveKey = some k ∧ (s.after qs).instance? c.registry k = some i := by
  obtain ⟨hcoh, -, hm⟩ := lookups_spec h qs hc
  obtain ⟨k, hk, hheld⟩ := c.held_of_ok hcoh hi
  exact ⟨k, hk, ((ascending_moments h qs).below _ hm).held _ _ _ hheld⟩

theorem mem_lookups (s : Store) (before : List Request) (q : Request) (later : List Request)
    {c : LookupCall} (hc : q.lookup? (s.after before) = some c) :
    c ∈ s.lookups (before ++ q :: later) := by
  induction before generalizing s with
  | nil =>
    have hc : q.lookup? s = some c := hc
    simp [lookups, hc, c.chain_eq]
  | cons p before ih =>
    simp only [List.cons_append, lookups, List.mem_append]
    exact .inr (ih (s.step p).store hc)

theorem same_instance_iff (h : Coherent s) {qs : List Request} {c d : LookupCall}
    (hc : c ∈ s.lookups qs) (hd : d ∈ s.lookups qs) {i j : InstanceId}
    (hi : c.reply.result = .ok i) (hj : d.reply.result = .ok j) :
    i = j ↔ c.registry = d.registry ∧ c.effectiveKey = d.effectiveKey := by
  obtain ⟨k, hk, hik⟩ := held_after h hc hi
  obtain ⟨k', hk', hjk⟩ := held_after h hd hj
  rw [hk, hk', Option.some.injEq]
  constructor
  · rintro rfl
    exact (h.after qs).apart _ _ _ _ i hik hjk
  · rintro ⟨hr, rfl⟩
    rw [hr, hjk] at hik
    exact (Option.some.inj hik).symm

/-- In a run from nothing: two lookups, nested ones included, that return an instance return the
same one exactly if they are for the same key of the same registry. What a lookup returns is held
in the state it leaves, and what is held at one moment is held at every later one, with no further
factory run for its key. The answer of every request that looks a provider up is that of its lookup. -/
theorem one_instance_per_key (files : FileTree) (qs : List Request) :
    (∀ c ∈ (empty files).lookups qs, ∀ d ∈ (empty files).lookups qs, ∀ i j,
      c.reply.result = .ok i → d.reply.result = .ok j →
        (i = j ↔ c.registry = d.registry ∧ c.effectiveKey = d.effectiveKey)) ∧
    (∀ c ∈ (empty files).lookups qs, ∀ i, c.reply.result = .ok i →
      ∃ k, c.effectiveKey = some k ∧ c.reply.store ∈ (empty files).moments qs ∧
        c.reply.store.instance? c.registry k = some i) ∧
    ((empty files).moments qs).Pairwise (fun t u => ∀ r k i, t.instance? r k = some i →
      u.instance? r k = some i ∧ u.runsFor r k = t.runsFor r k) ∧
    ∀ before q later c, qs = before ++ q :: later → q.lookup? ((empty files).after before) = some c →
      c ∈ (empty files).lookups qs ∧
        (((empty files).after before).step q).result.instance? = c.reply.result.toOption := by
  have h := coherent_empty files
  refine ⟨?_, ?_, ?_, ?_⟩
  · intro c hc d hd i j hi hj
    exact same_instance_iff h hc hd hi hj
  · intro c hc i hi
    obtain ⟨hcoh, -, hm⟩ := lookups_spec h qs hc
    obtain ⟨k, hk, hheld⟩ := c.held_of_ok hcoh hi
    exact ⟨k, hk, hm, hheld⟩
  · refine (ascending_moments h qs).pairwise.imp ?_
    intro t u hg r k i hi
    exact ⟨hg.held r k i hi, hg.runsFor hi⟩
  · intro before q later c hqs hc
    subst hqs
    exact ⟨mem_lookups _ before q later hc, (step_lookup hc).2⟩

def nestedRun : List Request :=
  [codecLoader, .registry 0 codec, .provider 0 (some "zip"), .registry 0 sink, .optionalProvider 1 none]

/-- The lookup inside the factory and the later one by the default key share their instance, the
outer lookup has one of its own. -/
theorem one_instance_per_key_nested : ∃ outer inner later,
    (empty (.ofCwd [])).lookups nestedRun = [outer, inner, later] ∧
    outer.reply.result = .ok 1 ∧ inner.reply.result = .ok 0 ∧ later.reply.result = .ok 0 ∧
    (inner.registry = later.registry ∧ inner.effectiveKey = later.effectiveKey) ∧
    ¬(outer.registry = later.registry ∧ outer.effectiveKey = later.effectiveKey) := by
  obtain ⟨outer, inner, later, hl⟩ : ∃ outer inner later,
      (empty (.ofCwd [])).lookups nestedRun = [outer, inner, later] :=
    List.length_eq_three.1 (by decide +kernel)
  have hres : ((empty (.ofCwd [])).lookups nestedRun).map (·.reply.result) = [.ok 1, .ok 0, .ok 0] := by
    decide +kernel
  rw [hl] at hres
  simp only [List.map_cons, List.map_nil, List.cons.injEq, and_true] at hres
  obtain ⟨ho, hi, hl'⟩ := hres
  have same := (one_instance_per_key (.ofCwd []) nestedRun).1
  rw [hl] at same
  exact ⟨outer, inner, later, hl, ho, hi, hl',
    (same inner (by simp) later (by simp) 0 0 hi hl').1 rfl,
    fun h => absurd ((same outer (by simp) later (by simp) 1 0 ho hl').2 h) (by decide)⟩

end ProviderRegistry.Store
