import ProviderRegistry.Proofs.HomeNeeds

/-! Lookups in a world without cycles. A lookup that takes place inside factories is for a pair that all of
them need, directly or through others, as far as they are those of the home loader's registries. So it
is for none of the keys whose factories are running, and each of the lookups around it, but for the
outermost, is for another pair. -/

namespace ProviderRegistry

open Store

namespace LookupCall

variable {w : World} {c d : LookupCall}

/-- What holds of the lookups of a program in the world: the pairs of the running factories lead to the
pair that the lookup is for. -/
structure Led (w : World) (c : LookupCall) : Prop where
  placed : c.Placed
  later : w.Later c.store
  pairs : ∀ x ∈ c.pending.dropLast, c.store.pair x ∈ w.pairs
  leads : ∀ x ∈ c.pending, ∀ reg, c.store.registries[x.1]? = some reg →
    (reg.point.typeId, reg.bare) ∈ w.registries → ∀ k, c.effectiveKey = some k →
      Relation.TransGen w.DependsOn (c.store.pair x) (c.store.pair (c.registry, k))

/-- Whether the registry has a class under the key that the lookup is for. -/
def Indexed (c : LookupCall) : Prop :=
  ∃ k p, c.effectiveKey = some k ∧ c.store.class? c.registry k = some p

theorem led_lookup {s : Store} (h : w.Later s) (r : RegistryId) (key : Option String) :
    (s.lookup r key).Led w := by
  refine ⟨placed_lookup h.coherent h.stocked r key, h, ?_, ?_⟩ <;> simp [Store.lookup]

theorem pair_mem (h : w.Later c.store) {ty : Nat} (hr : c.store.built? home ty = some c.registry) {k : String}
    {p : ProviderClass} (hk : c.effectiveKey = some k) (hp : c.store.class? c.registry k = some p) :
    c.store.pair (c.registry, k) ∈ w.pairs := by
  obtain ⟨reg, hreg, -⟩ := h.coherent.typed _ _ _ hr
  have hmem : (ty, reg.bare) ∈ w.registries := h.kept _ _ _ hr hreg
  rw [effectiveKey, Store.effectiveKey, hreg] at hk
  rw [Store.class?, hreg] at hp
  rw [pair_of_built h.coherent hr]
  exact World.mem_pairs hmem hk hp

namespace Within

variable {point k : String} {p : ProviderClass} {q : ExtensionPoint}

theorem dependsOn (hw : Within c d point k p q) (h : Coherent c.store) (hd : w.Later d.store)
    {reg : Registry} (hreg : d.store.registries[c.registry]? = some reg)
    (hmem : (reg.point.typeId, reg.bare) ∈ w.registries) {k' : String} (hk' : d.effectiveKey = some k') :
    w.DependsOn (d.store.pair (c.registry, k)) (d.store.pair (d.registry, k')) := by
  obtain ⟨hk, -, hp, -⟩ := settled_due hw.due
  have hg : Grows c.store d.store := (grows_started c).trans (hw.coherent_grows h).2
  have hk : d.store.effectiveKey c.registry c.key = some k := hg.effectiveKey hk
  have hp : d.store.class? c.registry k = some p := hg.class? hp
  have hkept : d.store.built? home q.typeId = some d.registry := hw.kept h
  obtain ⟨reg', hreg', -⟩ := hd.coherent.typed _ _ _ hkept
  rw [Store.effectiveKey, hreg] at hk
  rw [Store.class?, hreg] at hp
  rw [effectiveKey, Store.effectiveKey, hreg'] at hk'
  have hpair : d.store.pair (c.registry, k) = (reg.point.typeId, k) := by simp [Store.pair, hreg]
  rw [hpair, pair_of_built hd.coherent hkept]
  exact World.dependsOn hmem hk hp hw.needs (hd.kept _ _ _ hkept hreg') hk'

end Within

/-- The lookup inside a factory is led to as the one that runs the factory, with one dependence more. -/
theorem Led.inner (h : c.Led w) (hi : c.inner? = some d) : d.Led w := by
  obtain ⟨point, k, p, q, hw⟩ := within_inner hi
  obtain ⟨hk, -, hp, -⟩ := settled_due hw.due
  have hplaced := hw.placed h.placed
  have hlater := h.later.inner hi
  have hg : Grows c.store d.store := (grows_started c).trans (hw.coherent_grows h.placed.coherent).2
  have hsame : ∀ x ∈ (c.registry, k) :: c.pending, d.store.pair x = c.store.pair x := by
    have hindexed : ∀ x ∈ (c.registry, k) :: c.pending, ∃ p, c.store.class? x.1 x.2 = some p :=
      List.forall_mem_cons.2 ⟨⟨p, hp⟩, h.placed.indexed⟩
    intro x hx
    obtain ⟨p', hp'⟩ := hindexed x hx
    obtain ⟨reg, hreg, -⟩ := Option.bind_eq_some_iff.1 hp'
    exact pair_of_grows hg hreg x.2
  refine ⟨hplaced, hlater, ?_, ?_⟩
  · rw [hw.pending]
    intro x hx
    rw [hsame x (List.mem_of_mem_dropLast hx)]
    by_cases hn : c.pending = []
    · rw [hn] at hx
      cases hx
    · rw [List.dropLast_cons_of_ne_nil hn] at hx
      rcases List.mem_cons.1 hx with rfl | hx
      · obtain ⟨ty, hty⟩ := h.placed.home hn
        exact pair_mem h.later hty hk hp
      · exact h.pairs x hx
  · rw [hw.pending]
    intro x hx reg hreg hmem k' hk'
    rcases List.mem_cons.1 hx with rfl | hx
    · exact .single (hw.dependsOn h.placed.coherent hlater hreg hmem hk')
    · -- the factory that runs now is the home loader's too, since others run around it
      obtain ⟨ty, hty⟩ := h.placed.home (List.ne_nil_of_mem hx)
      obtain ⟨reg₁, hreg₁, htype⟩ := hlater.coherent.typed _ _ _ (hg.kept _ _ _ hty)
      have hmem₁ : (reg₁.point.typeId, reg₁.bare) ∈ w.registries := htype ▸ h.later.bare_mem hg hty hreg₁
      have hlast := hw.dependsOn h.placed.coherent hlater hreg₁ hmem₁ hk'
      obtain ⟨p', hp'⟩ := h.placed.indexed x hx
      obtain ⟨reg₀, hreg₀, -⟩ := Option.bind_eq_some_iff.1 hp'
      obtain ⟨reg', hreg', hbare⟩ := hg.bare hreg₀
      rw [hreg, Option.some.injEq] at hreg'
      subst hreg'
      have hto := h.leads x hx reg₀ hreg₀ (by rw [← hbare, ← Registry.point_of_bare hbare]; exact hmem) k hk
      rw [hsame (c.registry, k) List.mem_cons_self] at hlast
      rw [hsame x (List.mem_cons_of_mem _ hx)]
      exact hto.tail hlast

theorem Led.chain (h : c.Led w) : ∀ d ∈ c.chain, d.Led w :=
  chain_forall (fun _ _ hi hc => hc.inner hi) h

theorem Led.not_pending (h : c.Led w) (hw : w.Acyclic) {k : String} (hk : c.effectiveKey = some k) :
    (c.registry, k) ∉ c.pending := by
  intro hx
  obtain ⟨ty, hty⟩ := h.placed.home (List.ne_nil_of_mem hx)
  obtain ⟨reg, hreg, htype⟩ := h.placed.coherent.typed _ _ _ hty
  have hmem : (reg.point.typeId, reg.bare) ∈ w.registries := htype ▸ h.later.kept _ _ _ hty hreg
  exact hw _ (h.leads _ hx reg hreg hmem k hk)

/-- The running factories but the outermost are of distinct pairs. -/
theorem Led.pending_le (h : c.Led w) : c.pending.length ≤ w.pairs.dedup.length + 1 := by
  have hle := length_le_of_pairs h.placed.coherent (h.placed.distinct.sublist (List.dropLast_sublist _))
    h.placed.below fun x hx => List.mem_dedup.2 (h.pairs x hx)
  rw [List.length_dropLast] at hle
  omega

theorem Led.pending_le_of_indexed (h : c.Led w) (hw : w.Acyclic) (hc : c.Indexed) :
    c.pending.length ≤ w.pairs.dedup.length := by
  by_cases hn : c.pending = []
  · rw [hn]
    exact Nat.zero_le _
  · obtain ⟨k, p, hk, hp⟩ := hc
    obtain ⟨ty, hty⟩ := h.placed.home hn
    have hnot := h.not_pending hw hk
    have hdistinct : ((c.registry, k) :: c.pending.dropLast).Nodup := by
      refine List.nodup_cons.2 ⟨?_, h.placed.distinct.sublist (List.dropLast_sublist _)⟩
      exact fun hx => hnot (List.mem_of_mem_dropLast hx)
    have hle := length_le_of_pairs h.placed.coherent hdistinct
      (List.forall_mem_cons.2 ⟨⟨ty, hty⟩, h.placed.below⟩)
      (List.forall_mem_cons.2 ⟨List.mem_dedup.2 (pair_mem h.later hty hk hp),
        fun x hx => List.mem_dedup.2 (h.pairs x hx)⟩)
    have hpos := List.length_pos_iff.2 hn
    rw [List.length_cons, List.length_dropLast] at hle
    omega

/-- Around the innermost of nested lookups one factory is running for each of the others. -/
theorem innermost (c : LookupCall) :
    ∃ d ∈ c.chain, c.pending.length + c.chain.length = d.pending.length + 1 := by
  induction c using nested_induction with
  | step c ih =>
    rw [chain_eq]
    cases hi : c.inner? with
    | none => exact ⟨c, by simp⟩
    | some e =>
      obtain ⟨d, hd, hlen⟩ := ih e hi
      obtain ⟨_, _, _, _, hw⟩ := within_inner hi
      rw [hw.pending, List.length_cons] at hlen
      refine ⟨d, List.mem_cons_of_mem c hd, ?_⟩
      rw [Option.elim_some, List.length_cons]
      omega

end LookupCall

end ProviderRegistry
