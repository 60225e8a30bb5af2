import ProviderRegistry.Proofs.LookupOutcome
import ProviderRegistry.Proofs.RegistryRuns

/-! What holds at every moment of a run. The changes that a run makes to a store are few, and a store is
coherent whenever one is made; so it is enough that each of them keeps what is to hold, and of the last,
by which a factory's instance is kept, more is known than of any store whatever. -/

namespace ProviderRegistry

open Store

/-- What every change keeps that a run makes to a coherent store. -/
structure Abiding (P : Store → Prop) : Prop where
  addLoader : ∀ s locator catalog, Coherent s → P s → P (s.addLoader (.new locator catalog)).1
  detached : ∀ s l p, Coherent s → P s → P (s.detachedRegistry l p).store
  request : ∀ c : RegistryCall, Coherent c.store → P c.store → P c.reply.store
  started : ∀ c : LookupCall, Coherent c.store → P c.store → P c.started
  makes : ∀ (c : LookupCall) (point k : String) (p : ProviderClass), Coherent c.store → P c.worked →
    c.settled = .due point k p → (∀ f, ¬c.Fails point k p f) → P (c.worked.finish c.registry k p).store

theorem Invariant.abiding {P : Store → Prop} (h : Invariant P) : Abiding P where
  addLoader s locator catalog _ := h.addLoader s locator catalog
  detached s l p _ := h.detached s l p
  request c _ := h.request c
  started _ _ := h.started
  makes c _ k p _ hw _ _ := h.finish c.worked c.registry k p hw

theorem Store.coherent_moments {s : Store} (h : Coherent s) {qs : List Request} {m : Store}
    (hm : m ∈ s.moments qs) : Coherent m := by
  obtain ⟨pre, post, -, hpre, -⟩ : Divides False s _ _ m := divides_run h False.elim hm
  exact hpre.coherent

theorem Store.after_mem_moments (s : Store) (qs : List Request) : s.after qs ∈ s.moments qs := by
  induction qs generalizing s with
  | nil => exact List.mem_singleton_self s
  | cons q qs ih => exact List.mem_cons_of_mem s (List.mem_append_right _ (ih (s.step q).store))

theorem RegistryCall.instances_reply (c : RegistryCall) : c.reply.store.instances = c.store.instances := by
  have hc := c.course
  generalize c.reply = a at hc
  cases hc <;> rfl

theorem Store.instances_detachedRegistry (s : Store) (l : LoaderId) (p : ExtensionPoint) :
    (s.detachedRegistry l p).store.instances = s.instances := by
  unfold detachedRegistry
  split
  · rfl
  · dsimp only
    split <;> rfl

theorem Store.instance?_detachedRegistry (s : Store) (l : LoaderId) (p : ExtensionPoint) (r : RegistryId)
    (k : String) : (s.detachedRegistry l p).store.instance? r k = s.instance? r k := by
  unfold detachedRegistry
  split
  · rfl
  · dsimp only
    split
    · rfl
    · rename_i hb
      exact instance?_addRegistry _ (RegistryCall.build_ok hb).2 r k

theorem LookupCall.class?_worked {c : LookupCall} (h : Coherent c.store) {point k : String}
    {p : ProviderClass} (hs : c.settled = .due point k p) : c.worked.class? c.registry k = some p := by
  obtain ⟨-, hgrows, -⟩ := worked_steady h hs fun d _ => d.steady
  exact ((grows_started c).trans hgrows).class? (settled_due hs).2.2.1

namespace Abiding

variable {P : Store → Prop} (hP : Abiding P)
include hP

theorem lookup (c : LookupCall) : Coherent c.store → P c.store →
    (∀ m ∈ c.moments, P m) ∧ P c.reply.store := by
  induction c using LookupCall.nested_induction with
  | step c ih =>
    intro h hc
    have hst : P c.started := hP.started c h hc
    have hneeded : ∀ n, c.needed? = some n → P n.1.reply.store := by
      intro n hn
      have hns := LookupCall.needed_store hn
      exact hP.request n.1 (hns ▸ LookupCall.coherent_started h) (hns ▸ hst)
    have hin : ∀ d, c.inner? = some d → (∀ m ∈ d.moments, P m) ∧ P d.reply.store := by
      intro d hi
      obtain ⟨_, _, _, n, -, hn, hd, -⟩ := LookupCall.inner_spec hi
      exact ih d hi (hd ▸ (LookupCall.needed_steady h hn).1) (hd ▸ hneeded n hn)
    have hw : P c.worked := by
      cases c.work with
      | alone _ _ he => exact he ▸ hst
      | ungiven hn _ he => exact he ▸ hneeded _ hn
      | nested _ hi _ he => exact he ▸ (hin _ hi).2
    have hr : P c.reply.store := by
      have hcourse := c.course
      generalize c.reply = a at hcourse
      cases hcourse with
      | refused | cached => exact hc
      | fails => exact hw
      | makes hdue hf => exact hP.makes c _ _ _ h hw hdue hf
    refine ⟨?_, hr⟩
    intro m hm
    rw [LookupCall.moments_eq] at hm
    simp only [List.mem_cons, List.mem_append, Option.mem_toList, Option.map_eq_some_iff, List.not_mem_nil,
      or_false] at hm
    rcases hm with rfl | rfl | ((⟨n, hn, rfl⟩ | hm) | rfl)
    · exact hc
    · exact hst
    · exact hneeded n hn
    · cases hi : c.inner? with
      | none => simp [hi] at hm
      | some d => exact (hin d hi).1 m (by simpa [hi] using hm)
    · exact hr

theorem step {s : Store} (h : Coherent s) (hs : P s) (q : Request) : P (s.step q).store := by
  cases hq : q.lookup? s with
  | some c =>
    obtain rfl := store_lookup? hq
    rw [(step_lookup hq).1]
    exact (hP.lookup c h hs).2
  | none =>
    cases q with
    | addLoader => exact hP.addLoader _ _ _ h hs
    | registry l p => exact hP.request ⟨s, l, p⟩ h hs
    | detachedRegistry => exact hP.detached _ _ _ h hs
    | provider | providerOrDefault | providerByKeyClass | optionalProvider
    | optionalProviderByKeyClass => cases hq

theorem moments {s : Store} (h : Coherent s) (hs : P s) (qs : List Request) : ∀ m ∈ s.moments qs, P m := by
  induction qs generalizing s with
  | nil =>
    intro m hm
    obtain rfl : m = s := by simpa [Store.moments] using hm
    exact hs
  | cons q qs ih =>
    intro m hm
    rw [Store.moments, List.mem_cons, List.mem_append] at hm
    rcases hm with rfl | hm | hm
    · exact hs
    · cases hq : q.lookup? s with
      | none => simp [hq] at hm
      | some c =>
        obtain rfl := store_lookup? hq
        exact (hP.lookup c h hs).1 m (by simpa [hq] using hm)
    · exact ih (h.step q) (hP.step h hs q) m hm

end Abiding

end ProviderRegistry
