import ProviderRegistry.Proofs.StartedKeys

/-! Lookups whose factories look nothing up. What such a lookup comes to is settled before it changes
anything: it is answered right away, or one factory runs for it, and then it is known whether that makes an
instance. The plan depends on the key, the index, the holder of the key and on how often the factory of the
class was run, and on nothing else. -/

namespace ProviderRegistry

/-- What a lookup comes to whose factory looks nothing up: an answer, or a run of the factory with the fault
that it ends with, if it does. -/
inductive Plan
  | answer (result : Except LookupFault InstanceId)
  | run (point : String) (x : FactoryRun) (fault : Option LookupFault)

namespace Store

variable {s t : Store} {r : RegistryId} {key : Option String}

/-- A run of a factory that looks nothing up, whether it makes an instance or not. -/
def attempt (s : Store) (x : FactoryRun) (made : Bool) : Store :=
  if made then ((s.start x.registry x.key x.provider).finish x.registry x.key x.provider).store
  else s.start x.registry x.key x.provider

def ownFault? (s : Store) (point key : String) (p : ProviderClass) : Option LookupFault :=
  match p.factory with
  | .makesOther => some (.otherType point key p.name)
  | .fails message times => if s.stillFails p times then some (.failed point key message) else none
  | .makes | .needs _ _ => none

def plan (s : Store) (r : RegistryId) (key : Option String) : Plan :=
  match s.settle [] r key with
  | .refused f => .answer (.error f)
  | .cached i => .answer (.ok i)
  | .due point k p => .run point ⟨r, k, p⟩ ((s.start r k p).ownFault? point k p)

end Store

open Store

namespace Plan

def carriedOut (s : Store) : Plan → Reply (Except LookupFault InstanceId)
  | answer a => ⟨s, [], a⟩
  | run point x fault => ⟨s.attempt x fault.isNone, [.instantiating point x.key x.provider.name],
      fault.elim (.ok s.instances.length) .error⟩

def renumbered (σ : Equiv.Perm InstanceId) : Plan → Plan
  | answer a => answer (a.map σ)
  | run point x fault => run point x fault

def makes : Plan → Bool
  | answer _ => false
  | run _ _ fault => fault.isNone

end Plan

namespace Store

variable {s t : Store} {r : RegistryId} {key : Option String}

theorem runFactory_alone (need : Need) (s : Store) (r : RegistryId) (point k : String) {p : ProviderClass}
    (hp : p.factory.need? = none) : runFactory need s r point k p =
      match (s.start r k p).ownFault? point k p with
      | some f => ⟨s.start r k p, [], .error f⟩
      | none => (s.start r k p).finish r k p := by
  unfold runFactory ownFault?
  cases hf : p.factory with
  | makes | makesOther => rfl
  | fails message times =>
    dsimp only
    split <;> rfl
  | needs q need => rw [hf] at hp; cases hp

theorem provider_eq_plan (hp : ∀ k p, s.effectiveKey r key = some k → s.class? r k = some p →
    p.factory.need? = none) : s.provider r key = (s.plan r key).carriedOut s := by
  obtain ⟨n, hn⟩ : ∃ n, s.depthBound = n + 1 := ⟨_, rfl⟩
  rw [provider, hn, lookupFuel, lookupWith, plan]
  cases hs : s.settle [] r key with
  | refused f | cached i => rfl
  | due point k p =>
    obtain ⟨hk, -, hc, -⟩ := LookupCall.settle_due hs
    dsimp only
    rw [runFactory_alone _ s r point k (hp k p hk hc)]
    cases (s.start r k p).ownFault? point k p with
    | none => rfl
    | some f => rfl

theorem getElem?_bare (hb : t.registries.map Registry.bare = s.registries.map Registry.bare) (r : RegistryId) :
    t.registries[r]?.map Registry.bare = s.registries[r]?.map Registry.bare := by
  rw [← List.getElem?_map, hb, List.getElem?_map]

theorem class?_eq_bare (s : Store) (r : RegistryId) (k : String) :
    s.class? r k = (s.registries[r]?.map Registry.bare).bind (·.index.get? k) := by
  rw [class?, Option.bind_map]
  rfl

theorem effectiveKey_eq_bare (s : Store) (r : RegistryId) (key : Option String) :
    s.effectiveKey r key = (s.registries[r]?.map Registry.bare).bind (·.effectiveKey key) := by
  rw [effectiveKey, Option.bind_map]
  rfl

theorem bare_attempt (s : Store) (x : FactoryRun) (made : Bool) :
    (s.attempt x made).registries.map Registry.bare = s.registries.map Registry.bare := by
  have hstart : (s.start x.registry x.key x.provider).registries.map Registry.bare =
      s.registries.map Registry.bare := by
    rw [start, map_modify_of_same (Registry.bare_touch · x.key)]
  cases made with
  | false => exact hstart
  | true => exact (map_modify_of_same (Registry.bare_fill · x.key _) _ _).trans hstart

theorem instances_attempt (s : Store) (x : FactoryRun) (made : Bool) :
    (s.attempt x made).instances = s.instances ++ if made then [x.provider] else [] := by
  cases made with
  | false => exact (List.append_nil _).symm
  | true => rfl

theorem runs_attempt (s : Store) (x : FactoryRun) (made : Bool) : (s.attempt x made).runs = s.runs ++ [x] := by
  cases made <;> rfl

theorem runsOf_attempt (s : Store) (x : FactoryRun) (made : Bool) (p : ProviderClass) :
    (s.attempt x made).runsOf p = s.runsOf p + if x.provider.sameAs p then 1 else 0 := by
  rw [runsOf, runs_attempt, List.countP_append, List.countP_singleton, runsOf]

theorem cell?_attempt {x : FactoryRun} {p : ProviderClass} (hx : s.class? x.registry x.key = some p)
    (made : Bool) (r : RegistryId) (k : String) : (s.attempt x made).cell? r k =
      if x.registry = r ∧ x.key = k then
        some (if made then ⟨some s.instances.length⟩ else (s.cell? x.registry x.key).getD .empty)
      else s.cell? r k := by
  obtain ⟨reg, hreg, -⟩ := Option.bind_eq_some_iff.1 hx
  have hcell : s.cell? x.registry x.key = Keyed.get? x.key reg.cells := by rw [cell?, hreg]; rfl
  by_cases hr : x.registry = r
  · subst hr
    have hstart : (s.start x.registry x.key x.provider).registries[x.registry]? = some (reg.touch x.key) := by
      rw [registries_start, if_pos rfl, hreg]
      rfl
    have hother : s.cell? x.registry k = Keyed.get? k reg.cells := by rw [cell?, hreg]; rfl
    cases made with
    | false =>
      rw [attempt, if_neg Bool.false_ne_true, cell?, hstart, Option.bind_some, Registry.get?_cells_touch, hcell,
        hother]
      simp
    | true =>
      rw [attempt, if_pos rfl, cell?, registries_finish, if_pos rfl, hstart, Option.map_some, Option.bind_some,
        Registry.get?_cells_fill, Registry.get?_cells_touch, hother]
      by_cases hk : x.key = k <;> simp [hk, start]
  · have hreg : (s.attempt x made).registries[r]? = s.registries[r]? := by
      cases made with
      | false => exact (registries_start ..).trans (if_neg hr)
      | true => exact (registries_finish ..).trans ((if_neg hr).trans ((registries_start ..).trans (if_neg hr)))
    rw [cell?, hreg, if_neg fun h => hr h.1, cell?]

theorem instance?_attempt {x : FactoryRun} {p : ProviderClass} (hx : s.class? x.registry x.key = some p)
    (made : Bool) {k : String} (hne : ¬(x.registry = r ∧ x.key = k)) :
    (s.attempt x made).instance? r k = s.instance? r k := by
  rw [instance?_eq_cell?, cell?_attempt hx, if_neg hne, instance?_eq_cell?]

theorem class?_attempt (x : FactoryRun) (made : Bool) (r : RegistryId) (k : String) :
    (s.attempt x made).class? r k = s.class? r k := by
  rw [class?_eq_bare, class?_eq_bare, getElem?_bare (bare_attempt s x made)]

theorem length_instances_attempt (s : Store) (x : FactoryRun) (made : Bool) :
    (s.attempt x made).instances.length = s.instances.length + made.toNat := by
  rw [instances_attempt, List.length_append]
  cases made <;> rfl

theorem Tracked.attempt (h : s.Tracked) {x : FactoryRun} (hx : s.class? x.registry x.key = some x.provider)
    (made : Bool) : (s.attempt x made).Tracked := by
  have hstart := h.start hx
  cases made with
  | false => exact hstart
  | true =>
    refine hstart.finish ?_ x.provider
    exact (mem_startedKeys_start ..).2 (.inr ⟨rfl, rfl⟩)

theorem settle_eq_bare (s : Store) (r : RegistryId) (key : Option String) : s.settle [] r key =
    match s.registries[r]?.map Registry.bare with
    | none => .refused .noRegistry
    | some reg =>
      match reg.effectiveKey key with
      | none => .refused (.noKey reg.point.name)
      | some k =>
        match s.instance? r k with
        | some i => .cached i
        | none =>
          match reg.index.get? k with
          | none => .refused (.unknownKey reg.point.name k)
          | some p => .due reg.point.name k p := by
  unfold settle
  cases hr : s.registries[r]? with
  | none => rfl
  | some reg =>
    simp only [Option.map_some, instance?, hr, Option.bind_some, List.contains_nil, Bool.false_eq_true, if_false]
    rfl

theorem ownFault?_of_runsOf {p : ProviderClass} (h : t.runsOf p = s.runsOf p) (point k : String) :
    t.ownFault? point k p = s.ownFault? point k p := by
  unfold ownFault?
  cases p.factory with
  | fails message times =>
    dsimp only
    unfold stillFails
    rw [h]
  | makes | makesOther | needs => rfl

/-- A lookup is planned alike where the registries are built alike, the holder of its key holds the same but
for the number, and the factory of the class was run as often. -/
theorem plan_eq {σ : Equiv.Perm InstanceId}
    (hb : t.registries.map Registry.bare = s.registries.map Registry.bare)
    (hi : ∀ k, s.effectiveKey r key = some k → t.instance? r k = (s.instance? r k).map σ)
    (hr : ∀ k p, s.effectiveKey r key = some k → s.class? r k = some p → t.runsOf p = s.runsOf p) :
    t.plan r key = (s.plan r key).renumbered σ := by
  have hreg := getElem?_bare hb r
  rw [effectiveKey_eq_bare] at hi
  simp only [effectiveKey_eq_bare, class?_eq_bare] at hr
  unfold plan
  rw [settle_eq_bare, settle_eq_bare, hreg]
  cases hreg : s.registries[r]?.map Registry.bare with
  | none => rfl
  | some reg =>
    simp only [hreg, Option.bind_some] at hi hr ⊢
    cases hk : reg.effectiveKey key with
    | none => rfl
    | some k =>
      dsimp only
      rw [hi k hk]
      cases s.instance? r k with
      | some i => rfl
      | none =>
        cases hp : reg.index.get? k with
        | none => rfl
        | some p =>
          have hstarted : (t.start r k p).runsOf p = (s.start r k p).runsOf p :=
            (runsOf_attempt t ⟨r, k, p⟩ false p).trans
              ((congrArg (· + _) (hr k p hk hp)).trans (runsOf_attempt s ⟨r, k, p⟩ false p).symm)
          simp only [Option.map_none, ownFault?_of_runsOf hstarted, Plan.renumbered]

theorem plan_run {point : String} {x : FactoryRun} {fault : Option LookupFault}
    (h : s.plan r key = .run point x fault) : x.registry = r ∧ s.effectiveKey r key = some x.key ∧
      s.class? r x.key = some x.provider ∧ s.instance? r x.key = none := by
  unfold plan at h
  split at h
  · cases h
  · cases h
  · rename_i hs
    obtain ⟨hk, hi, hc, -⟩ := LookupCall.settle_due hs
    cases h
    exact ⟨rfl, hk, hc, hi⟩

theorem plan_answer {i : InstanceId} (h : s.plan r key = .answer (.ok i)) :
    ∃ k, s.instance? r k = some i := by
  unfold plan at h
  split at h
  · cases h
  · rename_i hs
    obtain ⟨k, -, hi⟩ := LookupCall.settle_cached hs
    cases h
    exact ⟨k, hi⟩
  · cases h

end Store

end ProviderRegistry
