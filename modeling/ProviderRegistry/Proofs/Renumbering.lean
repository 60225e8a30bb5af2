import ProviderRegistry.Proofs.LinkOrder
import ProviderRegistry.Proofs.PlainLookups

/-! States that differ in the serial numbers of their instances. A renumbering carries one to the other, in
the holders and in the list of instances alike, and the factory runs are the same but for their order. One
attempt leaves such states apart by the same renumbering, for a new instance has the same number in both. Two
attempts for different keys leave states apart by the exchange of the new numbers, whichever is made first. -/

namespace ProviderRegistry

open Store

theorem modify_map {α β : Type} {f : α → α} {f' : β → β} {g : α → β} (h : ∀ x, f' (g x) = g (f x))
    (l : List α) (i : Nat) : (l.map g).modify i f' = (l.modify i f).map g := by
  refine List.ext_getElem? fun j => ?_
  rw [List.getElem?_modify, List.getElem?_map, List.getElem?_map, List.getElem?_modify]
  split <;> cases l[j]? <;> simp [h]

namespace Keyed

variable {β γ : Type}

def mapValues (f : β → γ) (t : List (String × β)) : List (String × γ) := t.map fun e => (e.1, f e.2)

@[simp] theorem keys_mapValues (f : β → γ) (t : List (String × β)) : keys (mapValues f t) = keys t := by
  simp [keys, mapValues]

theorem get?_mapValues (f : β → γ) (k : String) (t : List (String × β)) :
    get? k (mapValues f t) = (get? k t).map f := by
  induction t with
  | nil => rfl
  | cons e r ih =>
    have hcons : mapValues f (e :: r) = (e.1, f e.2) :: mapValues f r := rfl
    rw [hcons, get?, get?]
    split
    · rfl
    · exact ih

theorem put_mapValues (f : β → γ) (k : String) (v : β) (t : List (String × β)) :
    put k (f v) (mapValues f t) = mapValues f (put k v t) := by
  induction t with
  | nil => rfl
  | cons e r ih =>
    have hcons : mapValues f (e :: r) = (e.1, f e.2) :: mapValues f r := rfl
    rw [hcons, put, put, ih]
    split
    · rfl
    · split <;> rfl

end Keyed

def Holder.renumbered (σ : Equiv.Perm InstanceId) (h : Holder InstanceId) : Holder InstanceId :=
  ⟨h.value.map σ⟩

theorem Holder.renumbered_eq {σ : Equiv.Perm InstanceId} {h : Holder InstanceId}
    (hv : ∀ i, h.value = some i → σ i = i) : h.renumbered σ = h := by
  obtain ⟨value⟩ := h
  cases value with
  | none => rfl
  | some i => rw [renumbered, Option.map_some, hv i rfl]

namespace Registry

def renumbered (σ : Equiv.Perm InstanceId) (reg : Registry) : Registry :=
  { reg with cells := Keyed.mapValues (Holder.renumbered σ) reg.cells }

variable (σ : Equiv.Perm InstanceId) (reg : Registry) (k : String)

theorem touch_renumbered : (reg.renumbered σ).touch k = (reg.touch k).renumbered σ := by
  unfold touch
  have hget : Keyed.get? k (reg.renumbered σ).cells = (Keyed.get? k reg.cells).map (Holder.renumbered σ) :=
    Keyed.get?_mapValues ..
  rw [hget]
  cases Keyed.get? k reg.cells with
  | some h => rfl
  | none =>
    have hput := Keyed.put_mapValues (Holder.renumbered σ) k .empty reg.cells
    simp only [renumbered, Option.map_none, ← hput]
    rfl

theorem fill_renumbered (i : InstanceId) : (reg.renumbered σ).fill k (σ i) = (reg.fill k i).renumbered σ := by
  have hput := Keyed.put_mapValues (Holder.renumbered σ) k ⟨some i⟩ reg.cells
  simp only [fill, renumbered, ← hput]
  rfl

end Registry

def Outcome.renumbered (σ : Equiv.Perm InstanceId) : Outcome → Outcome
  | loader id => .loader id
  | registry result => .registry result
  | provider result => .provider (result.map σ)
  | optional result => .optional (result.map σ)

namespace Store

/-- Whether a state comes of another by a renumbering of its instances. Loaders and files are the same, and
so are the factory runs but for their order. Numbers that are still free stay what they are. -/
structure Renumbered (σ : Equiv.Perm InstanceId) (s t : Store) : Prop where
  files : t.files = s.files
  loaders : t.loaders = s.loaders
  global : t.global = s.global
  registries : t.registries = s.registries.map (·.renumbered σ)
  count : t.instances.length = s.instances.length
  instances : ∀ i, t.instances[σ i]? = s.instances[i]?
  runs : t.runs.Perm s.runs
  fresh : ∀ i, s.instances.length ≤ i → σ i = i

namespace Renumbered

variable {σ τ : Equiv.Perm InstanceId} {s t u : Store}

theorem refl (s : Store) : Renumbered 1 s s := by
  refine ⟨rfl, rfl, rfl, ?_, rfl, fun _ => rfl, List.Perm.refl _, fun _ _ => rfl⟩
  have hsame : ∀ reg : Registry, reg.renumbered 1 = reg := by
    intro reg
    have hholder : Holder.renumbered 1 = id := funext fun h => h.renumbered_eq fun _ _ => rfl
    simp [Registry.renumbered, Keyed.mapValues, hholder]
  rw [funext hsame, List.map_id']

theorem trans (h : Renumbered σ s t) (h' : Renumbered τ t u) : Renumbered (τ * σ) s u := by
  refine ⟨h'.files.trans h.files, h'.loaders.trans h.loaders, h'.global.trans h.global, ?_,
    h'.count.trans h.count, fun i => (h'.instances (σ i)).trans (h.instances i), h'.runs.trans h.runs, ?_⟩
  · have hregistry : ∀ reg : Registry, (reg.renumbered σ).renumbered τ = reg.renumbered (τ * σ) := by
      intro reg
      have hholder : ∀ x : Holder InstanceId, (x.renumbered σ).renumbered τ = x.renumbered (τ * σ) := by
        intro x
        simp [Holder.renumbered, Option.map_map, Function.comp_def]
      simp [Registry.renumbered, Keyed.mapValues, Function.comp_def, hholder]
    rw [h'.registries, h.registries, List.map_map]
    exact List.map_congr_left fun reg _ => hregistry reg
  · intro i hi
    rw [Equiv.Perm.mul_apply, h.fresh i hi, h'.fresh i (h.count ▸ hi)]

theorem bare (h : Renumbered σ s t) : t.registries.map Registry.bare = s.registries.map Registry.bare := by
  rw [h.registries, List.map_map]
  rfl

theorem instance? (h : Renumbered σ s t) (r : RegistryId) (k : String) :
    t.instance? r k = (s.instance? r k).map σ := by
  rw [Store.instance?, Store.instance?, h.registries, List.getElem?_map]
  cases s.registries[r]? with
  | none => rfl
  | some reg =>
    have hget := Keyed.get?_mapValues (Holder.renumbered σ) k reg.cells
    simp only [Option.map_some, Option.bind_some, Registry.instance?, Registry.renumbered, hget]
    cases Keyed.get? k reg.cells <;> rfl

theorem attempt (h : Renumbered σ s t) (x : FactoryRun) (made : Bool) :
    Renumbered σ (s.attempt x made) (t.attempt x made) := by
  have hstart : Renumbered σ (s.start x.registry x.key x.provider) (t.start x.registry x.key x.provider) := by
    refine ⟨h.files, h.loaders, h.global, ?_, h.count, h.instances, h.runs.append_right _, h.fresh⟩
    rw [start, h.registries, modify_map fun reg => Registry.touch_renumbered σ reg x.key]
    rfl
  cases made with
  | false => exact hstart
  | true =>
    -- the new instance has the same number in both states, one that is still free
    have hnew : ∀ reg : Registry, (reg.renumbered σ).fill x.key t.instances.length =
        (reg.fill x.key s.instances.length).renumbered σ := by
      intro reg
      rw [h.count, ← Registry.fill_renumbered, h.fresh _ le_rfl]
    refine ⟨h.files, h.loaders, h.global, ?_, ?_, ?_, hstart.runs, ?_⟩
    · have hfilled : (t.start x.registry x.key x.provider).registries.modify x.registry
          (fun reg => reg.fill x.key t.instances.length) = _ :=
        (congrArg (List.modify · _ _) hstart.registries).trans (modify_map hnew ..)
      exact hfilled
    · rw [instances_attempt, instances_attempt, List.length_append, List.length_append, h.count]
    · intro i
      rw [instances_attempt, instances_attempt]
      rcases Nat.lt_or_ge i s.instances.length with hi | hi
      · have hold : t.instances[σ i]? = some s.instances[i] :=
          (h.instances i).trans (List.getElem?_eq_getElem hi)
        have hlt : σ i < t.instances.length := (List.getElem?_eq_some_iff.1 hold).1
        rw [List.getElem?_append_left hi, List.getElem?_append_left hlt, h.instances i]
      · rw [h.fresh i hi, List.getElem?_append_right hi, List.getElem?_append_right (h.count ▸ hi), h.count]
    · intro i hi
      rw [instances_attempt, List.length_append] at hi
      exact h.fresh i (by omega)

end Renumbered

theorem registries_eq_renumbered {σ : Equiv.Perm InstanceId} {s t : Store} (hs : s.Tracked) (ht : t.Tracked)
    (hb : t.registries.map Registry.bare = s.registries.map Registry.bare)
    (hc : ∀ r k, t.cell? r k = (s.cell? r k).map (Holder.renumbered σ)) :
    t.registries = s.registries.map (·.renumbered σ) := by
  refine List.ext_getElem? fun r => ?_
  have hreg := getElem?_bare hb r
  have hcell := hc r
  simp only [cell?] at hcell
  rw [List.getElem?_map]
  cases hsr : s.registries[r]? with
  | none => simpa [hsr] using hreg
  | some reg =>
    rw [hsr, Option.map_some, Option.map_eq_some_iff] at hreg
    obtain ⟨reg', htr, hbare⟩ := hreg
    have hcells : reg'.cells = Keyed.mapValues (Holder.renumbered σ) reg.cells := by
      have hsorted : Keyed.Sorted (Keyed.mapValues (Holder.renumbered σ) reg.cells) := by
        rw [Keyed.Sorted, Keyed.keys_mapValues]
        exact (hs.tracks r reg hsr).sorted
      refine Keyed.eq_of_get? (ht.tracks r reg' htr).sorted hsorted fun k => ?_
      simpa [htr, hsr, Keyed.get?_mapValues] using hcell k
    obtain ⟨point, index, cells⟩ := reg'
    cases hbare
    rw [htr, Option.map_some, Registry.renumbered, ← hcells]

/-- The numbers of the instances that two attempts make, each in the place of the other. -/
def exchange (n : Nat) (made made' : Bool) : Equiv.Perm InstanceId :=
  if made && made' then Equiv.swap n (n + 1) else 1

section Exchange

variable {n i : Nat} {made made' : Bool}

theorem exchange_of_lt (h : i < n) : exchange n made made' i = i := by
  have hn : i ≠ n := by omega
  have hn' : i ≠ n + 1 := by omega
  unfold exchange
  split
  · exact Equiv.swap_apply_of_ne_of_ne hn hn'
  · rfl

theorem exchange_of_le (h : n + made.toNat + made'.toNat ≤ i) : exchange n made made' i = i := by
  unfold exchange
  split
  · rename_i hboth
    obtain ⟨rfl, rfl⟩ := Bool.and_eq_true_iff.1 hboth
    have hn : i ≠ n := by simp at h; omega
    have hn' : i ≠ n + 1 := by simp at h; omega
    exact Equiv.swap_apply_of_ne_of_ne hn hn'
  · rfl

theorem exchange_false (n : Nat) (made : Bool) : exchange n made false = 1 := by
  cases made <;> rfl

theorem exchange_first (made' : Bool) : exchange n true made' n = n + made'.toNat := by
  cases made' with
  | false => rfl
  | true => exact Equiv.swap_apply_left n (n + 1)

theorem exchange_second (made : Bool) : exchange n made true (n + made.toNat) = n := by
  cases made with
  | false => rfl
  | true => exact Equiv.swap_apply_right n (n + 1)

theorem getElem?_exchange {α : Type} (l : List α) (a b : α) (i : Nat) :
    (l ++ (if made' then [b] else []) ++ if made then [a] else [])[exchange l.length made made' i]? =
      (l ++ (if made then [a] else []) ++ if made' then [b] else [])[i]? := by
  cases made with
  | false => simp [exchange]
  | true =>
    cases made' with
    | false => simp [exchange]
    | true =>
      simp only [if_true, List.append_assoc, List.singleton_append]
      rcases Nat.lt_or_ge i l.length with hi | hi
      · rw [exchange_of_lt hi, List.getElem?_append_left hi, List.getElem?_append_left hi]
      · obtain ⟨j, rfl⟩ := Nat.exists_eq_add_of_le hi
        match j with
        | 0 => simp [exchange]
        | 1 => simp [exchange]
        | j + 2 =>
          rw [exchange_of_le (by simp)]
          simp

end Exchange

theorem Coherent.cell?_exchange {s : Store} (h : Coherent s) (made made' : Bool) (r : RegistryId) (k : String) :
    (s.cell? r k).map (Holder.renumbered (exchange s.instances.length made made')) = s.cell? r k := by
  cases hc : s.cell? r k with
  | none => rfl
  | some c =>
    refine congrArg some (c.renumbered_eq fun i hi => exchange_of_lt (h.instance_lt (r := r) (k := k) ?_))
    rw [instance?_eq_cell?, hc]
    exact hi

section Attempts

variable {s : Store} {x x' : FactoryRun} (hx : s.class? x.registry x.key = some x.provider)
  (hx' : s.class? x'.registry x'.key = some x'.provider)
  (hne : ¬(x.registry = x'.registry ∧ x.key = x'.key)) (made made' : Bool)
include hx hx' hne

theorem cell?_attempts (r : RegistryId) (k : String) :
    ((s.attempt x made).attempt x' made').cell? r k =
      if x'.registry = r ∧ x'.key = k then
        some (if made' then ⟨some (s.instances.length + made.toNat)⟩ else (s.cell? x'.registry x'.key).getD .empty)
      else if x.registry = r ∧ x.key = k then
        some (if made then ⟨some s.instances.length⟩ else (s.cell? x.registry x.key).getD .empty)
      else s.cell? r k := by
  have hx2 : (s.attempt x made).class? x'.registry x'.key = some x'.provider := (class?_attempt ..).trans hx'
  have hcell : (s.attempt x made).cell? x'.registry x'.key = s.cell? x'.registry x'.key := by
    rw [cell?_attempt hx, if_neg hne]
  rw [cell?_attempt hx2, hcell, cell?_attempt hx, length_instances_attempt]

theorem cell?_attempt_comm (h : Coherent s) (r : RegistryId) (k : String) :
    ((s.attempt x' made').attempt x made).cell? r k = (((s.attempt x made).attempt x' made').cell? r k).map
      (Holder.renumbered (exchange s.instances.length made made')) := by
  have hne' : ¬(x'.registry = x.registry ∧ x'.key = x.key) := fun he => hne ⟨he.1.symm, he.2.symm⟩
  have hkept : ∀ r k, ((s.cell? r k).getD .empty).renumbered (exchange s.instances.length made made') =
      (s.cell? r k).getD .empty := by
    intro r k
    have hrk := h.cell?_exchange made made' r k
    cases hc : s.cell? r k with
    | none => rfl
    | some c => simpa [hc] using hrk
  rw [cell?_attempts hx' hx hne', cell?_attempts hx hx' hne]
  by_cases hxr : x.registry = r ∧ x.key = k
  · have hxr' : ¬(x'.registry = r ∧ x'.key = k) := fun he =>
      hne ⟨hxr.1.trans he.1.symm, hxr.2.trans he.2.symm⟩
    rw [if_pos hxr, if_neg hxr', if_pos hxr, Option.map_some]
    cases made with
    | false => exact congrArg some (hkept ..).symm
    | true => simp [Holder.renumbered, exchange_first]
  · rw [if_neg hxr, if_neg hxr]
    by_cases hxr' : x'.registry = r ∧ x'.key = k
    · rw [if_pos hxr', if_pos hxr', Option.map_some]
      cases made' with
      | false => exact congrArg some (hkept ..).symm
      | true => simp [Holder.renumbered, exchange_second]
    · rw [if_neg hxr', if_neg hxr', h.cell?_exchange]

theorem attempt_comm (h : Coherent s) (ht : s.Tracked) :
    Renumbered (exchange s.instances.length made made') ((s.attempt x made).attempt x' made')
      ((s.attempt x' made').attempt x made) := by
  refine ⟨?_, ?_, ?_, ?_, ?_, ?_, ?_, ?_⟩
  · cases made <;> cases made' <;> rfl
  · cases made <;> cases made' <;> rfl
  · cases made <;> cases made' <;> rfl
  · have hfirst := (ht.attempt hx made).attempt ((class?_attempt ..).trans hx') made'
    have hsecond := (ht.attempt hx' made').attempt ((class?_attempt ..).trans hx) made
    exact registries_eq_renumbered hfirst hsecond (by simp only [bare_attempt])
      (cell?_attempt_comm hx hx' hne made made' h)
  · simp only [length_instances_attempt]
    omega
  · intro i
    simp only [instances_attempt]
    exact getElem?_exchange ..
  · simp only [runs_attempt, List.append_assoc, List.singleton_append]
    exact (List.Perm.swap _ _ _).append_left _
  · intro i hi
    simp only [length_instances_attempt] at hi
    exact exchange_of_le hi

end Attempts

end Store

end ProviderRegistry
