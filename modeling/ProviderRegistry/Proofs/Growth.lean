import Mathlib.Tactic
import ProviderRegistry.Run

/-! What a request may do to a store. Registries, instances and factory runs are only ever added,
a holder that is filled keeps what it holds, and no factory runs for a key whose holder is filled.
`Grows` says so for two states; it is a preorder, so what every step does every run does. -/

namespace ProviderRegistry

theorem getElem?_of_prefix {α : Type} {l m : List α} (h : l <+: m) {i : Nat} {x : α}
    (hx : l[i]? = some x) : m[i]? = some x := by
  obtain ⟨new, rfl⟩ := h
  rw [List.getElem?_append_left (List.getElem?_eq_some_iff.1 hx).1, hx]

theorem map_modify_of_same {α β : Type} {f : α → α} {g : α → β} (h : ∀ x, g (f x) = g x)
    (l : List α) (i : Nat) : (l.modify i f).map g = l.map g := by
  refine List.ext_getElem? fun j => ?_
  rw [List.getElem?_map, List.getElem?_map, List.getElem?_modify]
  split <;> cases l[j]? <;> simp [h]

/-- A registry as it was built, without the holders of its keys. -/
def Registry.bare (r : Registry) : Registry := { r with cells := [] }

namespace Registry

theorem index_of_bare {a b : Registry} (h : a.bare = b.bare) : a.index = b.index :=
  (congrArg Registry.index h :)

theorem point_of_bare {a b : Registry} (h : a.bare = b.bare) : a.point = b.point :=
  (congrArg Registry.point h :)

theorem effectiveKey_of_bare {a b : Registry} (h : a.bare = b.bare) (key : Option String) :
    a.effectiveKey key = b.effectiveKey key := by
  simp only [effectiveKey, defaultKey, point_of_bare h]

@[simp] theorem bare_touch (r : Registry) (key : String) : (r.touch key).bare = r.bare := by
  unfold touch; split <;> rfl

@[simp] theorem bare_fill (r : Registry) (key : String) (i : InstanceId) :
    (r.fill key i).bare = r.bare := rfl

@[simp] theorem instance?_touch (r : Registry) (key k : String) :
    (r.touch key).instance? k = r.instance? k := by
  unfold touch
  split
  · rfl
  · rename_i h
    by_cases hk : key = k
    · subst hk; simp [instance?, Keyed.get?_put_self, h, Holder.empty]
    · simp [instance?, Keyed.get?_put_ne hk]

theorem instance?_fill (r : Registry) (key k : String) (i : InstanceId) :
    (r.fill key i).instance? k = if key = k then some i else r.instance? k := by
  by_cases hk : key = k
  · subst hk; simp [fill, instance?, Keyed.get?_put_self]
  · simp [fill, instance?, Keyed.get?_put_ne hk, hk]

end Registry

namespace Loader

theorem lookup_filter_ne {ty u : Nat} (hu : u ≠ ty) (hs : List (Nat × Holder RegistryId)) :
    (hs.filter fun e => e.1 != ty).lookup u = hs.lookup u := by
  induction hs with
  | nil => rfl
  | cons e r ih =>
    obtain ⟨k, v⟩ := e
    by_cases hk : k = ty
    · have hb : (u == k) = false := by simpa [hk] using hu
      rw [List.filter_cons_of_neg (by simp [hk]), ih, List.lookup_cons, hb]
    · rw [List.filter_cons_of_pos (by simpa using hk), List.lookup_cons, List.lookup_cons, ih]

theorem built?_put (l : Loader) (ty u : Nat) (h : Holder RegistryId) :
    (l.put ty h).built? u = if u = ty then h.value else l.built? u := by
  unfold built? put
  rw [List.lookup_cons]
  by_cases hu : u = ty
  · simp [hu]
  · have hb : (u == ty) = false := by simpa using hu
    simp only [hb, hu, if_false, lookup_filter_ne hu]

@[simp] theorem built?_touch (l : Loader) (ty u : Nat) :
    (l.touch ty).built? u = l.built? u := by
  unfold touch
  split
  · rfl
  · rename_i h
    rw [built?_put]
    split
    · subst u; simp [built?, h, Holder.empty]
    · rfl

theorem built?_fill (l : Loader) (ty u : Nat) (r : RegistryId) :
    (l.fill ty r).built? u = if u = ty then some r else l.built? u :=
  built?_put l ty u _

@[simp] theorem catalog_touch (l : Loader) (ty : Nat) : (l.touch ty).catalog = l.catalog := by
  unfold touch; split <;> rfl

@[simp] theorem locator_touch (l : Loader) (ty : Nat) : (l.touch ty).locator = l.locator := by
  unfold touch; split <;> rfl

end Loader

namespace Store

def instance? (s : Store) (r : RegistryId) (key : String) : Option InstanceId :=
  s.registries[r]?.bind (·.instance? key)

def class? (s : Store) (r : RegistryId) (key : String) : Option ProviderClass :=
  s.registries[r]?.bind (·.index.get? key)

def effectiveKey (s : Store) (r : RegistryId) (key : Option String) : Option String :=
  s.registries[r]?.bind (·.effectiveKey key)

def built? (s : Store) (l : LoaderId) (typeId : Nat) : Option RegistryId :=
  s.loaders[l]?.bind (·.built? typeId)

/-- The factory runs that were started for a key of a registry. -/
def runsFor (s : Store) (r : RegistryId) (key : String) : List FactoryRun :=
  s.runs.filter fun x => x.registry = r ∧ x.key = key

structure Grows (s t : Store) : Prop where
  files : t.files = s.files
  catalogs : s.loaders.map (·.catalog) <+: t.loaders.map (·.catalog)
  registries : s.registries.map Registry.bare <+: t.registries.map Registry.bare
  instances : s.instances <+: t.instances
  held : ∀ r k i, s.instance? r k = some i → t.instance? r k = some i
  kept : ∀ l ty r, s.built? l ty = some r → t.built? l ty = some r
  runs : ∃ new, t.runs = s.runs ++ new ∧ ∀ x ∈ new, s.instance? x.registry x.key = none

variable {s t u : Store}

theorem Grows.refl (s : Store) : Grows s s :=
  ⟨rfl, List.prefix_refl _, List.prefix_refl _, List.prefix_refl _, fun _ _ _ h => h,
    fun _ _ _ h => h, [], by simp, by simp⟩

theorem Grows.trans (h : Grows s t) (h' : Grows t u) : Grows s u := by
  refine ⟨h'.files.trans h.files, h.catalogs.trans h'.catalogs, h.registries.trans h'.registries,
    h.instances.trans h'.instances, fun r k i hi => h'.held r k i (h.held r k i hi),
    fun l ty r hr => h'.kept l ty r (h.kept l ty r hr), ?_⟩
  obtain ⟨a, ha, hna⟩ := h.runs
  obtain ⟨b, hb, hnb⟩ := h'.runs
  refine ⟨a ++ b, by rw [hb, ha, List.append_assoc], fun x hx => ?_⟩
  rcases List.mem_append.1 hx with hx | hx
  · exact hna x hx
  · by_contra hi
    obtain ⟨i, hi⟩ := Option.ne_none_iff_exists'.1 hi
    have := h.held _ _ _ hi
    rw [hnb x hx] at this
    cases this

theorem Grows.bare (h : Grows s t) {r : RegistryId} {reg : Registry}
    (hr : s.registries[r]? = some reg) :
    ∃ reg', t.registries[r]? = some reg' ∧ reg'.bare = reg.bare := by
  have hb : (t.registries.map Registry.bare)[r]? = some reg.bare :=
    getElem?_of_prefix h.registries (by rw [List.getElem?_map, hr]; rfl)
  rw [List.getElem?_map, Option.map_eq_some_iff] at hb
  exact hb

theorem Grows.class? (h : Grows s t) {r : RegistryId} {k : String} {c : ProviderClass}
    (hc : s.class? r k = some c) : t.class? r k = some c := by
  obtain ⟨reg, hr, hk⟩ := Option.bind_eq_some_iff.1 hc
  obtain ⟨reg', hr', hb⟩ := h.bare hr
  simp [Store.class?, hr', Registry.index_of_bare hb, hk]

theorem Grows.effectiveKey (h : Grows s t) {r : RegistryId} {key : Option String} {k : String}
    (hk : s.effectiveKey r key = some k) : t.effectiveKey r key = some k := by
  obtain ⟨reg, hr, hk⟩ := Option.bind_eq_some_iff.1 hk
  obtain ⟨reg', hr', hb⟩ := h.bare hr
  simp [Store.effectiveKey, hr', Registry.effectiveKey_of_bare hb, hk]

/-- No factory runs again for a key whose holder is filled. -/
theorem Grows.runsFor (h : Grows s t) {r : RegistryId} {k : String} {i : InstanceId}
    (hi : s.instance? r k = some i) : t.runsFor r k = s.runsFor r k := by
  obtain ⟨new, hn, hnew⟩ := h.runs
  have : new.filter (fun x => decide (x.registry = r ∧ x.key = k)) = [] := by
    rw [List.filter_eq_nil_iff]
    intro x hx hxk
    obtain ⟨rfl, rfl⟩ : x.registry = r ∧ x.key = k := by simpa using hxk
    rw [hnew x hx] at hi
    cases hi
  rw [Store.runsFor, hn, List.filter_append, this, List.append_nil, Store.runsFor]

end Store

end ProviderRegistry
