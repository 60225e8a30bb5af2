import ProviderRegistry.Proofs.SortedTable
import ProviderRegistry.Settings.Environment

/-! Tables of settings merged key by key: under a key of a merged table stands the later value over the
earlier one, or the one of the two that is given. The variables of the environment are merged one by one,
each a table of its own, so that a section comes to hold what the variables name in it. -/

namespace ProviderRegistry

namespace SettingValue

def onto (v : SettingValue) : Option SettingValue → SettingValue
  | none => v
  | some old => mergedOver old v

theorem entriesOver_cons (earlier : SettingTable) (k : String) (v : SettingValue) (r : SettingTable) :
    entriesOver earlier ((k, v) :: r) =
      entriesOver (Keyed.put k (v.onto (Keyed.get? k earlier)) earlier) r := by
  rw [entriesOver]
  cases Keyed.get? k earlier <;> rfl

theorem entriesOver_singleton (earlier : SettingTable) (k : String) (v : SettingValue) :
    entriesOver earlier [(k, v)] = Keyed.put k (v.onto (Keyed.get? k earlier)) earlier := by
  rw [entriesOver_cons, entriesOver]

theorem table_onto_table (o o' : Origin) (es es' : SettingTable) :
    (table o es).onto (some (table o' es')) = table o (entriesOver es' es) := by
  rw [onto, mergedOver]

/-- Only tables are merged: over anything else a value stands as it is. -/
theorem onto_of_not_table {old? : Option SettingValue} (h : ∀ o es, old? ≠ some (table o es))
    (v : SettingValue) : v.onto old? = v := by
  cases old? with
  | none => rfl
  | some old =>
    cases v with
    | scalar o s => rw [onto, mergedOver]
    | list o items => rw [onto, mergedOver]
    | table o es =>
      cases old with
      | scalar o' s => simp only [onto, mergedOver]
      | list o' items => simp only [onto, mergedOver]
      | table o' es' => exact absurd rfl (h o' es')

theorem not_table_onto {v : SettingValue} (h : ∀ o es, v ≠ table o es) (old? : Option SettingValue) :
    v.onto old? = v := by
  cases old? with
  | none => rfl
  | some old =>
    cases v with
    | scalar o s => rw [onto, mergedOver]
    | list o items => rw [onto, mergedOver]
    | table o es => exact absurd rfl (h o es)

theorem get?_entriesOver {later : SettingTable} (h : Keyed.Sorted later) (earlier : SettingTable)
    (k : String) : Keyed.get? k (entriesOver earlier later) =
      ((Keyed.get? k later).map (·.onto (Keyed.get? k earlier))).or (Keyed.get? k earlier) := by
  induction later generalizing earlier with
  | nil =>
    rw [entriesOver]
    rfl
  | cons e r ih =>
    obtain ⟨j, v⟩ := e
    obtain ⟨hj, hr⟩ := List.pairwise_cons.1 h
    rw [entriesOver_cons, ih hr, Keyed.get?]
    by_cases hjk : j = k
    · subst hjk
      -- the key stands nowhere else in the later table, so its value stays as it was put
      have hno : Keyed.get? j r = none := by
        by_contra hsome
        exact (hj j (Keyed.mem_keys_iff.2 (Option.isSome_iff_ne_none.2 hsome))).2 rfl
      rw [if_pos rfl, hno, Keyed.get?_put_self]
      rfl
    · rw [if_neg hjk, Keyed.get?_put_ne hjk]

theorem sorted_entriesOver {earlier : SettingTable} (h : Keyed.Sorted earlier) (later : SettingTable) :
    Keyed.Sorted (entriesOver earlier later) := by
  induction later generalizing earlier with
  | nil =>
    rw [entriesOver]
    exact h
  | cons e r ih =>
    rw [entriesOver_cons]
    exact ih (Keyed.sorted_put h _ _)

end SettingValue

namespace Environment

open SettingValue

variable {keyPrefix part : String} {vs environment : List (String × String)} {x : String × String}

def names (keyPrefix part : String) (environment : List (String × String)) : Prop :=
  ∃ v ∈ environment, ∃ path, pathOf? keyPrefix v.1 = some (part :: path)

theorem head?_pathOf?_eq_some_iff {name : String} :
    (pathOf? keyPrefix name).bind List.head? = some part ↔
      ∃ path, pathOf? keyPrefix name = some (part :: path) := by
  rcases pathOf? keyPrefix name with _ | _ | ⟨k, path⟩ <;> simp

instance : Decidable (names keyPrefix part environment) :=
  decidable_of_iff (∃ v ∈ environment, (pathOf? keyPrefix v.1).bind List.head? = some part)
    (exists_congr fun _ => and_congr_right fun _ => head?_pathOf?_eq_some_iff)

/-- The variables that name something in a part of the settings name its fields, no two of them the same. -/
structure NamesFields (keyPrefix part : String) (environment : List (String × String)) : Prop where
  field : ∀ v ∈ environment, ∀ path, pathOf? keyPrefix v.1 = some (part :: path) → ∃ key, path = [key]
  once : environment.Pairwise fun v w =>
    ∀ key, pathOf? keyPrefix v.1 = some [part, key] → pathOf? keyPrefix w.1 ≠ some [part, key]

def field? (keyPrefix part key : String) (environment : List (String × String)) : Option SettingValue :=
  (environment.find? fun v => pathOf? keyPrefix v.1 = some [part, key]).map fun v =>
    valueOf (.environment keyPrefix) v.2

theorem field?_of_not_names (h : ¬names keyPrefix part environment) (key : String) :
    field? keyPrefix part key environment = none := by
  rw [field?, Option.map_eq_none_iff, List.find?_eq_none]
  intro v hv hpath
  exact h ⟨v, hv, [key], by simpa using hpath⟩

theorem NamesFields.field?_eq {key : String} (h : NamesFields keyPrefix part environment)
    (hx : x ∈ environment) (hpath : pathOf? keyPrefix x.1 = some [part, key]) :
    field? keyPrefix part key environment = some (valueOf (.environment keyPrefix) x.2) := by
  obtain ⟨before, after, rfl⟩ := List.append_of_mem hx
  have hfirst : (before ++ x :: after).find? (fun v => pathOf? keyPrefix v.1 = some [part, key]) =
      some x := by
    refine List.find?_eq_some_iff_append.2 ⟨by simp [hpath], before, after, rfl, fun v hv => ?_⟩
    have hne := (List.pairwise_append.1 h.once).2.2 v hv x List.mem_cons_self key
    simpa using fun hv => hne hv hpath
  rw [field?, hfirst, Option.map_some]

theorem NamesFields.field?_eq_some_iff {key : String} {v : SettingValue}
    (h : NamesFields keyPrefix part environment) : field? keyPrefix part key environment = some v ↔
      ∃ x ∈ environment, pathOf? keyPrefix x.1 = some [part, key] ∧
        valueOf (.environment keyPrefix) x.2 = v := by
  constructor
  · intro hv
    obtain ⟨x, hfind, hv⟩ := Option.map_eq_some_iff.1 hv
    exact ⟨x, List.mem_of_find?_eq_some hfind, by simpa using List.find?_some hfind, hv⟩
  · rintro ⟨x, hx, hpath, rfl⟩
    exact h.field?_eq hx hpath

def gathered (keyPrefix : String) (vs : List (String × String)) : SettingTable :=
  (vs.filterMap (settingOf? keyPrefix)).foldl entriesOver []

theorem gathered_concat (keyPrefix : String) (vs : List (String × String)) (x : String × String) :
    gathered keyPrefix (vs ++ [x]) =
      ((settingOf? keyPrefix x).map (entriesOver (gathered keyPrefix vs))).getD (gathered keyPrefix vs) := by
  rw [gathered, List.filterMap_append, List.foldl_append, ← gathered]
  cases hx : settingOf? keyPrefix x <;> simp [hx]

theorem sorted_gathered (keyPrefix : String) (vs : List (String × String)) :
    Keyed.Sorted (gathered keyPrefix vs) := by
  induction vs using List.reverseRecOn with
  | nil => exact List.Pairwise.nil
  | append_singleton vs x ih =>
    rw [gathered_concat]
    cases settingOf? keyPrefix x with
    | none => exact ih
    | some e => exact sorted_entriesOver ih e

/-- What a section holds once variables are merged: a table of the fields that they name, or nothing where
they name none. -/
structure Gathered (keyPrefix part : String) (vs : List (String × String)) (found : Option SettingValue)
    (es : SettingTable) : Prop where
  sorted : Keyed.Sorted es
  absent : ¬names keyPrefix part vs → found = none ∧ es = []
  present : names keyPrefix part vs → found = some (.table (.environment keyPrefix) es)
  entry : ∀ key v, Keyed.get? key es = some v ↔
    ∃ x ∈ vs, pathOf? keyPrefix x.1 = some [part, key] ∧ valueOf (.environment keyPrefix) x.2 = v

theorem names_concat : names keyPrefix part (vs ++ [x]) ↔
    names keyPrefix part vs ∨ ∃ path, pathOf? keyPrefix x.1 = some (part :: path) := by
  constructor
  · rintro ⟨v, hv, hpath⟩
    rcases List.mem_append.1 hv with hv | hv
    · exact .inl ⟨v, hv, hpath⟩
    · exact .inr (List.mem_singleton.1 hv ▸ hpath)
  · rintro (⟨v, hv, hpath⟩ | hpath)
    · exact ⟨v, List.mem_append_left _ hv, hpath⟩
    · exact ⟨x, List.mem_append_right _ List.mem_cons_self, hpath⟩

theorem NamesFields.perm (h : NamesFields keyPrefix part vs) (hp : vs.Perm environment) :
    NamesFields keyPrefix part environment where
  field v hv := h.field v (hp.mem_iff.2 hv)
  once := (hp.pairwise_iff fun {_ _} hne key hw hv => hne key hv hw).1 h.once

theorem get?_gathered_concat_ne (hx : ∀ path, pathOf? keyPrefix x.1 ≠ some (part :: path)) :
    Keyed.get? part (gathered keyPrefix (vs ++ [x])) = Keyed.get? part (gathered keyPrefix vs) := by
  rw [gathered_concat, settingOf?]
  rcases hpath : pathOf? keyPrefix x.1 with _ | _ | ⟨k, path⟩
  · rfl
  · rfl
  · have hne : k ≠ part := by
      rintro rfl
      exact hx path hpath
    simp only [Option.map_some, Option.getD_some, entriesOver_singleton, Keyed.get?_put_ne hne]

theorem get?_gathered_concat_eq {key : String} (hx : pathOf? keyPrefix x.1 = some [part, key]) :
    Keyed.get? part (gathered keyPrefix (vs ++ [x])) = some
      ((SettingValue.table (.environment keyPrefix) [(key, valueOf (.environment keyPrefix) x.2)]).onto
        (Keyed.get? part (gathered keyPrefix vs))) := by
  rw [gathered_concat, settingOf?, hx]
  simp only [nested, Option.map_some, Option.getD_some, entriesOver_singleton, Keyed.get?_put_self]

theorem Gathered.keep {found : Option SettingValue} {es : SettingTable}
    (h : Gathered keyPrefix part vs found es)
    (hx : ∀ path, pathOf? keyPrefix x.1 ≠ some (part :: path)) :
    Gathered keyPrefix part (vs ++ [x]) found es := by
  have hnames : names keyPrefix part (vs ++ [x]) ↔ names keyPrefix part vs := by
    rw [names_concat]
    exact or_iff_left fun ⟨path, hp⟩ => hx path hp
  refine ⟨h.sorted, fun hno => h.absent (hnames.not.1 hno), fun hyes => h.present (hnames.1 hyes),
    fun key v => ?_⟩
  rw [h.entry]
  simp only [List.mem_append, List.mem_singleton, or_and_right, exists_or, exists_eq_left, hx [key],
    false_and, or_false]

theorem Gathered.put {found : Option SettingValue} {es : SettingTable} {key : String}
    (h : Gathered keyPrefix part vs found es) (hx : pathOf? keyPrefix x.1 = some [part, key])
    (hnew : Keyed.get? key es = none) :
    Gathered keyPrefix part (vs ++ [x]) (some ((SettingValue.table (.environment keyPrefix)
        [(key, valueOf (.environment keyPrefix) x.2)]).onto found))
      (Keyed.put key (valueOf (.environment keyPrefix) x.2) es) := by
  have hnames : names keyPrefix part (vs ++ [x]) := names_concat.2 (.inr ⟨_, hx⟩)
  refine ⟨Keyed.sorted_put h.sorted _ _, fun hno => absurd hnames hno, fun _ => ?_, fun k v => ?_⟩
  · by_cases hold : names keyPrefix part vs
    · rw [h.present hold, table_onto_table, entriesOver_singleton, hnew]
      rfl
    · obtain ⟨rfl, rfl⟩ := h.absent hold
      rfl
  · simp only [List.mem_append, List.mem_singleton, or_and_right, exists_or, exists_eq_left, hx,
      Option.some.injEq, List.cons.injEq, and_true, true_and]
    by_cases hk : key = k
    · subst hk
      rw [Keyed.get?_put_self, ← h.entry, hnew]
      simp
    · rw [Keyed.get?_put_ne hk, h.entry]
      simp [hk]

theorem exists_gathered (h : NamesFields keyPrefix part vs) :
    ∃ es, Gathered keyPrefix part vs (Keyed.get? part (gathered keyPrefix vs)) es := by
  induction vs using List.reverseRecOn with
  | nil =>
    have hno : ¬names keyPrefix part [] := fun ⟨_, hv, _⟩ => List.not_mem_nil hv
    exact ⟨[], List.Pairwise.nil, fun _ => ⟨rfl, rfl⟩, fun hyes => absurd hyes hno, by simp [Keyed.get?]⟩
  | append_singleton vs x ih =>
    obtain ⟨hpair, -, hlast⟩ := List.pairwise_append.1 h.once
    obtain ⟨es, hes⟩ := ih ⟨fun v hv => h.field v (List.mem_append_left _ hv), hpair⟩
    by_cases hx : ∃ path, pathOf? keyPrefix x.1 = some (part :: path)
    · obtain ⟨path, hpath⟩ := hx
      obtain ⟨key, rfl⟩ := h.field x (by simp) path hpath
      -- no earlier variable names the field
      have hnew : Keyed.get? key es = none := by
        by_contra hsome
        obtain ⟨v, hv⟩ := Option.ne_none_iff_exists'.1 hsome
        obtain ⟨w, hw, hwpath, -⟩ := (hes.entry key v).1 hv
        exact hlast w hw x List.mem_cons_self key hwpath hpath
      rw [get?_gathered_concat_eq hpath]
      exact ⟨_, hes.put hpath hnew⟩
    · have hx : ∀ path, pathOf? keyPrefix x.1 ≠ some (part :: path) := fun path hp => hx ⟨path, hp⟩
      rw [get?_gathered_concat_ne hx]
      exact ⟨es, hes.keep hx⟩

theorem sorted_settings (keyPrefix : String) (environment : List (String × String)) :
    Keyed.Sorted (settings keyPrefix environment) :=
  sorted_gathered keyPrefix _

theorem NamesFields.settings (h : NamesFields keyPrefix part environment) :
    ∃ es, Keyed.Sorted es ∧
      (¬names keyPrefix part environment → Keyed.get? part (settings keyPrefix environment) = none) ∧
      (names keyPrefix part environment →
        Keyed.get? part (settings keyPrefix environment) = some (.table (.environment keyPrefix) es)) ∧
      ∀ key, Keyed.get? key es = field? keyPrefix part key environment := by
  have hperm := List.mergeSort_perm environment fun a b => Text.precedes a.1 b.1
  have hnames : names keyPrefix part (environment.mergeSort fun a b => Text.precedes a.1 b.1) ↔
      names keyPrefix part environment := by
    simp only [names, hperm.mem_iff]
  obtain ⟨es, hes⟩ := exists_gathered (h.perm hperm.symm)
  refine ⟨es, hes.sorted, fun hno => (hes.absent (hnames.not.2 hno)).1,
    fun hyes => hes.present (hnames.2 hyes), fun key => Option.ext fun v => ?_⟩
  rw [hes.entry, h.field?_eq_some_iff]
  simp only [hperm.mem_iff]

end Environment

end ProviderRegistry
