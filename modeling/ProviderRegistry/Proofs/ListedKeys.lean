import ProviderRegistry.Proofs.ByteOrder
import ProviderRegistry.Proofs.KeyTables
import ProviderRegistry.Proofs.LinkOrder

/-! What a listing makes of its two tables, taken as a whole and part by part. The later part of a listing
takes keys over from the earlier one and only adds to its key-classes, so a listing that is read twice
comes to nothing new. -/

namespace ProviderRegistry

namespace KeyClass

theorem sameAs_refl (a : KeyClass) : a.sameAs a := beq_self_eq_true a.id

end KeyClass

namespace KeyIndex

def Respects (p : KeyClass → Bool) : Prop := ∀ a b : KeyClass, a.sameAs b → p a = p b

theorem firstOfEach_cons_eq (e : KeyClass × String) (es : List (KeyClass × String)) :
    firstOfEach (e :: es) = e :: firstOfEach (es.filter fun b => !b.1.sameAs e.1) := by
  rw [firstOfEach, List.eraseDupsBy_cons]
  simp [firstOfEach]

/-- What holds of a list once it holds of the entries behind the first that are of other key-classes. -/
@[elab_as_elim]
theorem others_induction {motive : List (KeyClass × String) → Prop} (nil : motive [])
    (cons : ∀ e es, motive (es.filter fun b => !b.1.sameAs e.1) → motive (e :: es))
    (es : List (KeyClass × String)) : motive es := by
  induction hn : es.length using Nat.strong_induction_on generalizing es with
  | h m ih =>
    cases es with
    | nil => exact nil
    | cons e es =>
      have hlen : (es.filter fun b => !b.1.sameAs e.1).length < m := by
        rw [← hn, List.length_cons]
        exact Nat.lt_succ_of_le (List.length_filter_le _ _)
      exact cons e es (ih _ hlen _ rfl)

/-- Which entries are the first of their key-classes is settled among those that a property of key-classes
holds of. -/
theorem filter_firstOfEach {p : KeyClass → Bool} (hp : Respects p) (es : List (KeyClass × String)) :
    (firstOfEach es).filter (fun e => p e.1) = firstOfEach (es.filter fun e => p e.1) := by
  induction es using others_induction with
  | nil => rfl
  | cons e es ih =>
    rw [firstOfEach_cons_eq, List.filter_cons, List.filter_cons, ih, List.filter_comm]
    cases he : p e.1 with
    | true => simp only [if_true, firstOfEach_cons_eq]
    | false =>
      -- none of the entries left over is of the key-class of the one that goes
      rw [if_neg Bool.false_ne_true, if_neg Bool.false_ne_true, List.filter_eq_self.2]
      intro b hb
      obtain ⟨-, hb⟩ := List.mem_filter.1 hb
      cases hs : b.1.sameAs e.1 with
      | false => rfl
      | true =>
        rw [hp _ _ hs, he] at hb
        cases hb

theorem find?_firstOfEach {p : KeyClass → Bool} (hp : Respects p) (es : List (KeyClass × String)) :
    (firstOfEach es).find? (fun e => p e.1) = es.find? (fun e => p e.1) := by
  have hhead : ∀ es, (firstOfEach es).head? = es.head? := by
    intro es
    cases es with
    | nil => rfl
    | cons e es => rw [firstOfEach_cons_eq, List.head?_cons, List.head?_cons]
  rw [← List.head?_filter, ← List.head?_filter, filter_firstOfEach hp, hhead]

theorem respects_sameAs (k : KeyClass) : Respects (·.sameAs k) := by
  intro a b h
  have hid : a.id = b.id := beq_iff_eq.1 h
  simp only [KeyClass.sameAs, hid]

theorem respects_hasKeyClass (ix : KeyIndex) : Respects fun k => !ix.hasKeyClass k := by
  intro a b h
  have hid : a.id = b.id := beq_iff_eq.1 h
  simp only [hasKeyClass, KeyClass.sameAs, hid]

theorem firstOfEach_sublist (es : List (KeyClass × String)) : (firstOfEach es).Sublist es := by
  induction es using others_induction with
  | nil => exact List.Sublist.slnil
  | cons e es ih =>
    rw [firstOfEach_cons_eq]
    exact (ih.trans List.filter_sublist).cons_cons e

theorem pairwise_firstOfEach (es : List (KeyClass × String)) :
    (firstOfEach es).Pairwise fun a b => ¬a.1.sameAs b.1 := by
  induction es using others_induction with
  | nil => exact .nil
  | cons e es ih =>
    rw [firstOfEach_cons_eq]
    refine List.pairwise_cons.2 ⟨fun b hb => ?_, ih⟩
    have hne := (List.mem_filter.1 ((firstOfEach_sublist _).subset hb)).2
    rw [e.1.sameAs_comm]
    simpa using hne

theorem mem_firstOfEach_iff {e : KeyClass × String} {es : List (KeyClass × String)} :
    e ∈ firstOfEach es ↔ es.find? (fun b => b.1.sameAs e.1) = some e := by
  rw [← find?_firstOfEach (respects_sameAs e.1)]
  constructor
  · intro he
    obtain ⟨before, after, hes⟩ := List.append_of_mem he
    have hp := pairwise_firstOfEach es
    rw [hes] at hp ⊢
    refine List.find?_eq_some_iff_append.2 ⟨e.1.sameAs_refl, before, after, rfl, fun b hb => ?_⟩
    have hne := (List.pairwise_append.1 hp).2.2 b hb e List.mem_cons_self
    simpa using hne
  · exact List.mem_of_find?_eq_some

variable {cs : List ProviderClass} {ds : List Discovered}

theorem lastKeyed_eq_some_iff {key : String} {c : ProviderClass} : lastKeyed key cs = some c ↔
    ∃ before after, cs = before ++ c :: after ∧ c.key = key ∧ ∀ d ∈ after, d.key ≠ key := by
  rw [lastKeyed, List.getLast?_filter, List.find?_eq_some_iff_append]
  constructor
  · rintro ⟨hkey, after, before, hcs, hafter⟩
    have hcs := congrArg List.reverse hcs
    refine ⟨before.reverse, after.reverse, by simpa using hcs, by simpa using hkey, fun d hd => ?_⟩
    simpa using hafter d (List.mem_reverse.1 hd)
  · rintro ⟨before, after, rfl, hkey, hafter⟩
    refine ⟨by simpa using hkey, after.reverse, before.reverse, by simp, fun d hd => ?_⟩
    simpa using hafter d (List.mem_reverse.1 hd)

theorem get?_build_eq_some_iff {key : String} {c : ProviderClass} : (build ds).get? key = some c ↔
    ∃ before d after, ds = before ++ d :: after ∧ d.found = c ∧ c.key = key ∧
      ∀ e ∈ after, e.found.key ≠ key := by
  rw [build, get?_ofClasses, lastKeyed_eq_some_iff]
  constructor
  · rintro ⟨before, after, hds, hkey, hafter⟩
    obtain ⟨before, rest, rfl, rfl, hrest⟩ := List.map_eq_append_iff.1 hds
    obtain ⟨d, after, rfl, hd, rfl⟩ := List.map_eq_cons_iff.1 hrest
    exact ⟨before, d, after, rfl, hd, hkey, fun e he => hafter _ (List.mem_map_of_mem he)⟩
  · rintro ⟨before, d, after, rfl, rfl, hkey, hafter⟩
    refine ⟨before.map (·.found), after.map (·.found), by simp, hkey, fun c hc => ?_⟩
    obtain ⟨e, he, rfl⟩ := List.mem_map.1 hc
    exact hafter e he

theorem contains_build_iff {key : String} : (build ds).contains key ↔ ∃ d ∈ ds, d.found.key = key := by
  rw [contains, build, get?_ofClasses, lastKeyed, List.getLast?_filter, List.find?_isSome]
  simp

theorem mem_keyClasses_build_iff {e : KeyClass × String} : e ∈ (build ds).keyClasses ↔
    ∃ before d after, ds = before ++ d :: after ∧ d.found.declared? = some e ∧
      ∀ x ∈ before, ∀ k, x.found.keyClass = some k → ¬k.sameAs e.1 := by
  have hno : ∀ c : ProviderClass, c.declared?.any (fun b => b.1.sameAs e.1) = false ↔
      ∀ k, c.keyClass = some k → ¬k.sameAs e.1 := by
    intro c
    rw [ProviderClass.declared?, Option.any_map]
    cases c.keyClass <;> simp
  rw [build, keyClasses_ofClasses, mem_firstOfEach_iff, List.filterMap_map, List.find?_filterMap,
    Option.bind_eq_some_iff]
  constructor
  · rintro ⟨d, hfind, hd⟩
    obtain ⟨-, before, after, hds, hb⟩ := List.find?_eq_some_iff_append.1 hfind
    exact ⟨before, d, after, hds, hd, fun x hx => (hno x.found).1 (by simpa using hb x hx)⟩
  · rintro ⟨before, d, after, rfl, hd, hb⟩
    refine ⟨d, List.find?_eq_some_iff_append.2 ⟨?_, before, after, rfl, fun x hx => ?_⟩, hd⟩
    · simp only [Function.comp_apply, hd, Option.any_some]
      exact e.1.sameAs_refl
    · simpa using (hno x.found).2 (hb x hx)

theorem keyClasses_append (cs cs' : List ProviderClass) :
    (ofClasses (cs ++ cs')).keyClasses = (ofClasses cs).keyClasses ++
      (ofClasses cs').keyClasses.filter fun e => !(ofClasses cs).hasKeyClass e.1 := by
  rw [ofClasses_append, keyClasses_foldl, keyClasses_ofClasses cs',
    filter_firstOfEach (respects_hasKeyClass (ofClasses cs))]

theorem get?_append (cs cs' : List ProviderClass) (key : String) :
    (ofClasses (cs ++ cs')).get? key = ((ofClasses cs').get? key).or ((ofClasses cs).get? key) := by
  rw [ofClasses_append, get?_foldl, get?_ofClasses cs']

theorem ofClasses_twice (cs : List ProviderClass) : ofClasses (cs ++ cs) = ofClasses cs := by
  have hempty : Keyed.Sorted empty.classes := List.Pairwise.nil
  have hclasses : (ofClasses (cs ++ cs)).classes = (ofClasses cs).classes := by
    refine Keyed.eq_of_get? (sorted_foldl hempty (cs ++ cs)) (sorted_foldl hempty cs) fun key => ?_
    exact (get?_append cs cs key).trans Option.or_self
  have hkeyClasses : (ofClasses (cs ++ cs)).keyClasses = (ofClasses cs).keyClasses := by
    rw [keyClasses_append, List.filter_eq_nil_iff.2, List.append_nil]
    intro e he
    have hhas : (ofClasses cs).hasKeyClass e.1 := List.any_eq_true.2 ⟨e, he, e.1.sameAs_refl⟩
    simp [hhas]
  exact congrArg₂ KeyIndex.mk hclasses hkeyClasses

/-- The index of a listing has under each key the last listed class with that key, and no other key; its keys
stand once each, in the order of their bytes. The key-classes stand once each, with the key of the first
class that declares them, which is indexed. Of a listing in two parts the later part decides on the keys
that it has and the earlier one on the others, and the key-classes of the earlier part come first; what is
listed all over again changes nothing. -/
theorem last_key_first_key_class (ds : List Discovered) :
    let ix := build ds
    (∀ key c, ix.get? key = some c ↔ ∃ before d after, ds = before ++ d :: after ∧ d.found = c ∧
      c.key = key ∧ ∀ e ∈ after, e.found.key ≠ key) ∧
    (∀ key, ix.contains key ↔ ∃ d ∈ ds, d.found.key = key) ∧
    ix.keys.Pairwise (fun a b => Text.bytes a < Text.bytes b) ∧
    (∀ key, key ∈ ix.keys ↔ ∃ d ∈ ds, d.found.key = key) ∧ ix.size = ix.keys.length ∧
    (ix.keyClasses.Pairwise fun a b => ¬a.1.sameAs b.1) ∧
    (∀ e, e ∈ ix.keyClasses ↔ ∃ before d after, ds = before ++ d :: after ∧ d.found.declared? = some e ∧
      ∀ x ∈ before, ∀ k, x.found.keyClass = some k → ¬k.sameAs e.1) ∧
    (∀ e ∈ ix.keyClasses, ix.contains e.2) ∧
    (∀ es, let both := build (ds ++ es)
      (∀ key, both.get? key = ((build es).get? key).or (ix.get? key)) ∧
      both.keyClasses = ix.keyClasses ++ (build es).keyClasses.filter fun e => !ix.hasKeyClass e.1) ∧
    build (ds ++ ds) = ix := by
  intro ix
  have hsorted : ix.keys.Pairwise Text.Before := sorted_build ds
  have hkeys : ∀ key, key ∈ ix.keys ↔ ix.contains key := fun key => Keyed.mem_keys_iff
  have hdistinct : ix.keyClasses.Pairwise fun a b => ¬a.1.sameAs b.1 := by
    have hfirst : ix.keyClasses = firstOfEach ((ds.map (·.found)).filterMap (·.declared?)) :=
      keyClasses_ofClasses _
    rw [hfirst]
    exact pairwise_firstOfEach _
  refine ⟨fun key c => get?_build_eq_some_iff, fun key => contains_build_iff,
    hsorted.imp Text.Before.bytes_lt, fun key => (hkeys key).trans contains_build_iff,
    (List.length_map _).symm, hdistinct, fun e => mem_keyClasses_build_iff, served_ofClasses _, ?_, ?_⟩
  · intro es both
    have hboth : both = ofClasses (ds.map (·.found) ++ es.map (·.found)) := by
      rw [← List.map_append]
      rfl
    rw [hboth]
    exact ⟨get?_append _ _, keyClasses_append _ _⟩
  · rw [build, List.map_append]
    exact ofClasses_twice _

end KeyIndex

end ProviderRegistry
