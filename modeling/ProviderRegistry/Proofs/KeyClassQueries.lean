import ProviderRegistry.Proofs.IndexedKeys
import ProviderRegistry.Proofs.KeyClassFamilies
import ProviderRegistry.Proofs.ListedKeys

/-! The key that a key-class leads to. The table of key-classes holds each of them once, and that changes no
answer: the key is that of the first listed class whose key-class is wide enough. What is wide enough for a
key-class is wide enough for those that extend it, so these find an entry no later; but the entry they find
may be for the empty key, and a lookup by that one is for the default key. -/

namespace ProviderRegistry

theorem KeyClass.isAssignableFrom_of_sameAs {a b : KeyClass} (h : a.sameAs b) (q : KeyClass) :
    a.isAssignableFrom q = b.isAssignableFrom q := by
  have hid : a.id = b.id := beq_iff_eq.1 h
  rw [isAssignableFrom, hid, isAssignableFrom]

def ProviderClass.answers (c : ProviderClass) (q : KeyClass) : Bool :=
  c.keyClass.any fun k => k.isAssignableFrom q

namespace KeyIndex

/-- Where the entry stands whose key a key-class leads to. -/
def matchAt? (ix : KeyIndex) (q : KeyClass) : Option Nat :=
  ix.keyClasses.findIdx? fun e => e.1.isAssignableFrom q

theorem keyForClass_eq_matchAt? (ix : KeyIndex) (q : KeyClass) :
    ix.keyForClass q = (ix.matchAt? q).bind fun i => ix.keyClasses[i]?.map (·.2) := by
  rw [keyForClass, List.find?_eq_bind_findIdx?_getElem?, Option.map_bind]
  rfl

theorem keyForClass_ofClasses (cs : List ProviderClass) (q : KeyClass) :
    (ofClasses cs).keyForClass q = (cs.find? (·.answers q)).map (·.key) := by
  have hany : ∀ c : ProviderClass, c.declared?.any (fun e => e.1.isAssignableFrom q) = c.answers q := by
    intro c
    rw [ProviderClass.declared?, Option.any_map]
    rfl
  rw [keyForClass, keyClasses_ofClasses,
    find?_firstOfEach (p := (·.isAssignableFrom q)) fun a b h => a.isAssignableFrom_of_sameAs h q,
    List.find?_filterMap]
  simp only [hany]
  cases hc : cs.find? (·.answers q) with
  | none => rfl
  | some c =>
    have ha : c.answers q := List.find?_some (p := fun c : ProviderClass => c.answers q) hc
    obtain ⟨k, hk, -⟩ := (Option.any_eq_true _ _).1 ha
    simp [ProviderClass.declared?, hk]

theorem keyForClass_build (ds : List Discovered) (q : KeyClass) :
    (build ds).keyForClass q = (ds.find? (·.found.answers q)).map (·.found.key) := by
  rw [build, keyForClass_ofClasses, List.find?_map, Option.map_map]
  rfl

theorem matchAt?_of_wider {ix : KeyIndex} {q r : KeyClass}
    (h : ∀ e ∈ ix.keyClasses, e.1.isAssignableFrom q → e.1.isAssignableFrom r) {j : Nat}
    (hj : ix.matchAt? q = some j) : ∃ i ≤ j, ix.matchAt? r = some i := by
  rw [matchAt?, List.findIdx?_eq_some_iff_findIdx_eq] at hj
  obtain ⟨hlt, rfl⟩ := hj
  have hle := List.findIdx_le_findIdx h
  exact ⟨_, hle, List.findIdx?_eq_some_iff_findIdx_eq.2 ⟨hle.trans_lt hlt, rfl⟩⟩

end KeyIndex

/-- The listed classes declare no key-classes but those of the family. -/
def KeyClassFamily.Covers {n : Nat} (f : KeyClassFamily n) (ds : List Discovered) : Prop :=
  ∀ d ∈ ds, ∀ k, d.found.keyClass = some k → ∃ a, k = f.keyClass a

/-- The class declares `q` or a key-class that `q` extends, directly or not. -/
def ProviderClass.Serves {n : Nat} (f : KeyClassFamily n) (q : Fin n) (c : ProviderClass) : Prop :=
  ∃ a, c.keyClass = some (f.keyClass a) ∧ Relation.ReflTransGen f.Extends q a

/-- The second listing is the first without a class whose key-class is declared before it. -/
def RepeatDropped (ds ds' : List Discovered) : Prop :=
  ∃ before d after, ds = before ++ d :: after ∧ ds' = before ++ after ∧
    ∃ e ∈ before, ∃ k k', e.found.keyClass = some k ∧ d.found.keyClass = some k' ∧ k.sameAs k'

namespace KeyClassFamily

variable {n : Nat} {f : KeyClassFamily n} {ds : List Discovered}

theorem Covers.answers_iff (hd : f.Covers ds) (hf : f.Acyclic) (q : Fin n) {d : Discovered} (hm : d ∈ ds) :
    d.found.answers (f.keyClass q) ↔ d.found.Serves f q := by
  rw [ProviderClass.answers, Option.any_eq_true]
  constructor
  · rintro ⟨k, hk, hq⟩
    obtain ⟨a, rfl⟩ := hd d hm k hk
    exact ⟨a, hk, hf.assignable_iff.1 hq⟩
  · rintro ⟨a, hk, hq⟩
    exact ⟨f.keyClass a, hk, hf.assignable_iff.2 hq⟩

/-- What is found for a key-class is found no later for those that extend it. -/
theorem Covers.matchAt? (hd : f.Covers ds) (hf : f.Acyclic) {q r : Fin n}
    (hr : Relation.ReflTransGen f.Extends r q) {j : Nat}
    (hj : (KeyIndex.build ds).matchAt? (f.keyClass q) = some j) :
    ∃ i ≤ j, (KeyIndex.build ds).matchAt? (f.keyClass r) = some i := by
  refine KeyIndex.matchAt?_of_wider (fun e he hq => ?_) hj
  obtain ⟨before, d, after, rfl, hdeclared, -⟩ := KeyIndex.mem_keyClasses_build_iff.1 he
  obtain ⟨k, hk, rfl⟩ := Option.map_eq_some_iff.1 hdeclared
  obtain ⟨a, rfl⟩ := hd d (by simp) k hk
  exact hf.assignable_iff.2 (hr.trans (hf.assignable_iff.1 hq))

end KeyClassFamily

/-- Without a class whose key-class is declared before it, the listing leads to the same keys. -/
theorem RepeatDropped.keyForClass {ds ds' : List Discovered} (h : RepeatDropped ds ds') (q : KeyClass) :
    (KeyIndex.build ds').keyForClass q = (KeyIndex.build ds).keyForClass q := by
  obtain ⟨before, d, after, rfl, rfl, e, he, k, k', hk, hk', hs⟩ := h
  rw [KeyIndex.keyForClass_build, KeyIndex.keyForClass_build, List.find?_append, List.find?_append]
  cases hb : before.find? (·.found.answers q) with
  | some c => rfl
  | none =>
    have hno : d.found.answers q = false := by
      have hno := List.find?_eq_none.1 hb e he
      rw [Bool.not_eq_true] at hno
      rw [ProviderClass.answers, hk', Option.any_some, ← KeyClass.isAssignableFrom_of_sameAs hs q]
      rwa [ProviderClass.answers, hk, Option.any_some] at hno
    rw [List.find?_cons, hno]

namespace KeyIndex

variable {n : Nat} {f : KeyClassFamily n} {ds : List Discovered}

theorem keyForClass_eq_some_iff (hd : f.Covers ds) (hf : f.Acyclic) (q : Fin n) (key : String) :
    (build ds).keyForClass (f.keyClass q) = some key ↔
      ∃ before d after, ds = before ++ d :: after ∧ d.found.Serves f q ∧ d.found.key = key ∧
        ∀ e ∈ before, ¬e.found.Serves f q := by
  rw [keyForClass_build, Option.map_eq_some_iff]
  constructor
  · rintro ⟨d, hfind, hkey⟩
    obtain ⟨hans, before, after, hds, hb⟩ := List.find?_eq_some_iff_append.1 hfind
    subst hds
    refine ⟨before, d, after, rfl, (hd.answers_iff hf q (by simp)).1 hans, hkey, fun e he hs => ?_⟩
    have hno := hb e he
    rw [(hd.answers_iff hf q (by simp [he])).2 hs] at hno
    cases hno
  · rintro ⟨before, d, after, rfl, hs, hkey, hb⟩
    refine ⟨d, List.find?_eq_some_iff_append.2 ⟨(hd.answers_iff hf q (by simp)).2 hs, before, after, rfl, ?_⟩,
      hkey⟩
    intro e he
    rw [Bool.not_eq_true', ← Bool.not_eq_true, hd.answers_iff hf q (by simp [he])]
    exact hb e he

theorem keyForClass_eq_none_iff (hd : f.Covers ds) (hf : f.Acyclic) (q : Fin n) :
    (build ds).keyForClass (f.keyClass q) = none ↔ ∀ d ∈ ds, ¬d.found.Serves f q := by
  rw [keyForClass_build, Option.map_eq_none_iff, List.find?_eq_none]
  exact forall₂_congr fun d hm => not_congr (hd.answers_iff hf q hm)

/-- The key that a key-class leads to is that of the first listed class that declares it or one that it
extends, and there is none only if no class does. Classes that declare a key-class again may be left out.
A key-class that extends another one which leads to a key leads to a key too, by an entry that stands no
later in the table, and a lookup for it is for that key: so if the key is not empty, the lookup is not for
the default key. -/
theorem key_of_first_listed (f : KeyClassFamily n) (hf : f.Acyclic) (ds : List Discovered) (hd : f.Covers ds)
    (q : Fin n) :
    let ix := build ds
    (∀ key, ix.keyForClass (f.keyClass q) = some key ↔
      ∃ before d after, ds = before ++ d :: after ∧ d.found.Serves f q ∧ d.found.key = key ∧
        ∀ e ∈ before, ¬e.found.Serves f q) ∧
    (ix.keyForClass (f.keyClass q) = none ↔ ∀ d ∈ ds, ¬d.found.Serves f q) ∧
    (∀ ds', Relation.ReflTransGen RepeatDropped ds ds' →
      (build ds').keyForClass (f.keyClass q) = ix.keyForClass (f.keyClass q)) ∧
    ∀ r j, Relation.ReflTransGen f.Extends r q → ix.matchAt? (f.keyClass q) = some j →
      ∃ i ≤ j, ix.matchAt? (f.keyClass r) = some i ∧ ∃ e, ix.keyClasses[i]? = some e ∧
        ix.keyForClass (f.keyClass r) = some e.2 ∧
        ∀ (s : Store) id reg, s.registries[id]? = some reg → reg.index = ix →
          s.providerByKeyClass id (f.keyClass r) = s.provider id (some e.2) ∧
          (e.2 ≠ "" → reg.effectiveKey (some e.2) = some e.2) := by
  intro ix
  refine ⟨keyForClass_eq_some_iff hd hf q, keyForClass_eq_none_iff hd hf q, fun ds' h => ?_, ?_⟩
  · induction h with
    | refl => rfl
    | tail _ hdrop ih => rw [hdrop.keyForClass, ih]
  · intro r j hr hj
    obtain ⟨i, hij, hi⟩ := hd.matchAt? hf hr hj
    obtain ⟨hlt, -⟩ := List.findIdx?_eq_some_iff_findIdx_eq.1 hi
    have he : ix.keyClasses[i]? = some ix.keyClasses[i] := List.getElem?_eq_getElem hlt
    have hkey : ix.keyForClass (f.keyClass r) = some ix.keyClasses[i].2 := by
      rw [keyForClass_eq_matchAt?, hi, Option.bind_some, he, Option.map_some]
    refine ⟨i, hij, hi, _, he, hkey, fun s id reg hreg hix => ⟨?_, fun hne => ?_⟩⟩
    · rw [Store.providerByKeyClass, Store.keyForClass, hreg, Option.bind_some, hix, hkey]
    · exact effectiveKey_of_named reg hne

open KeyClassFamily (shapes)

def hoops (ring wide : KeyClass) : List Discovered :=
  [⟨"a", 1, 0, "Ring", Store.sink, some ⟨"ring", some ring⟩, .makes⟩,
    ⟨"a", 2, 1, "Hoop", Store.sink, some ⟨"hoop", some ring⟩, .makes⟩,
    ⟨"b", 1, 2, "Any", Store.sink, some ⟨"any", some wide⟩, .makes⟩]

/-- The narrowest key-class finds the first entry, be the second class listed or not, and so no later than
the widest one, which finds the other; the key-class beside them finds none. -/
theorem key_of_first_listed_hoops :
    let ds := hoops (shapes.keyClass 1) (shapes.keyClass 0)
    let ix := build ds
    shapes.Acyclic ∧ shapes.Covers ds ∧ ix.keyForClass (shapes.keyClass 3) = some "ring" ∧
    (build (ds.eraseIdx 1)).keyForClass (shapes.keyClass 3) = some "ring" ∧
    ix.keyForClass (shapes.keyClass 4) = none ∧ ix.matchAt? (shapes.keyClass 0) = some 1 ∧
    ∃ i ≤ 1, ix.matchAt? (shapes.keyClass 3) = some i := by
  intro ds ix
  have hf : shapes.Acyclic := KeyClassFamily.acyclic_of_rank Fin.val (by decide)
  have hd : shapes.Covers ds := by
    intro d hd k hk
    simp only [ds, hoops, List.mem_cons, List.not_mem_nil, or_false] at hd
    rcases hd with rfl | rfl | rfl <;> exact ⟨_, (Option.some.inj hk).symm⟩
  have hup : Relation.ReflTransGen shapes.Extends 3 1 := .single (by decide : 1 ∈ shapes.extended 3)
  have htop : Relation.ReflTransGen shapes.Extends 3 0 := hup.tail (by decide : 0 ∈ shapes.extended 1)
  obtain ⟨hfirst, -, hdrop, -⟩ := key_of_first_listed shapes hf ds hd 3
  obtain ⟨-, -, -, hnarrow⟩ := key_of_first_listed shapes hf ds hd 0
  have hring : ix.keyForClass (shapes.keyClass 3) = some "ring" :=
    (hfirst "ring").2 ⟨[], _, _, rfl, ⟨1, rfl, hup⟩, rfl, nofun⟩
  have hrepeat : RepeatDropped ds (ds.eraseIdx 1) :=
    ⟨[_], _, [_], rfl, rfl, _, List.mem_cons_self, _, _, rfl, rfl, by decide⟩
  have hwide : ix.matchAt? (shapes.keyClass 0) = some 1 := by decide +kernel
  obtain ⟨i, hi, hmatch, -⟩ := hnarrow 3 1 htop hwide
  exact ⟨hf, hd, hring, (hdrop _ (.single hrepeat)).trans hring, by decide +kernel, hwide, i, hi, hmatch⟩

end KeyIndex

namespace Store

def crates : KeyClassFamily 2 where
  name := ["Packed", "Zipped"].get
  extended := [[], [0]].get

def crateRun : List Request :=
  [.addLoader (.memory [⟨"extensions/Archive", "a", "Plain\nBlank\nPack"⟩])
      (.ofClasses [plainClass, ⟨3, "Blank", archive, some ⟨"", some (crates.keyClass 1)⟩, .makes⟩,
        ⟨4, "Pack", archive, some ⟨"pack", some (crates.keyClass 0)⟩, .makes⟩]),
    .registry 0 archive]

/-- The wider key-class leads to a key of its own and the narrower one to the empty key, so a lookup by the
wider one gives an instance of the class that declares it, and one by the narrower one is for the default
key and gives an instance of the class under that. -/
theorem narrower_falls_back :
    let s := (empty (.ofCwd [])).after crateRun
    let wider := s.providerByKeyClass 0 (crates.keyClass 0)
    let narrower := s.providerByKeyClass 0 (crates.keyClass 1)
    crates.Acyclic ∧ Relation.TransGen crates.Extends 1 0 ∧
    s.keyForClass 0 (crates.keyClass 0) = some "pack" ∧ s.keyForClass 0 (crates.keyClass 1) = some "" ∧
    (s.registries[0]?.map fun reg => (reg.defaultKey, reg.effectiveKey (some ""))) =
      some (some "plain", some "plain") ∧
    wider.result = .ok 0 ∧ wider.store.instances.map (·.name) = ["Pack"] ∧
    narrower = s.provider 0 none ∧ narrower.result = .ok 0 ∧
    narrower.store.instances.map (·.name) = ["Plain"] ∧ narrower.store.instance? 0 "plain" = some 0 := by
  intro s wider narrower
  have hf : crates.Acyclic := KeyClassFamily.acyclic_of_rank Fin.val (by decide)
  have hkey : s.keyForClass 0 (crates.keyClass 1) = some "" := by decide +kernel
  have hfall : narrower = s.provider 0 none := by
    rw [← provider_empty_key, ← hkey]
    rfl
  exact ⟨hf, .single (by decide : 0 ∈ crates.extended 1), by decide +kernel, hkey, by decide +kernel,
    by decide +kernel, by decide +kernel, hfall, by decide +kernel⟩

end Store

end ProviderRegistry
