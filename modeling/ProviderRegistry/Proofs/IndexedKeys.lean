import ProviderRegistry.Proofs.KeyTables
import ProviderRegistry.Proofs.LookupOutcome

/-! Every class that a registry has under a key can be looked up there. The index keeps any text as
a key, but a lookup takes the empty one for none at all: a class under the empty key is listed and
never reached by it. Under every other key, named or found by key-class, a lookup answers for the
class that the index shows, and for no other. -/

namespace ProviderRegistry

open Store

namespace Store

/-- Every registry indexes the classes that a scan listed. -/
def Indexed (s : Store) : Prop := ∀ ix ∈ s.registries.map Registry.index, ∃ ds, ix = KeyIndex.build ds

theorem indexed_addRegistry {s : Store} (h : s.Indexed) {files : FileTree} {p : ExtensionPoint}
    {locator : Locator} {catalog : Catalog} {reg : Registry}
    (hb : (Registry.build files p locator catalog).result = .ok reg) : (s.addRegistry reg).1.Indexed := by
  intro ix hix
  simp only [addRegistry, List.map_append, List.map_cons, List.map_nil, List.mem_append,
    List.mem_singleton] at hix
  rcases hix with hix | rfl
  · exact h ix hix
  · unfold Registry.build at hb
    dsimp only at hb
    split at hb
    · cases hb
    · cases hb; exact ⟨_, rfl⟩

theorem invariant_indexed : Invariant Indexed where
  addLoader _ _ _ h := h
  detached s l p h := by
    unfold detachedRegistry
    split
    · exact h
    · dsimp only
      split
      · exact h
      · rename_i hb
        exact indexed_addRegistry h hb
  request c h := by
    have hc := c.course
    generalize c.reply = a at hc
    cases hc with
    | invalid | absent | cached | failed => exact h
    | built _ _ _ hb => exact indexed_addRegistry (s := c.asked _) h hb
  start s r k p h := by
    have hsame : (s.start r k p).registries.map Registry.index = s.registries.map Registry.index :=
      map_modify_of_same (fun reg => Registry.index_of_bare (reg.bare_touch k)) _ _
    rw [Indexed, hsame]
    exact h
  finish s r k p h := by
    have hsame : (s.finish r k p).store.registries.map Registry.index =
        s.registries.map Registry.index := map_modify_of_same (fun reg => Registry.index_of_bare (reg.bare_fill k _)) _ _
    rw [Indexed, hsame]
    exact h

theorem indexed_empty (files : FileTree) : (empty files).Indexed := by
  intro ix hix
  cases hix

theorem Indexed.get?_of_keyForClass {s : Store} (h : s.Indexed) {r : RegistryId} {reg : Registry}
    (hr : s.registries[r]? = some reg) {q : KeyClass} {k : String}
    (hq : reg.index.keyForClass q = some k) : ∃ p, reg.index.get? k = some p := by
  obtain ⟨ds, hds⟩ := h reg.index (List.mem_map_of_mem (List.mem_of_getElem? hr))
  rw [hds] at hq ⊢
  exact (KeyIndex.served_ofClasses _).get?_of_keyForClass hq

end Store

/-- The answer to a lookup for the class that a registry has under a key: the instance it holds
there, else what the factory of the class gives, which is an instance that is held there alone or a
fault of state about this key. -/
structure AnswersFor (s : Store) (r : RegistryId) (reg : Registry) (k : String) (p : ProviderClass)
    (a : Reply (Except LookupFault InstanceId)) : Prop where
  cached : ∀ i, s.instance? r k = some i → a = ⟨s, [], .ok i⟩
  run : s.instance? r k = none → ∃ later, a.store.runs = s.runs ++ ⟨r, k, p⟩ :: later
  made : ∀ i, a.result = .ok i → a.store.instances[i]? = some p ∧
    ∀ r' k', a.store.instance? r' k' = some i ↔ r' = r ∧ k' = k
  failed : ∀ f, a.result = .error f → s.instance? r k = none ∧ f.fault.kind = .state ∧
    ∃ cause, f.fault.message = LookupFault.notMade reg.point.name k ++ ": " ++ cause

theorem effectiveKey_of_named (reg : Registry) {k : String} (hk : k ≠ "") :
    reg.effectiveKey (some k) = some k := by
  simp [Registry.effectiveKey, Option.filter, hk]

namespace LookupCall

/-- An instance that a lookup returns was made by the class under its key and is held there alone. -/
theorem only_held {c : LookupCall} (h : Coherent c.store) {reg : Registry}
    (hr : c.store.registries[c.registry]? = some reg) {k : String} {p : ProviderClass}
    (hk : reg.effectiveKey c.key = some k) (hp : reg.index.get? k = some p) {i : InstanceId}
    (hi : c.reply.result = .ok i) : c.reply.store.instances[i]? = some p ∧
      ∀ r j, c.reply.store.instance? r j = some i ↔ r = c.registry ∧ j = k := by
  have hcoh := coherent_reply h
  -- the instance is held under the key that the lookup was for, and coherence does the rest
  obtain ⟨j, hj, hheld⟩ := held_of_ok h hi
  obtain rfl : k = j := by
    have hj : reg.effectiveKey c.key = some j := by
      simpa [effectiveKey, Store.effectiveKey, hr] using hj
    exact Option.some.inj (hk.symm.trans hj)
  refine ⟨?_, fun r j => ⟨fun hrj => hcoh.apart _ _ _ _ i hrj hheld, ?_⟩⟩
  · obtain ⟨d, hd, hm⟩ := hcoh.made _ _ _ hheld
    have hp' : c.reply.store.class? c.registry k = some p :=
      (grows_reply h).class? (by simp [Store.class?, hr, hp])
    exact Option.some.inj (hd.symm.trans hp') ▸ hm
  · rintro ⟨rfl, rfl⟩
    exact hheld

theorem answersFor {c : LookupCall} (h : Coherent c.store) (hn : ¬c.Circular) {reg : Registry}
    (hr : c.store.registries[c.registry]? = some reg) {k : String} {p : ProviderClass}
    (hk : reg.effectiveKey c.key = some k) (hp : reg.index.get? k = some p) :
    AnswersFor c.store c.registry reg k p c.reply := by
  have hi : c.store.instance? c.registry k = reg.instance? k := by simp [Store.instance?, hr]
  have hmade := fun i => only_held h hr hk hp (i := i)
  have hruns : ∀ point p, c.settled = .due point k p →
      ∃ later, c.reply.store.runs = c.store.runs ++ ⟨c.registry, k, p⟩ :: later :=
    fun _ _ hs => runs_of_due h hs
  have he := ends h hn hr
  generalize c.reply = a at he hmade hruns
  cases he with
  | unkeyed hk' => rw [hk] at hk'; cases hk'
  | unindexed hk' hp' => rw [hk] at hk'; cases hk'; rw [hp] at hp'; cases hp'
  | @cached k' p' i hk' _ hheld =>
    cases hk.symm.trans hk'
    refine ⟨fun j hj => ?_, fun hj => ?_, hmade, fun f hf => by cases hf⟩
    · rw [hi, hheld] at hj; cases hj; rfl
    · rw [hi, hheld] at hj; cases hj
  | fails hk' hp' hheld hs hf =>
    cases hk.symm.trans hk'
    cases hp.symm.trans hp'
    refine ⟨fun j hj => ?_, fun _ => hruns _ _ hs, hmade, fun f hf' => ?_⟩
    · rw [hi, hheld] at hj; cases hj
    · cases hf'
      exact ⟨hi.trans hheld, hf.fault⟩
  | makes hk' hp' hheld hs =>
    cases hk.symm.trans hk'
    cases hp.symm.trans hp'
    refine ⟨fun j hj => ?_, fun _ => hruns _ _ hs, hmade, fun f hf => by cases hf⟩
    rw [hi, hheld] at hj; cases hj

end LookupCall

namespace Store

theorem keyForClass_eq_none {s : Store} {r : RegistryId} {reg : Registry}
    (hr : s.registries[r]? = some reg) {q : KeyClass}
    (hq : ∀ e ∈ reg.index.keyClasses, e.1.isAssignableFrom q = false) : s.keyForClass r q = none := by
  have hnone : reg.index.keyClasses.find? (fun e => e.1.isAssignableFrom q) = none :=
    List.find?_eq_none.2 fun e he => by simp [hq e he]
  simp [keyForClass, hr, KeyIndex.keyForClass, hnone]

theorem provider_empty_key (s : Store) (r : RegistryId) : s.provider r (some "") = s.provider r none := by
  have hsettle : s.settle [] r (some "") = s.settle [] r none := rfl
  simp only [provider, depthBound, lookupFuel, lookupWith, hsettle]

/-- In every state that a run can come to, every key of a registry that is not empty is looked up to
the class that the registry has under it, be it named or found by key-class. A lookup by the empty
key is one without a key. A lookup by key-class leads to a key that is indexed, or, with no key-class
to match, to the default one. Lookups inside factories answer for the class under their key too. -/
theorem indexed_keys_answer (files : FileTree) (qs : List Request) :
    let s := (empty files).after qs
    (∀ r reg, s.registries[r]? = some reg →
      (∀ k p, k ≠ "" → reg.index.get? k = some p → AnswersFor s r reg k p (s.provider r (some k))) ∧
      (∀ q k, reg.index.keyForClass q = some k → ∃ p, reg.index.get? k = some p ∧
        (k ≠ "" → AnswersFor s r reg k p (s.providerByKeyClass r q))) ∧
      (∀ q, (∀ e ∈ reg.index.keyClasses, e.1.isAssignableFrom q = false) →
        s.providerByKeyClass r q = s.provider r none) ∧
      s.provider r (some "") = s.provider r none) ∧
    ∀ c ∈ (empty files).lookups qs, ∀ reg, c.store.registries[c.registry]? = some reg → ¬c.Circular →
      ∀ k p, reg.effectiveKey c.key = some k → reg.index.get? k = some p →
        AnswersFor c.store c.registry reg k p c.reply := by
  intro s
  have h : Coherent s := (coherent_empty files).after qs
  have hix : s.Indexed := invariant_indexed.after (indexed_empty files) qs
  refine ⟨fun r reg hr => ?_, fun c hc reg hr hn k p hk hp => ?_⟩
  · have named : ∀ k p, k ≠ "" → reg.index.get? k = some p →
        AnswersFor s r reg k p (s.provider r (some k)) := fun k p hne hp =>
      (s.lookup r (some k)).answersFor h (s.not_circular_lookup r (some k)) hr (effectiveKey_of_named reg hne) hp
    refine ⟨named, fun q k hq => ?_, fun q hq => ?_, provider_empty_key s r⟩
    · obtain ⟨p, hp⟩ := hix.get?_of_keyForClass hr hq
      have hk : s.keyForClass r q = some k := by simp [keyForClass, hr, hq]
      exact ⟨p, hp, fun hne => by rw [providerByKeyClass, hk]; exact named k p hne hp⟩
    · rw [providerByKeyClass, keyForClass_eq_none hr hq]
  · exact c.answersFor (lookups_spec (coherent_empty files) qs hc).1 hn hr hk hp

def unpacked : KeyClass := .mk 2 "Unpacked" []

def archiveRun : List Request :=
  [.addLoader (.memory (⟨"extensions/Archive", "a", "Plain\nPack\nBlank"⟩ :: codecManifests))
      (.ofClasses [zipClass, fileClass, plainClass, packClass,
        ⟨4, "Blank", archive, some ⟨"", some unpacked⟩, .makes⟩]),
    .registry 0 archive]

/-- The narrower key-class is answered for by the class of the wider one, whose factory looks up a
provider of its own. -/
theorem indexed_keys_answer_narrower :
    let s := (empty (.ofCwd [])).after archiveRun
    ∃ reg p, s.registries[0]? = some reg ∧ reg.index.get? "pack" = some p ∧ p.name = "Pack" ∧
      AnswersFor s 0 reg "pack" p (s.provider 0 (some "pack")) ∧
      AnswersFor s 0 reg "pack" p (s.providerByKeyClass 0 zipped) ∧
      (s.providerByKeyClass 0 zipped).result = .ok 2 ∧
      s.providerByKeyClass 0 (.mk 3 "Cut" []) = s.provider 0 none ∧
      ∃ outer middle inner reg' p', (empty (.ofCwd [])).lookups (archiveRun ++ [.providerByKeyClass 0 zipped]) =
        [outer, middle, inner] ∧ inner.reply.result = .ok 0 ∧
        AnswersFor inner.store inner.registry reg' "file" p' inner.reply := by
  intro s
  obtain ⟨reg, hreg⟩ : ∃ reg, s.registries[0]? = some reg :=
    Option.isSome_iff_exists.1 (by decide +kernel)
  have hname : (s.registries[0]?.bind fun reg => (reg.index.get? "pack").map (·.name)) = some "Pack" := by
    decide +kernel
  have hclass : (s.registries[0]?.bind fun reg => reg.index.keyForClass zipped) = some "pack" := by
    decide +kernel
  have hnone : (s.registries[0]?.map fun reg =>
      reg.index.keyClasses.all fun e => !e.1.isAssignableFrom (.mk 3 "Cut" [])) = some true := by
    decide +kernel
  simp only [hreg, Option.bind_some, Option.map_some, Option.some.injEq, List.all_eq_true,
    Bool.not_eq_true'] at hname hclass hnone
  obtain ⟨p, hp, hname⟩ := Option.map_eq_some_iff.1 hname
  obtain ⟨named, byClass, unmatched, -⟩ := (indexed_keys_answer (.ofCwd []) archiveRun).1 0 reg hreg
  obtain ⟨p', hp', hq⟩ := byClass zipped "pack" hclass
  obtain rfl : p = p' := Option.some.inj (hp.symm.trans hp')
  obtain ⟨outer, middle, inner, hos⟩ : ∃ outer middle inner,
      (empty (.ofCwd [])).lookups (archiveRun ++ [.providerByKeyClass 0 zipped]) = [outer, middle, inner] :=
    List.length_eq_three.1 (by decide +kernel)
  have hres : ((empty (.ofCwd [])).lookups (archiveRun ++ [.providerByKeyClass 0 zipped])).map (fun d =>
      (d.reply.result, d.store.registries[d.registry]?.bind fun reg => (reg.effectiveKey d.key).bind
        fun k => (reg.index.get? k).map fun p => (k, p.name))) =
        [(.ok 2, some ("pack", "Pack")), (.ok 1, some ("zip", "Zip")), (.ok 0, some ("file", "File"))] := by
    decide +kernel
  rw [hos] at hres
  simp only [List.map_cons, List.map_nil, List.cons.injEq, Prod.mk.injEq, and_true,
    Option.bind_eq_some_iff, Option.map_eq_some_iff] at hres
  obtain ⟨-, -, hok, reg', hreg', _, hk', p', hp', rfl, -⟩ := hres
  have hn : ¬inner.Circular := LookupCall.not_circular_of_result fun _ _ he => by
    rw [hok] at he
    cases he
  have hin := (indexed_keys_answer (.ofCwd []) (archiveRun ++ [.providerByKeyClass 0 zipped])).2 inner
    (by simp [hos]) reg' hreg' hn _ p' hk' hp'
  exact ⟨reg, p, hreg, hp, hname, named "pack" p (by decide) hp, hq (by decide), by decide +kernel,
    unmatched _ hnone, outer, middle, inner, reg', p', hos, hok, hin⟩

/-- The class under the empty key is indexed, and its key-class leads to that key, but by the one as
by the other a lookup gives the instance of the default key. -/
theorem empty_key_not_answered :
    let s := (empty (.ofCwd [])).after archiveRun
    ∃ reg p, s.registries[0]? = some reg ∧ reg.index.contains "" = true ∧
      reg.index.get? "" = some p ∧ p.name = "Blank" ∧ reg.index.keyForClass unpacked = some "" ∧
      ∀ a ∈ [s.provider 0 (some ""), s.providerByKeyClass 0 unpacked],
        a.result = .ok 0 ∧ a.store.instances.map (·.name) = ["Plain"] ∧
          a.store.instance? 0 "plain" = some 0 ∧ ¬AnswersFor s 0 reg "" p a := by
  intro s
  obtain ⟨reg, hreg⟩ : ∃ reg, s.registries[0]? = some reg :=
    Option.isSome_iff_exists.1 (by decide +kernel)
  have hname : (s.registries[0]?.bind fun reg => (reg.index.get? "").map (·.name)) = some "Blank" := by
    decide +kernel
  have hclass : (s.registries[0]?.bind fun reg => reg.index.keyForClass unpacked) = some "" := by
    decide +kernel
  simp only [hreg, Option.bind_some] at hname hclass
  obtain ⟨p, hp, hname⟩ := Option.map_eq_some_iff.1 hname
  have hgiven : ∀ a ∈ [s.provider 0 (some ""), s.providerByKeyClass 0 unpacked], a.result = .ok 0 ∧
      a.store.instances.map (·.name) = ["Plain"] ∧ a.store.instance? 0 "plain" = some 0 := by
    decide +kernel
  refine ⟨reg, p, hreg, by simp [KeyIndex.contains, hp], hp, hname, hclass, fun a ha => ?_⟩
  obtain ⟨hres, hins, hheld⟩ := hgiven a ha
  refine ⟨hres, hins, hheld, fun hf => ?_⟩
  -- the instance would be held under the empty key alone
  have := ((hf.made 0 hres).2 0 "plain").1 hheld
  exact absurd this.2 (by decide)

end Store

end ProviderRegistry
