import ProviderRegistry.Proofs.LoaderSize

/-! One registry for every loader and type. A valid request asks the locator exactly once as long
as no request for its type has succeeded, and never afterwards; a build that fails keeps nothing,
so that the next request builds again. This holds after every sequence of failures and successes
and for requests of factories too. -/

namespace ProviderRegistry

open Store

namespace RegistryCall

/-- Whether two requests are for one type on one loader. -/
def Agrees (c d : RegistryCall) : Prop := c.loader = d.loader ∧ c.point.typeId = d.point.typeId

/-- Whether the request comes to a build on the loader. -/
def asks (c : RegistryCall) (j : LoaderId) : Bool :=
  c.loader = j ∧ c.point.invalid? = none ∧
    c.store.loaders[j]?.any fun l => l.built? c.point.typeId = none

/-- The request asks the locator of its loader once and scans what it answers; a registry that is
built is new and is kept for the type, a failure leaves nothing. -/
structure Builds (c : RegistryCall) (l : Loader) : Prop where
  asked : c.reply.store.loaders[c.loader]?.map (·.locator) =
    some (l.locator.locate c.store.files (QualifiedName.resourceName c.point.name)).next
  result : c.reply.result = match (c.build l).result with
    | .error f => .error (.scan c.point.name f)
    | .ok _ => .ok c.store.registries.length
  registries : c.reply.store.registries = c.store.registries ++ (c.build l).result.toOption.toList
  kept : ∀ j ty, c.reply.store.built? j ty =
    if c.loader = j ∧ c.point.typeId = ty then c.reply.result.toOption else c.store.built? j ty
  others : ∀ j, c.loader ≠ j → c.reply.store.loaders[j]? = c.store.loaders[j]?

variable {c d : RegistryCall}

theorem next_build (c : RegistryCall) (l : Loader) : (c.build l).next =
    (l.locator.locate c.store.files (QualifiedName.resourceName c.point.name)).next := by
  have hscan : ∀ a, (scan c.store.files c.point.name l.locator a).next =
      (l.locator.locate c.store.files (QualifiedName.resourceName c.point.name)).next := by
    intro a
    unfold scan
    dsimp only
    split
    · rfl
    · split <;> rfl
  unfold build Registry.build
  dsimp only
  split <;> exact hscan _

theorem loaders_asked (c : RegistryCall) (next : Locator) (j : LoaderId) :
    (c.asked next).loaders[j]? = if c.loader = j then
      c.store.loaders[j]?.map fun l => { l.touch c.point.typeId with locator := next }
    else c.store.loaders[j]? := by
  rw [asked, setLocator, loaders_modifyLoader, loaders_modifyLoader]
  split
  · rw [Option.map_map]; rfl
  · rfl

theorem loaders_keeping (c : RegistryCall) (next : Locator) (reg : Registry) (j : LoaderId) :
    (c.keeping next reg).loaders[j]? = if c.loader = j then
      (c.asked next).loaders[j]?.map (·.fill c.point.typeId c.store.registries.length)
    else (c.asked next).loaders[j]? := loaders_modifyLoader ..

theorem builds_of_unbuilt (h : Coherent c.store) {l : Loader} (hv : c.point.invalid? = none)
    (hl : c.store.loaders[c.loader]? = some l) (hn : l.built? c.point.typeId = none) : c.Builds l := by
  have hr := c.reply_of_unbuilt hv hl hn
  have hk := c.built?_reply h
  have hnone : c.store.built? c.loader c.point.typeId = none := by simp [Store.built?, hl, hn]
  have hkept : ∀ j ty, c.reply.store.built? j ty =
      if c.loader = j ∧ c.point.typeId = ty then c.reply.result.toOption else c.store.built? j ty := by
    intro j ty
    rw [hk]
    split
    · rename_i hj; rw [← hj.1, ← hj.2, hnone, Option.or_none]
    · rfl
  cases hres : (c.build l).result with
  | error f =>
    simp only [hres] at hr
    refine ⟨?_, by rw [hr, hres], by simp [hr, hres, Except.toOption, asked, setLocator, modifyLoader],
      hkept, fun j hj => ?_⟩
    · rw [hr, loaders_asked, if_pos rfl, hl, ← next_build]; rfl
    · rw [hr, loaders_asked, if_neg hj]
  | ok reg =>
    simp only [hres] at hr
    refine ⟨?_, by rw [hr, hres], by rw [hr, hres, registries_keeping]; rfl, hkept, fun j hj => ?_⟩
    · rw [hr, loaders_keeping, if_pos rfl, loaders_asked, if_pos rfl, hl, ← next_build]; rfl
    · rw [hr, loaders_keeping, if_neg hj, loaders_asked, if_neg hj]

theorem loaders_of_not_asks {j : LoaderId} (h : c.asks j = false) :
    c.reply.store.loaders[j]? = c.store.loaders[j]? := by
  have hj : ∀ l, c.point.invalid? = none → c.store.loaders[c.loader]? = some l →
      l.built? c.point.typeId = none → c.loader ≠ j := by
    rintro l hv hl hn rfl
    simp [asks, hv, hl, hn] at h
  have hc := c.course
  generalize c.reply = a at hc
  cases hc with
  | invalid | absent | cached => rfl
  | failed hv hl hn => rw [loaders_asked, if_neg (hj _ hv hl hn)]
  | built hv hl hn => rw [loaders_keeping, if_neg (hj _ hv hl hn), loaders_asked, if_neg (hj _ hv hl hn)]

theorem of_asks {j : LoaderId} (h : c.asks j = true) : c.loader = j ∧ c.point.invalid? = none ∧
    ∃ l, c.store.loaders[j]? = some l ∧ l.built? c.point.typeId = none := by
  simpa [asks, Option.any_eq_true] using h

theorem build_unreliable {l : Loader} {n : Nat} {failure : Nat → Option Fault} {inner : Locator}
    (hu : l.locator = .unreliable n failure inner) :
    (∀ f, failure n = some f → (c.build l).result = .error (.locating f) ∧
      (c.build l).next = .unreliable (n + 1) failure inner) ∧
    (failure n = none → (c.build l).result = (c.build { l with locator := inner }).result ∧
      (c.build l).next = .unreliable (n + 1) failure (c.build { l with locator := inner }).next) := by
  constructor
  · intro f hf
    simp [build, Registry.build, scan, hu, Locator.locate, hf]
  · intro hf
    refine ⟨?_, by simp [next_build, hu, Locator.locate, hf]⟩
    have hr : ∀ a, (scan c.store.files c.point.name l.locator a).result =
        (scan c.store.files c.point.name inner a).result := by
      intro a
      simp only [scan, hu, Locator.locate, hf]
      split
      · rfl
      · split <;> rfl
    unfold build Registry.build
    dsimp only
    rw [hr]
    split <;> rfl

end RegistryCall

namespace Follows

variable {loads : Prop} {s t : Store} {a : List RegistryCall} {c d : RegistryCall}

theorem kept (h : Follows loads s a t) (hc : c ∈ a) {r : RegistryId} (hr : c.reply.result = .ok r) :
    t.built? c.loader c.point.typeId = some r := by
  obtain ⟨pre, post, rfl⟩ := List.append_of_mem hc
  obtain ⟨h1, h2⟩ := h.split
  refine h2.grows.kept _ _ _ ?_
  simp [c.built?_reply h1.coherent, hr, Except.toOption]

theorem none_kept (hs : Coherent s) (hn : s.loaders = []) (h : Follows loads s a t) {j : LoaderId}
    {ty : Nat} (hr : ∀ c ∈ a, c.loader = j ∧ c.point.typeId = ty → ∀ r, c.reply.result ≠ .ok r) :
    t.built? j ty = none := by
  rw [h.built? hs, show s.built? j ty = none by simp [Store.built?, hn], Option.none_or, first?,
    List.findSome?_eq_none_iff]
  intro c hc
  split
  · rename_i hj
    cases hres : c.reply.result with
    | error f => rfl
    | ok r => exact absurd hres (hr c hc hj r)
  · rfl

/-- The locator of a loader is asked by one request after the other that comes to a build on it. -/
theorem asked_in_order (h : Follows True s a t) {j : LoaderId} {l : Loader} {n : Nat}
    {failure : Nat → Option Fault} {inner : Locator} (hl : s.loaders[j]? = some l)
    (hu : l.locator = .unreliable n failure inner) {i : Nat}
    (hd : (a.filter (·.asks j))[i]? = some d) : Coherent d.store ∧ ∃ l' inner',
      d.store.loaders[j]? = some l' ∧ l'.locator = .unreliable (n + i) failure inner' := by
  induction h generalizing l n inner i with
  | nil => simp at hd
  | @cons s t c cs hq _ ih =>
    have hl' := hq.loaders trivial j l hl
    cases ha : c.asks j with
    | false =>
      rw [List.filter_cons_of_neg (by simp [ha])] at hd
      exact ih ((c.loaders_of_not_asks ha).trans hl') hu hd
    | true =>
      rw [List.filter_cons_of_pos (by simp [ha])] at hd
      cases i with
      | zero =>
        cases hd
        exact ⟨hq.coherent, l, inner, hl', hu⟩
      | succ i =>
        obtain ⟨rfl, hv, l', hl'', hn⟩ := RegistryCall.of_asks ha
        rw [hl'] at hl''
        cases hl''
        have hb := (RegistryCall.builds_of_unbuilt hq.coherent hv hl' hn).asked
        rw [← RegistryCall.next_build, Option.map_eq_some_iff] at hb
        obtain ⟨l', hl'', hnext⟩ := hb
        have hun := RegistryCall.build_unreliable (c := c) hu
        obtain ⟨inner', hi⟩ : ∃ inner', (c.build l).next = .unreliable (n + 1) failure inner' := by
          cases hf : failure n with
          | some f => exact ⟨_, (hun.1 f hf).2⟩
          | none => exact ⟨_, (hun.2 hf).2⟩
        obtain ⟨hc, l₁, inner₁, h1, h2⟩ := ih hl'' (hnext.trans hi) hd
        exact ⟨hc, l₁, inner₁, h1, by rw [h2, show n + 1 + i = n + (i + 1) by omega]⟩

/-- The request that asks a new unreliable locator for the `i`-th time is answered as the locator
answers then: with its failure, or with what its inner locator leads to. -/
theorem answered_in_order (h : Follows True s a t) {j : LoaderId} {l : Loader}
    {failure : Nat → Option Fault} {inner : Locator} (hl : s.loaders[j]? = some l)
    (hu : l.locator = .unreliable 0 failure inner) {i : Nat} (hc : (a.filter (·.asks j))[i]? = some c) :
    (∀ f, failure i = some f → c.reply.result = .error (.scan c.point.name (.locating f))) ∧
      (failure i = none → ∃ l inner', c.store.loaders[c.loader]? = some l ∧
        l.locator = .unreliable i failure inner' ∧ c.Builds l ∧
        (c.build l).result = (c.build { l with locator := inner' }).result) := by
  obtain ⟨hcoh, l', inner', hcl, hu'⟩ := h.asked_in_order hl hu hc
  rw [Nat.zero_add] at hu'
  have hasks : c.asks j = true := (List.mem_filter.1 (List.mem_of_getElem? hc)).2
  obtain ⟨hcj, hv, l₁, hl₁, hn⟩ := RegistryCall.of_asks hasks
  rw [hcl] at hl₁
  cases hl₁
  rw [← hcj] at hcl
  have hb := RegistryCall.builds_of_unbuilt hcoh hv hcl hn
  have hun := RegistryCall.build_unreliable (c := c) hu'
  constructor
  · intro f hf
    rw [hb.result, (hun.1 f hf).1]
  · intro hf
    exact ⟨l', inner', hcl, hu', hb, (hun.2 hf).1⟩

end Follows

namespace Store

variable {s : Store} {qs : List Request}

theorem registryCalls_append (s : Store) (a b : List Request) :
    s.registryCalls (a ++ b) = s.registryCalls a ++ (s.after a).registryCalls b := by
  induction a generalizing s with
  | nil => rfl
  | cons q a ih =>
    rw [List.cons_append, registryCalls, ih, registryCalls, List.append_assoc]
    rfl

theorem followed (files : FileTree) (qs : List Request) :
    Follows False (empty files) ((empty files).registryCalls qs) ((empty files).after qs) :=
  follows_run (coherent_empty files) False.elim

theorem same_registry_iff {files : FileTree} {c d : RegistryCall}
    (hc : c ∈ (empty files).registryCalls qs) (hd : d ∈ (empty files).registryCalls qs)
    {r r' : RegistryId} (hr : c.reply.result = .ok r) (hr' : d.reply.result = .ok r') :
    r = r' ↔ c.Agrees d := by
  have h := followed files qs
  have hcr := h.kept hc hr
  have hdr := h.kept hd hr'
  constructor
  · rintro rfl
    obtain ⟨reg, hreg, hty⟩ := h.coherent.typed _ _ _ hcr
    obtain ⟨reg', hreg', hty'⟩ := h.coherent.typed _ _ _ hdr
    rw [hreg] at hreg'
    cases hreg'
    exact ⟨h.coherent.owned _ _ _ _ _ hcr hdr, hty.symm.trans hty'⟩
  · rintro ⟨hl, hty⟩
    rw [hl, hty, hdr] at hcr
    exact (Option.some.inj hcr).symm

theorem returns_or_builds {files : FileTree} {pre post : List RegistryCall} {c : RegistryCall}
    (hqs : (empty files).registryCalls qs = pre ++ c :: post) (hv : c.point.invalid? = none)
    {l : Loader} (hl : c.store.loaders[c.loader]? = some l) :
    (∀ d ∈ pre, d.Agrees c → ∀ r, d.reply.result = .ok r → c.reply = ⟨c.store, [], .ok r⟩) ∧
      ((∀ d ∈ pre, d.Agrees c → ∀ r, d.reply.result ≠ .ok r) → c.Builds l) := by
  have hf := followed files qs
  rw [hqs] at hf
  have hpre := hf.split.1
  constructor
  · intro d hd hdc r hr
    have hk := hpre.kept hd hr
    rw [hdc.1, hdc.2] at hk
    exact RegistryCall.reply_of_built hpre.coherent hv hk
  · intro hno
    have hn := hpre.none_kept (coherent_empty files) rfl hno
    exact RegistryCall.builds_of_unbuilt hpre.coherent hv hl (by simpa [Store.built?, hl] using hn)

theorem size_at_moment {files : FileTree} {m : Store} (hm : m ∈ (empty files).moments qs) :
    ∃ pre post, (empty files).registryCalls qs = pre ++ post ∧
      (∀ c ∈ pre, Grows c.reply.store m) ∧ (∀ c ∈ post, Grows m c.store) ∧
      ∀ j l, m.loaders[j]? = some l →
        l.size = (loadedTypes pre j).dedup.length ∧ l.size = builtReports pre j := by
  obtain ⟨pre, post, hcalls, h1, h2⟩ : Divides False _ _ _ m :=
    divides_run (coherent_empty files) False.elim hm
  refine ⟨pre, post, hcalls, ?_, ?_, ?_⟩
  · intro c hc
    obtain ⟨a, b, rfl⟩ := List.append_of_mem hc
    exact h1.split.2.grows
  · intro c hc
    obtain ⟨a, b, rfl⟩ := List.append_of_mem hc
    exact h2.split.1.grows
  · intro j l hl
    exact h1.size_eq (coherent_empty files) rfl hl

theorem not_asks_before {files : FileTree} {c : RegistryCall}
    (hc : c ∈ (empty files).registryCalls qs) :
    c.asks ((empty files).after qs).loaders.length = false := by
  obtain ⟨a, b, hab⟩ := List.append_of_mem hc
  have hf := followed files qs
  rw [hab] at hf
  have hlen := (c.grows_reply.trans hf.split.2.grows).catalogs.length_le
  rw [List.length_map, List.length_map] at hlen
  simp [RegistryCall.asks, List.getElem?_eq_none hlen]

theorem filter_asks_of_added (files : FileTree) (before later : List Request) (locator : Locator)
    (k : Catalog) :
    let s := (empty files).after before
    ((empty files).registryCalls (before ++ .addLoader locator k :: later)).filter (·.asks s.loaders.length) =
      ((s.addLoader (.new locator k)).1.registryCalls later).filter (·.asks s.loaders.length) := by
  have hnone : ((empty files).registryCalls before).filter
      (·.asks ((empty files).after before).loaders.length) = [] :=
    List.filter_eq_nil_iff.2 fun d hd => by simp [not_asks_before hd]
  intro s
  rw [registryCalls_append, List.filter_append, hnone]
  rfl

/-- In a run from nothing, over the requests for registries in their order, those of factories
included: two that return a registry return the same one exactly if they are for one type on one
loader; one for a type that is no extension point is refused and changes nothing; a valid one
returns what an earlier one for its type returned and changes nothing, and as long as there is none
it asks the locator once and builds; between two of them loaders do not change. At every moment a
loader is as large as the types are many for which a request on it has succeeded, and as the
registries it has reported as built; these reports are those of the run. The request that asks an
unreliable locator for the `i`-th time is answered as the locator answers then. -/
theorem one_registry_per_type (files : FileTree) (qs : List Request) :
    let calls := (empty files).registryCalls qs
    (∀ c ∈ calls, ∀ d ∈ calls, ∀ r r' : RegistryId, c.reply.result = .ok r → d.reply.result = .ok r' →
      (r = r' ↔ c.Agrees d)) ∧
    (∀ c ∈ calls, ∀ reason, c.point.invalid? = some reason →
      c.reply = ⟨c.store, [], .error (.invalid c.point reason)⟩ ∧
        (BuildFault.invalid c.point reason).fault.isInvalidArgument) ∧
    (∀ (pre : List RegistryCall) c post, calls = pre ++ c :: post → c.point.invalid? = none →
      ∀ l : Loader, c.store.loaders[c.loader]? = some l →
        (∀ d ∈ pre, d.Agrees c → ∀ r, d.reply.result = .ok r → c.reply = ⟨c.store, [], .ok r⟩) ∧
        ((∀ d ∈ pre, d.Agrees c → ∀ r, d.reply.result ≠ .ok r) → c.Builds l)) ∧
    ((∀ q ∈ qs, q.loads) → ∀ pre c d post, calls = pre ++ c :: d :: post →
      ∀ (j : LoaderId) (l : Loader), c.reply.store.loaders[j]? = some l → d.store.loaders[j]? = some l) ∧
    (∀ m ∈ (empty files).moments qs, ∃ pre post, calls = pre ++ post ∧
      (∀ c ∈ pre, Grows c.reply.store m) ∧ (∀ c ∈ post, Grows m c.store) ∧
      ∀ (j : LoaderId) (l : Loader), m.loaders[j]? = some l →
        l.size = (loadedTypes pre j).dedup.length ∧ l.size = builtReports pre j) ∧
    (∀ (j : LoaderId) (l : Loader), ((empty files).after qs).loaders[j]? = some l →
      l.size = (loadedTypes calls j).dedup.length ∧ l.size = builtReports calls j) ∧
    (∀ (before : List Request) (failure : Nat → Option Fault) (inner : Locator) (k : Catalog) later,
      qs = before ++ .addLoader (.unreliable 0 failure inner) k :: later →
      (∀ q ∈ later, q.loads) → ∀ (i : Nat) (c : RegistryCall),
        (calls.filter (·.asks ((empty files).after before).loaders.length))[i]? = some c →
        (∀ f, failure i = some f → c.reply.result = .error (.scan c.point.name (.locating f))) ∧
        (failure i = none → ∃ (l : Loader) (inner' : Locator), c.store.loaders[c.loader]? = some l ∧
          l.locator = .unreliable i failure inner' ∧ c.Builds l ∧
          (c.build l).result = (c.build { l with locator := inner' }).result)) ∧
    (∀ before q later, qs = before ++ q :: later →
      (∀ c ∈ q.registryCalls ((empty files).after before), c ∈ calls) ∧
      (q.loads → (((empty files).after before).step q).events.filter Event.isBuilt =
        (q.registryCalls ((empty files).after before)).flatMap fun c =>
          c.reply.events.filter Event.isBuilt)) := by
  have h := coherent_empty files
  refine ⟨?_, ?_, ?_, ?_, ?_, ?_, ?_, ?_⟩
  · intro c hc d hd r r' hr hr'
    exact same_registry_iff hc hd hr hr'
  · intro c _ reason hv
    refine ⟨?_, rfl⟩
    simp only [RegistryCall.reply, registry, hv]
  · intro pre c post hqs hv l hl
    exact returns_or_builds hqs hv hl
  · intro hq pre c d post hqs j l hl
    have hf : Follows True (empty files) _ _ := follows_run h fun _ => hq
    rw [hqs] at hf
    cases hf.split.2 with
    | cons hquiet _ => exact hquiet.loaders trivial j l hl
  · intro m hm
    exact size_at_moment hm
  · intro j l hl
    exact (followed files qs).size_eq h rfl hl
  · intro before failure inner k later hqs hl i c hc
    subst hqs
    have hf : Follows True _ _ _ :=
      follows_run ((h.after before).addLoader (.unreliable 0 failure inner) k) fun _ => hl
    rw [filter_asks_of_added] at hc
    refine hf.answered_in_order (l := .new (.unreliable 0 failure inner) k) ?_ rfl hc
    simp [addLoader]
  · intro before q later hqs
    subst hqs
    refine ⟨?_, filter_isBuilt_step⟩
    intro c hc
    rw [registryCalls_append, registryCalls]
    simp [hc]

def nameless : ExtensionPoint := ⟨4, "", "dyn Nameless", some ⟨""⟩⟩

def flakyRun : List Request :=
  [.addLoader (.failing (some 1) (.io "disk unavailable") (.memory codecManifests))
      (.ofClasses [zipClass, fileClass]),
    .registry 0 codec, .registry 0 codec, .registry 0 codecTwin, .registry 0 nameless,
    .provider 0 (some "zip"), .registry 0 sink]

/-- The request of the factory and the later one share their registry, the first request and the one
for the other type of the same name leave nothing, and two registries are counted. -/
theorem one_registry_per_type_flaky : ∃ a b c d e f,
    (empty (.ofCwd [])).registryCalls flakyRun = [a, b, c, d, e, f] ∧
    a.reply.result = .error (.scan "Codec" (.locating (.io "disk unavailable"))) ∧
    b.reply.result = .ok 0 ∧
    c.reply.result = .error (.scan "Codec" (.line "c" 1 (.notASubtype "Zip"))) ∧
    d.reply.result = .error (.invalid nameless .unnamed) ∧
    e.reply.result = .ok 1 ∧ f.reply.result = .ok 1 ∧ e.Agrees f ∧ ¬b.Agrees f ∧
    ∀ l, ((empty (.ofCwd [])).after flakyRun).loaders[0]? = some l →
      l.size = (loadedTypes [a, b, c, d, e, f] 0).dedup.length := by
  have hres : ((empty (.ofCwd [])).registryCalls flakyRun).map (·.reply.result) =
      [.error (.scan "Codec" (.locating (.io "disk unavailable"))), .ok 0,
        .error (.scan "Codec" (.line "c" 1 (.notASubtype "Zip"))),
        .error (.invalid nameless .unnamed), .ok 1, .ok 1] := by decide +kernel
  simp only [List.map_eq_cons_iff, List.map_eq_nil_iff] at hres
  obtain ⟨a, _, hl, ha, b, _, rfl, hb, c, _, rfl, hc, d, _, rfl, hd, e, _, rfl, he, f, _, rfl, hf, rfl⟩ := hres
  obtain ⟨same, -, -, -, -, sizes, -⟩ := one_registry_per_type (.ofCwd []) flakyRun
  rw [hl] at same sizes
  exact ⟨a, b, c, d, e, f, hl, ha, hb, hc, hd, he, hf,
    (same e (by simp) f (by simp) 1 1 he hf).1 rfl,
    fun h => absurd ((same b (by simp) f (by simp) 0 1 hb hf).2 h) (by decide),
    fun l h => (sizes 0 l h).1⟩

end Store

end ProviderRegistry
