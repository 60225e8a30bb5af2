import ProviderRegistry.CommandLine.Report
import ProviderRegistry.Proofs.RegistryCall
import ProviderRegistry.Proofs.ScanOrder
import ProviderRegistry.Proofs.SortedTable

/-! The check of an extension point against the loader. Both scan the same points; the check takes
every class whose extension point bears the name, the loader only those of the very type. Side by
side the two scans find the same until a class of another type with the same name is listed, and
there only the loader stops. -/

namespace ProviderRegistry

section

variable {a b : Acceptance} {ps : List ReadPoint} {fs gs : Findings}

theorem ReadPoint.verdict_stricter (hr : a.resolve = b.resolve)
    (hi : ∀ t c, a.resolve t = some c → a.implements c = true → b.implements c = true) (p : ReadPoint) :
    p.verdict a = p.verdict b ∨ ∃ t d, p.verdict b = .ok (some d) ∧
      p.verdict a = .error (.line d.origin d.line (.notASubtype t)) ∧ a.resolve t = some d.found ∧
      a.implements d.found = false ∧ b.implements d.found = true := by
  cases p with
  | refused | unread => exact .inl rfl
  | line origin n text =>
    cases hl : Manifest.readLine text with
    | error e => left; simp [verdict, Acceptance.readLine, hl]
    | ok o =>
      cases o with
      | none => left; simp [verdict, Acceptance.readLine, hl]
      | some t =>
        cases hc : a.resolve t with
        | none => left; simp [verdict, Acceptance.readLine, hl, ← hr, hc]
        | some c =>
          cases ha : a.implements c with
          | true => left; simp [verdict, Acceptance.readLine, hl, ← hr, hc, ha, hi t c hc ha]
          | false =>
            cases hb : b.implements c with
            | false => left; simp [verdict, Acceptance.readLine, hl, ← hr, hc, ha, hb]
            | true =>
              right
              exact ⟨t, ⟨origin, n, c⟩, by simp [verdict, Acceptance.readLine, hl, ← hr, hc, hb],
                by simp [verdict, Acceptance.readLine, hl, hc, ha], hc, ha, hb⟩

/-- The stricter of two scans finds what the other finds, or stops at the first class found there
that it does not take. -/
theorem Findings.Sums.stricter (hr : a.resolve = b.resolve)
    (hi : ∀ t c, a.resolve t = some c → a.implements c = true → b.implements c = true)
    (ha : Sums a ps fs) (hb : Sums b ps gs) : fs = gs ∨ ∃ pre d post t,
      gs.found = pre ++ d :: post ∧ fs = ⟨pre, some (.line d.origin d.line (.notASubtype t))⟩ ∧
      a.resolve t = some d.found ∧ a.implements d.found = false ∧ b.implements d.found = true := by
  induction ha generalizing gs with
  | done => cases hb; exact .inl rfl
  | @stops p ps f h =>
    rcases p.verdict_stricter hr hi with hv | ⟨t, d, hvb, hva, hd⟩
    · rw [h.verdict_eq] at hv
      cases hb with
      | stops h' => rw [h'.verdict_eq] at hv; cases hv; exact .inl rfl
      | skips h' | finds h' => rw [h'.verdict_eq] at hv; cases hv
    · rw [h.verdict_eq] at hva
      cases hva
      cases hb with
      | stops h' | skips h' => rw [h'.verdict_eq] at hvb; cases hvb
      | finds h' _ =>
        rw [h'.verdict_eq] at hvb
        cases hvb
        exact .inr ⟨[], d, _, t, rfl, rfl, hd⟩
  | @skips p ps fs h _ ih =>
    rcases p.verdict_stricter hr hi with hv | ⟨t, d, -, hva, -⟩
    · rw [h.verdict_eq] at hv
      cases hb with
      | skips _ hrest => exact ih hrest
      | stops h' | finds h' => rw [h'.verdict_eq] at hv; cases hv
    · rw [h.verdict_eq] at hva
      cases hva
  | @finds p ps fs e h _ ih =>
    rcases p.verdict_stricter hr hi with hv | ⟨t, d, -, hva, -⟩
    · rw [h.verdict_eq] at hv
      cases hb with
      | stops h' | skips h' => rw [h'.verdict_eq] at hv; cases hv
      | finds h' hrest =>
        rw [h'.verdict_eq] at hv
        cases hv
        rcases ih hrest with rfl | ⟨pre, d, post, t, hfound, rfl, hd⟩
        · exact .inl rfl
        · exact .inr ⟨e :: pre, d, post, t, by rw [hfound]; rfl, rfl, hd⟩
    · rw [h.verdict_eq] at hva
      cases hva

theorem scan_stricter (hr : a.resolve = b.resolve)
    (hi : ∀ t c, a.resolve t = some c → a.implements c = true → b.implements c = true)
    (files : FileTree) (point : String) (locator : Locator) :
    (scan files point locator a).result = (scan files point locator b).result ∨
      ∃ pre d post t, (∀ ds, (scan files point locator b).result = .ok ds → ds = pre ++ d :: post) ∧
        (scan files point locator a).result = .error (.line d.origin d.line (.notASubtype t)) ∧
        (∀ e ∈ pre, a.implements e.found = true) ∧ a.resolve t = some d.found ∧
        a.implements d.found = false ∧ b.implements d.found = true := by
  cases hl : (locator.locate files (QualifiedName.resourceName point)).result with
  | error e => rw [scan_of_unlocated hl, scan_of_unlocated hl]; exact .inl rfl
  | ok rs =>
    rw [scan_of_located hl, scan_of_located hl]
    have ha := a.sums_readResources files rs
    rcases ha.stricter hr hi (b.sums_readResources files rs) with h | ⟨pre, d, post, t, hfound, h, hd⟩
    · rw [h]; exact .inl rfl
    · have hpre := ha.resolved
      rw [h] at hpre ⊢
      refine .inr ⟨pre, d, post, t, fun ds hds => ?_, rfl, fun e he => (hpre e he).2, hd⟩
      split at hds
      · cases hds
      · cases hds; exact hfound

end

/-- The request for a registry on a loader that was just made comes to the scan of its point. -/
theorem Store.registry_of_new (s : Store) (locator : Locator) (catalog : Catalog) {p : ExtensionPoint}
    (hv : p.invalid? = none) :
    let t := s.addLoader (.new locator catalog)
    let a := t.1.registry t.2 p
    match (scan s.files p.name locator (acceptanceFor p catalog)).result with
    | .error f => a.result = .error (.scan p.name f)
    | .ok ds => a.result = .ok s.registries.length ∧
      a.store.registries[s.registries.length]? = some ⟨p, KeyIndex.build ds, []⟩ := by
  intro t a
  set c : RegistryCall := ⟨t.1, t.2, p⟩ with hc
  have hl : c.store.loaders[c.loader]? = some (.new locator catalog) := by
    simp [hc, t, Store.addLoader]
  have ha : a = _ := c.reply_of_unbuilt hv hl rfl
  have hb : c.build (.new locator catalog) = Registry.build s.files p locator catalog := rfl
  rw [hb] at ha
  unfold Registry.build at ha
  dsimp only at ha
  cases hs : (scan s.files p.name locator (acceptanceFor p catalog)).result with
  | error f =>
    simp only [hs] at ha
    simp only [ha]; rfl
  | ok ds =>
    simp only [hs] at ha
    simp only [ha]
    refine ⟨rfl, ?_⟩
    rw [RegistryCall.registries_keeping]
    simp [hc, t, Store.addLoader]

theorem KeyIndex.lines_eq {ix : KeyIndex} (h : Keyed.Sorted ix.classes) (listed : Nat) :
    ix.lines listed = ix.keys.filterMap (fun key => (ix.get? key).map fun c => key ++ "\t" ++ c.name) ++
      ix.keyClasses.map (fun e => e.1.name ++ "\t-> " ++ e.2) ++
      ["ok: " ++ toString ix.keys.length ++ " key(s), " ++ toString listed ++ " listed class(es)"] := by
  have hk := Keyed.filterMap_keys h fun key (c : ProviderClass) => key ++ "\t" ++ c.name
  unfold keys get?
  rw [hk, lines, keyLines, keyClassLines, size, Keyed.keys, List.length_map]

namespace Linked

variable {k : Linked} {p : ExtensionPoint}

/-- The name of an extension point belongs to its type: who is linked to the type gives that name. -/
def NamesAlike (k : Linked) (p : ExtensionPoint) : Prop :=
  ∀ c ∈ k.classes, c.point.sameAs p = true → c.point.name = p.name

theorem validate_result (k : Linked) (files : FileTree) (d : DiscoverySettings) (point : String) :
    (k.validate files d point).result = match (k.scanByName files d point).result with
      | .error f => .ok ⟨["invalid: " ++ (f.fault point).shown], false⟩
      | .ok ds => .ok ⟨(KeyIndex.build ds).lines ds.length, true⟩ := by
  unfold validate
  dsimp only
  cases (k.scanByName files d point).result <;> rfl

theorem scan_beside_check (hn : k.NamesAlike p) (files : FileTree) (d : DiscoverySettings) :
    (scan files p.name (k.locator d) (acceptanceFor p k.catalog)).result =
        (k.scanByName files d p.name).result ∨
      ∃ pre e post, (∀ ds, (k.scanByName files d p.name).result = .ok ds → ds = pre ++ e :: post) ∧
        (scan files p.name (k.locator d) (acceptanceFor p k.catalog)).result =
          .error (.line e.origin e.line (.notASubtype e.found.name)) ∧
        (∀ x ∈ pre, x.found.point.sameAs p = true) ∧ e.found ∈ k.classes ∧
        e.found.point.sameAs p = false ∧ e.found.point.name = p.name := by
  have hi : ∀ t c, k.catalog.resolve t = some c → c.point.sameAs p = true →
      (c.point.name == p.name) = true := by
    intro t c hc hp
    simpa using hn c (Catalog.resolve_ofClasses hc).1 hp
  rcases scan_stricter (a := acceptanceFor p k.catalog)
    (b := ⟨k.catalog.resolve, fun c => c.point.name == p.name⟩) rfl hi files p.name (k.locator d)
    with h | ⟨pre, e, post, t, hds, hf, hpre, hc, ha, hb⟩
  · exact .inl h
  · obtain ⟨hmem, rfl⟩ := Catalog.resolve_ofClasses hc
    exact .inr ⟨pre, e, post, hds, hf, hpre, hmem, ha, by simpa using hb⟩

/-- The check of an extension point beside the request for its registry on a new loader under the
same settings. If the registry is built, the check succeeds and shows the index of the registry: the
keys in order with their classes, the key-classes in the order of their registration, and how many
keys and listed classes there are. If the check succeeds and the registry is not built, that is for
the first listed class of another type with the same name. If no such class is linked, both
succeed or both fail, and the check shows the fault of the registry. -/
theorem check_beside_loader (k : Linked) (s : Store) (settings : Settings) (p : ExtensionPoint)
    (hv : p.invalid? = none) (hn : k.NamesAlike p) :
    let t := s.addLoader (k.loader settings)
    let built := t.1.registry t.2 p
    let listed := (k.scanByName s.files settings.discovery p.name).result
    let checked := ((Command.validate p.name).run k s.files settings).result
    (∀ r, built.result = .ok r → ∃ reg ds, built.store.registries[r]? = some reg ∧ reg.point = p ∧
      listed = .ok ds ∧ reg.index = KeyIndex.build ds ∧ reg.index.keys.Pairwise Text.Before ∧
      (∀ key ∈ reg.index.keys, (reg.index.get? key).isSome) ∧
      checked = .ok ⟨reg.index.keys.filterMap (fun key =>
          (reg.index.get? key).map fun c => key ++ "\t" ++ c.name) ++
        reg.index.keyClasses.map (fun e => e.1.name ++ "\t-> " ++ e.2) ++
        ["ok: " ++ toString reg.index.keys.length ++ " key(s), " ++ toString ds.length ++
          " listed class(es)"], true⟩) ∧
    (∀ out f, checked = .ok out → out.succeeded = true → built.result = .error f →
      ∃ pre d post, listed = .ok (pre ++ d :: post) ∧
        (∀ e ∈ pre, e.found.point.sameAs p = true) ∧ d.found ∈ k.classes ∧
        d.found.point.sameAs p = false ∧ d.found.point.name = p.name ∧
        f = .scan p.name (.line d.origin d.line (.notASubtype d.found.name))) ∧
    ((∀ c ∈ k.classes, c.point.name = p.name → c.point.sameAs p = true) →
      (∃ r out, built.result = .ok r ∧ checked = .ok out ∧ out.succeeded = true) ∨
      ∃ f, built.result = .error f ∧ checked = .ok ⟨["invalid: " ++ f.fault.shown], false⟩) := by
  intro t built listed checked
  have hchecked : checked = match listed with
      | .error f => .ok ⟨["invalid: " ++ (f.fault p.name).shown], false⟩
      | .ok ds => .ok ⟨(KeyIndex.build ds).lines ds.length, true⟩ :=
    k.validate_result s.files settings.discovery p.name
  have hcmp := scan_beside_check hn s.files settings.discovery
  have hnew := s.registry_of_new (k.locator settings.discovery) k.catalog hv
  cases hscan : (scan s.files p.name (k.locator settings.discovery) (acceptanceFor p k.catalog)).result with
  | error g =>
    simp only [hscan] at hnew
    have hbuilt : built.result = .error (.scan p.name g) := hnew
    rw [hscan] at hcmp
    refine ⟨?_, ?_, ?_⟩
    · intro r hr
      rw [hbuilt] at hr
      cases hr
    · intro out f ho hs hf
      rw [hbuilt] at hf
      cases hf
      cases hlisted : listed with
      | error e =>
        rw [hchecked, hlisted] at ho
        cases ho
        cases hs
      | ok ds =>
        rcases hcmp with h | ⟨pre, d, post, hds, hg, hpre, hd⟩
        · have h : _ = listed := h
          rw [← h] at hlisted
          cases hlisted
        · cases hg
          exact ⟨pre, d, post, by rw [hds ds hlisted], hpre, hd.1, hd.2.1, hd.2.2, rfl⟩
    · intro hall
      refine .inr ⟨_, hbuilt, ?_⟩
      rcases hcmp with h | ⟨pre, d, post, -, -, -, hmem, hsame, hname⟩
      · have h : _ = listed := h
        rw [hchecked, ← h]
        rfl
      · rw [hall _ hmem hname] at hsame; cases hsame
  | ok ds =>
    simp only [hscan] at hnew
    obtain ⟨hbuilt, hreg⟩ : built.result = .ok s.registries.length ∧
        built.store.registries[s.registries.length]? = some ⟨p, KeyIndex.build ds, []⟩ := hnew
    have hlisted : listed = .ok ds := by
      rcases hcmp with h | ⟨pre, d, post, -, hg, -⟩
      · exact h.symm.trans hscan
      · rw [hscan] at hg; cases hg
    have hsorted := KeyIndex.sorted_build ds
    have hshown : checked = .ok ⟨(KeyIndex.build ds).lines ds.length, true⟩ := by rw [hchecked, hlisted]
    refine ⟨?_, ?_, ?_⟩
    · intro r hr
      rw [hbuilt] at hr
      cases hr
      refine ⟨_, ds, hreg, rfl, hlisted, rfl, hsorted, ?_, ?_⟩
      · intro key hkey
        obtain ⟨e, he, rfl⟩ := List.mem_map.1 hkey
        rw [KeyIndex.get?, Keyed.get?_of_mem hsorted he]
        rfl
      · rw [hshown, KeyIndex.lines_eq hsorted]
    · intro out f _ _ hf
      rw [hbuilt] at hf
      cases hf
    · intro _
      exact .inl ⟨_, _, hbuilt, hshown, rfl⟩

open Store (codec codecTwin zipClass)

def twoCodecs : Linked :=
  ⟨[zipClass, ⟨1, "Packed", codecTwin, none, .makes⟩], [⟨"app", codec, "Zip\nPacked"⟩]⟩

/-- The check takes both classes, the registry of the first type stops at the class of the second. -/
theorem check_beside_loader_two_codecs :
    ((Command.validate "Codec").run twoCodecs (.ofCwd []) .default).result =
      .ok ⟨["Packed\tPacked", "zip\tZip", "ok: 2 key(s), 2 listed class(es)"], true⟩ ∧
    ∃ pre d post, (twoCodecs.scanByName (.ofCwd []) .default "Codec").result = .ok (pre ++ d :: post) ∧
      (∀ e ∈ pre, e.found.point.sameAs codec = true) ∧ d.found.point.sameAs codec = false ∧
      BuildFault.scan "Codec" (.line "app" 2 (.notASubtype "Packed")) =
        .scan "Codec" (.line d.origin d.line (.notASubtype d.found.name)) := by
  have hv : codec.invalid? = none := by decide
  have hn : twoCodecs.NamesAlike codec := by
    intro c hc _
    simp only [twoCodecs, List.mem_cons, List.not_mem_nil, or_false] at hc
    rcases hc with rfl | rfl <;> rfl
  have hchecked : ((Command.validate "Codec").run twoCodecs (.ofCwd []) .default).result =
      .ok ⟨["Packed\tPacked", "zip\tZip", "ok: 2 key(s), 2 listed class(es)"], true⟩ := by
    decide +kernel
  have hbuilt : (((Store.empty (.ofCwd [])).addLoader (twoCodecs.loader .default)).1.registry 0 codec).result =
      .error (.scan "Codec" (.line "app" 2 (.notASubtype "Packed"))) := by decide +kernel
  obtain ⟨-, parts, -⟩ := check_beside_loader twoCodecs (Store.empty (.ofCwd [])) .default codec hv hn
  obtain ⟨pre, d, post, hl, hpre, -, hsame, -, hf⟩ := parts _ _ hchecked rfl hbuilt
  exact ⟨hchecked, pre, d, post, hl, hpre, hsame, hf⟩

end Linked

end ProviderRegistry
