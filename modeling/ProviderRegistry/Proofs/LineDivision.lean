import ProviderRegistry.Proofs.LocatorChains
import ProviderRegistry.Proofs.SortedTable
import ProviderRegistry.Proofs.TextLayout

/-! A sequence of lines divided among resources. What a scan comes to is said of the sequence: a class
or nothing for every line, or the first line that is wrong and why. However the sequence is cut into
resources and these are grouped into locators and chains, the scan comes to just that, with the origin
and the number that each line has got there. -/

namespace ProviderRegistry

structure Portion where
  origin : String
  lines : List String

namespace Portion

def places (p : Portion) : List (String × Nat) :=
  (List.range' 1 p.lines.length).map fun n => (p.origin, n)

theorem length_places (p : Portion) : p.places.length = p.lines.length := by
  rw [places, List.length_map, List.length_range']

theorem length_flatMap_places (ps : List Portion) :
    (ps.flatMap places).length = (ps.flatMap (·.lines)).length := by
  simp only [List.length_flatMap, length_places]

end Portion

/-- Whether the resource holds the lines of the portion, whatever their ends are. -/
def Resource.Bears (files : FileTree) (r : Resource) (p : Portion) : Prop :=
  r.origin = p.origin ∧ ∃ t : String, r.Holds files t.toUTF8 ∧ Text.Written p.lines t

/-- A way to divide lines among the resources that a locator serves under a name: texts in memory,
linked manifests that come in the order of their origins, files in any number of directories, and
chains of these, where a link may serve no resource, or several. -/
inductive Division (files : FileTree) (name : String) : Locator → List Portion → Prop
  | memory {rs : List MemoryResource} {ps : List Portion}
      (h : List.Forall₂ (Resource.Bears files) (Locator.ofMemory name rs) ps) :
      Division files name (.memory rs) ps
  | embedded {ms : List EmbeddedManifest} {ps : List Portion}
      (hs : (ms.filter fun m => QualifiedName.resourceName m.point.name = name).Pairwise
        fun m m' => Text.precedes m.origin m'.origin)
      (h : List.Forall₂ (Resource.Bears files) (Locator.ofEmbedded name ms) ps) :
      Division files name (.ofManifests ms) ps
  | directories {roots : List String} {ps : List Portion}
      (h : List.Forall₂ (Resource.Bears files) (Locator.inSearchPaths files name roots) ps) :
      Division files name (.directories roots) ps
  | listed {rs : List (String × String)} {ps : List Portion}
      (h : List.Forall₂ (Resource.Bears files)
        ((rs.filter fun r => r.1 = name).map fun r => Resource.ofFile r.2) ps) :
      Division files name (.listed rs) ps
  | reliable {asked : Nat} {failure : Nat → Option Fault} {inner : Locator} {ps : List Portion}
      (hf : failure asked = none) (h : Division files name inner ps) :
      Division files name (.unreliable asked failure inner) ps
  | noLinks : Division files name (.chain []) []
  | links {l : Locator} {rest : List Locator} {ps qs : List Portion} (h : Division files name l ps)
      (hr : Division files name (.chain rest) qs) : Division files name (.chain (l :: rest)) (ps ++ qs)

def entriesAt (places : List (String × Nat)) (items : List (Option ProviderClass)) : List Discovered :=
  (places.zip items).filterMap fun i => i.2.map fun c => ⟨i.1.1, i.1.2, c⟩

theorem entriesAt_cons (o : String) (n : Nat) (places : List (String × Nat)) (item : Option ProviderClass)
    (items : List (Option ProviderClass)) : entriesAt ((o, n) :: places) (item :: items) =
      (item.map fun c => (⟨o, n, c⟩ : Discovered)).toList ++ entriesAt places items := by
  cases item <;> rfl

theorem found_entriesAt {places : List (String × Nat)} {items : List (Option ProviderClass)}
    (h : places.length = items.length) : (entriesAt places items).map (·.found) = items.reduceOption := by
  induction items generalizing places with
  | nil => simp [entriesAt]
  | cons item items ih =>
    obtain ⟨⟨o, n⟩, places, rfl⟩ := List.exists_cons_of_length_eq_add_one h
    have hn : places.length = items.length := by simpa using h
    rw [entriesAt_cons, List.map_append, ih hn]
    cases item <;> rfl

theorem ReadPoint.numbered_lines (origin : String) (n : Nat) (ls : List String) :
    numbered origin n (ls.map .ok) = List.zipWith (fun p l => .line p.1 p.2 l)
      ((List.range' n ls.length).map fun i => (origin, i)) ls := by
  induction ls generalizing n with
  | nil => rfl
  | cons l ls ih =>
    have hcons : numbered origin n ((l :: ls).map .ok) =
      .line origin n l :: numbered origin (n + 1) (ls.map .ok) := rfl
    rw [hcons, ih]
    rfl

theorem Findings.Sums.of_line {a : Acceptance} {o l : String} {n : Nat} {ps : List ReadPoint} {fs : Findings}
    (h : Sums a (.line o n l :: ps) fs) :
    (∃ p, a.readLine l = .error p ∧ fs = .stopped (.line o n p)) ∨
    ∃ item gs, a.readLine l = .ok item ∧ Sums a ps gs ∧
      fs = ⟨(item.map fun c => ⟨o, n, c⟩).toList ++ gs.found, gs.fault⟩ := by
  cases h with
  | stops h => cases h with | wrong h => exact .inl ⟨_, Acceptance.readLine_of_reads h, rfl⟩
  | skips h hr => cases h with | blank h => exact .inr ⟨_, _, Acceptance.readLine_of_reads h, hr, rfl⟩
  | finds h hr => cases h with | lists h => exact .inr ⟨_, _, Acceptance.readLine_of_reads h, hr, rfl⟩

namespace Acceptance

variable {a : Acceptance} {files : FileTree}

/-- What lines come to wherever they stand: a class or nothing for every line, or how many lines come
before the first that is wrong, and what is wrong with it. -/
def sequence (a : Acceptance) : List String → Except (Nat × LineProblem) (List (Option ProviderClass))
  | [] => .ok []
  | l :: r =>
    match a.readLine l with
    | .error p => .error (0, p)
    | .ok o =>
      match a.sequence r with
      | .error (i, p) => .error (i + 1, p)
      | .ok os => .ok (o :: os)

theorem length_of_sequence {ls : List String} {items : List (Option ProviderClass)}
    (h : a.sequence ls = .ok items) : items.length = ls.length := by
  induction ls generalizing items with
  | nil => cases h; rfl
  | cons l r ih =>
    rw [sequence] at h
    split at h
    · cases h
    · split at h
      · cases h
      · rename_i hr
        cases h
        rw [List.length_cons, ih hr, List.length_cons]

theorem found_of_sequence {places : List (String × Nat)} {ls : List String} {fs : Findings}
    (hn : places.length = ls.length)
    (h : Findings.Sums a (List.zipWith (fun p l => .line p.1 p.2 l) places ls) fs) :
    (∀ items, a.sequence ls = .ok items → fs = ⟨entriesAt places items, none⟩) ∧
    ∀ i p, a.sequence ls = .error (i, p) →
      ∃ o n, places[i]? = some (o, n) ∧ fs.fault = some (.line o n p) := by
  induction ls generalizing places fs with
  | nil =>
    rw [List.zipWith_nil_right] at h
    cases h
    refine ⟨?_, fun _ _ h => by cases h⟩
    intro items hi
    cases hi
    simp [entriesAt, Findings.nothing]
  | cons l r ih =>
    obtain ⟨⟨o, n⟩, places, rfl⟩ := List.exists_cons_of_length_eq_add_one hn
    have hn : places.length = r.length := by simpa using hn
    rw [List.zipWith_cons_cons] at h
    rw [sequence]
    rcases h.of_line with ⟨p, hl, rfl⟩ | ⟨item, gs, hl, hgs, rfl⟩
    · rw [hl]
      constructor
      · intro items hi
        cases hi
      · intro i q hi
        cases hi
        exact ⟨o, n, rfl, rfl⟩
    · obtain ⟨hok, herr⟩ := ih hn hgs
      rw [hl]
      cases hr : a.sequence r with
      | ok os =>
        constructor
        · intro items hi
          cases hi
          rw [hok os hr, entriesAt_cons]
        · intro i p hi
          cases hi
      | error e =>
        constructor
        · intro items hi
          cases hi
        · intro i p hi
          cases hi
          exact herr e.1 e.2 hr

theorem sums_of_bears {rs : List Resource} {ps : List Portion} (h : List.Forall₂ (Resource.Bears files) rs ps) :
    Findings.Sums a (List.zipWith (fun p l => .line p.1 p.2 l) (ps.flatMap Portion.places)
      (ps.flatMap (·.lines))) (a.readResources files rs) := by
  induction h with
  | nil => exact .done
  | @cons r p rs ps hr _ ih =>
    obtain ⟨ho, t, hold, hw⟩ := hr
    have hone := a.sums_numbered p.origin 1 (p.lines.map .ok)
    rw [Readout.of_map_ok, ReadPoint.numbered_lines] at hone
    rw [readResources_cons, readResource_written hold hw, ho, List.flatMap_cons, List.flatMap_cons,
      List.zipWith_append p.length_places]
    have hone := hone.append ih
    rwa [Option.map_none, ← Findings.nothing, Findings.andThen_nothing] at hone

end Acceptance

namespace Division

variable {files : FileTree} {name : String} {locator : Locator} {ps : List Portion}

/-- Sorting by the origin leaves manifests in place that are sorted already, whatever others there are. -/
theorem ofEmbedded_mergeSort {ms : List EmbeddedManifest}
    (h : (ms.filter fun m => QualifiedName.resourceName m.point.name = name).Pairwise
      fun m m' => Text.precedes m.origin m'.origin) :
    Locator.ofEmbedded name (ms.mergeSort fun a b => Text.precedes a.origin b.origin) =
      Locator.ofEmbedded name ms := by
  have hsub := Text.sublist_mergeSort EmbeddedManifest.origin h List.filter_sublist
  have hfilter := hsub.filter fun m => QualifiedName.resourceName m.point.name = name
  simp only [List.filter_filter, Bool.and_self] at hfilter
  have hperm := (List.mergeSort_perm ms fun a b => Text.precedes a.origin b.origin).filter
    fun m => QualifiedName.resourceName m.point.name = name
  rw [Locator.ofEmbedded, Locator.ofEmbedded, hfilter.eq_of_length hperm.length_eq.symm]

theorem serves (h : Division files name locator ps) :
    ∃ rs, (locator.locate files name).result = .ok rs ∧ List.Forall₂ (Resource.Bears files) rs ps := by
  induction h with
  | memory h | directories h | listed h => exact ⟨_, rfl, h⟩
  | embedded hs h => exact ⟨_, rfl, (ofEmbedded_mergeSort hs).symm ▸ h⟩
  | reliable hf _ ih =>
    obtain ⟨rs, hl, hrs⟩ := ih
    exact ⟨rs, by simp only [Locator.locate, hf, hl], hrs⟩
  | noLinks => exact ⟨[], rfl, .nil⟩
  | links _ _ ih ihr =>
    obtain ⟨rs, hl, hrs⟩ := ih
    obtain ⟨qs, hr, hqs⟩ := ihr
    refine ⟨rs ++ qs, ?_, List.rel_append hrs hqs⟩
    simp only [Locator.locate] at hr ⊢
    simp only [Locator.locateLinks, hl, hr]
    rfl

variable {point : String} {a : Acceptance}

theorem scan_of_ok (h : Division files (QualifiedName.resourceName point) locator ps)
    {items : List (Option ProviderClass)} (hs : a.sequence (ps.flatMap (·.lines)) = .ok items) :
    (scan files point locator a).result = .ok (entriesAt (ps.flatMap Portion.places) items) := by
  obtain ⟨rs, hl, hrs⟩ := h.serves
  have hfound := (Acceptance.found_of_sequence (Portion.length_flatMap_places ps)
    (Acceptance.sums_of_bears hrs)).1 items hs
  rw [scan_of_located hl, hfound]

theorem scan_of_error (h : Division files (QualifiedName.resourceName point) locator ps) {i : Nat}
    {problem : LineProblem} (hs : a.sequence (ps.flatMap (·.lines)) = .error (i, problem)) :
    ∃ o n, (ps.flatMap Portion.places)[i]? = some (o, n) ∧
      (scan files point locator a).result = .error (.line o n problem) := by
  obtain ⟨rs, hl, hrs⟩ := h.serves
  obtain ⟨o, n, hplace, hf⟩ := (Acceptance.found_of_sequence (Portion.length_flatMap_places ps)
    (Acceptance.sums_of_bears hrs)).2 i problem hs
  exact ⟨o, n, hplace, by rw [scan_of_located hl, hf]⟩

theorem found_of_ok {items : List (Option ProviderClass)}
    (hs : a.sequence (ps.flatMap (·.lines)) = .ok items) :
    (entriesAt (ps.flatMap Portion.places) items).map (·.found) = items.reduceOption := by
  apply found_entriesAt
  rw [Portion.length_flatMap_places, Acceptance.length_of_sequence hs]

end Division

/-- Registries built over divisions of the same lines are the same, or both builds fail at the same line. -/
theorem build_of_divisions {point : ExtensionPoint} {catalog : Catalog} {files files' : FileTree}
    {locator locator' : Locator} {ps ps' : List Portion}
    (h : Division files (QualifiedName.resourceName point.name) locator ps)
    (h' : Division files' (QualifiedName.resourceName point.name) locator' ps')
    (hlines : ps.flatMap (·.lines) = ps'.flatMap (·.lines)) :
    (∃ reg, (Registry.build files point locator catalog).result = .ok reg ∧
      (Registry.build files' point locator' catalog).result = .ok reg) ∨
    ∃ (i : Nat) (problem : LineProblem) (o : String) (n : Nat) (o' : String) (n' : Nat),
      (ps.flatMap Portion.places)[i]? = some (o, n) ∧
      (ps'.flatMap Portion.places)[i]? = some (o', n') ∧
      (Registry.build files point locator catalog).result = .error (.line o n problem) ∧
      (Registry.build files' point locator' catalog).result = .error (.line o' n' problem) := by
  have hbuild := Registry.build_result files point locator catalog
  have hbuild' := Registry.build_result files' point locator' catalog
  cases hs : (acceptanceFor point catalog).sequence (ps.flatMap (·.lines)) with
  | ok items =>
    have hs' := hs
    rw [hlines] at hs'
    rw [h.scan_of_ok hs] at hbuild
    rw [h'.scan_of_ok hs'] at hbuild'
    simp only [Except.map, KeyIndex.build, Division.found_of_ok hs, Division.found_of_ok hs'] at hbuild hbuild'
    exact .inl ⟨_, hbuild, hbuild'⟩
  | error e =>
    obtain ⟨i, problem⟩ := e
    have hs' := hs
    rw [hlines] at hs'
    obtain ⟨o, n, hplace, hscan⟩ := h.scan_of_error hs
    obtain ⟨o', n', hplace', hscan'⟩ := h'.scan_of_error hs'
    rw [hscan] at hbuild
    rw [hscan'] at hbuild'
    exact .inr ⟨i, problem, o, n, o', n', hplace, hplace', hbuild, hbuild'⟩

/-- What a scan comes to depends on the sequence of the lines alone. If the sequence comes to items,
every division of it is scanned to them, and the same index is built; if a line of it is the first that
is wrong, every scan fails on that line for that reason. Only the places differ. So of two divisions
both registries are built, and are the same, or neither is. And if a locator in nested chains fails,
the chain fails as the first of them that does, and whatever is behind that one is left alone. -/
theorem scan_of_any_division (point : ExtensionPoint) (a : Acceptance) :
    let name := QualifiedName.resourceName point.name
    (∀ lines items, a.sequence lines = .ok items →
      ∀ files locator ps, Division files name locator ps → ps.flatMap (·.lines) = lines →
        ∃ ds, (scan files point.name locator a).result = .ok ds ∧
          ds = entriesAt (ps.flatMap Portion.places) items ∧ ds.map (·.found) = items.reduceOption ∧
          KeyIndex.build ds = .ofClasses items.reduceOption) ∧
    (∀ lines i problem, a.sequence lines = .error (i, problem) →
      ∀ files locator ps, Division files name locator ps → ps.flatMap (·.lines) = lines →
        ∃ o n, (ps.flatMap Portion.places)[i]? = some (o, n) ∧
          (scan files point.name locator a).result = .error (.line o n problem)) ∧
    (∀ catalog files files' locator locator' ps ps', Division files name locator ps →
      Division files' name locator' ps' → ps.flatMap (·.lines) = ps'.flatMap (·.lines) →
        (∃ reg, (Registry.build files point locator catalog).result = .ok reg ∧
          (Registry.build files' point locator' catalog).result = .ok reg) ∨
        ∃ (i : Nat) (problem : LineProblem) (o : String) (n : Nat) (o' : String) (n' : Nat),
          (ps.flatMap Portion.places)[i]? = some (o, n) ∧
          (ps'.flatMap Portion.places)[i]? = some (o', n') ∧
          (Registry.build files point locator catalog).result = .error (.line o n problem) ∧
          (Registry.build files' point locator' catalog).result = .error (.line o' n' problem)) ∧
    ∀ files name (locator : Locator), (∃ m ∈ locator.flat, ∃ f, (m.locate files name).result = .error f) →
      ∃ pre l post f, locator.flat = pre ++ l :: post ∧ Locator.FailsBehind files name pre l f ∧
        ∀ (locator' : Locator) post', locator'.flat = pre ++ l :: post' →
          (locator'.locate files name).result = .error f ∧
          (locator'.locate files name).next.flat =
            pre.map (fun m => (m.locate files name).next) ++ (l.locate files name).next :: post' ∧
          (locator'.locate files name).events =
            pre.flatMap (fun m => (m.locate files name).events) ++ (l.locate files name).events := by
  intro name
  refine ⟨?_, ?_, ?_, ?_⟩
  · rintro _ items hs files locator ps h rfl
    have hfound := Division.found_of_ok hs
    exact ⟨_, h.scan_of_ok hs, rfl, hfound, by rw [KeyIndex.build, hfound]⟩
  · rintro _ i problem hs files locator ps h rfl
    exact h.scan_of_error hs
  · intro catalog files files' locator locator' ps ps' h h' hlines
    exact build_of_divisions h h' hlines
  · rintro files name locator ⟨m, hm, f, hf⟩
    rcases Locator.answered_or_failsBehind files name locator.flat with hall | ⟨pre, l, post, g, hflat, hl⟩
    · obtain ⟨rs, hrs⟩ := hall m hm
      rw [hrs] at hf
      cases hf
    · refine ⟨pre, l, post, g, hflat, hl, ?_⟩
      intro locator' post' hflat'
      exact Locator.locate_of_failsBehind hl hflat'

def zipFile : FileTree :=
  ⟨[], [(["extensions"], .directory), (["extensions", "Greeting"], .file "Zip#two\r\n".toUTF8)]⟩

def greetingManifests : List EmbeddedManifest :=
  [⟨"a", greeting, "\u00a0_a::Ñandú\t# one"⟩, ⟨"0", ⟨1, "Other", "dyn Other", none⟩, "?"⟩,
    ⟨"b", greeting, "# none\n\r\n"⟩]

def greetingLinks : Locator :=
  .chain [.chain [], .memory [⟨"extensions/Other", "m", "?"⟩],
    .chain [.ofManifests greetingManifests, .directories ["none", ""]]]

theorem division_memory : Division zipFile "extensions/Greeting"
    (.memory [⟨"extensions/Greeting", "m", greetingText⟩])
    [⟨"m", ["\u00a0_a::Ñandú\t# one", "# none", "", "Zip#two"]⟩] :=
  .memory (.cons ⟨rfl, greetingText, rfl, written_greeting⟩ .nil)

theorem division_links : Division zipFile "extensions/Greeting" greetingLinks
    [⟨"a", ["\u00a0_a::Ñandú\t# one"]⟩, ⟨"b", ["# none", ""]⟩, ⟨"extensions/Greeting", ["Zip#two"]⟩] := by
  have ha : Text.Written ["\u00a0_a::Ñandú\t# one"] "\u00a0_a::Ñandú\t# one" := .unended (by decide)
  have hb : Text.Written ["# none", ""] "# none\n\r\n" :=
    .fed (by decide) <| .returned (by decide) .nothing
  have hzip : Text.Written ["Zip#two"] "Zip#two\r\n" := .returned (by decide) .nothing
  have manifests : Division zipFile "extensions/Greeting" (.ofManifests greetingManifests)
      [⟨"a", ["\u00a0_a::Ñandú\t# one"]⟩, ⟨"b", ["# none", ""]⟩] := by
    refine .embedded (by decide) ?_
    exact .cons ⟨rfl, _, rfl, ha⟩ (.cons ⟨rfl, _, rfl, hb⟩ .nil)
  have file : Division zipFile "extensions/Greeting" (.directories ["none", ""])
      [⟨"extensions/Greeting", ["Zip#two"]⟩] :=
    .directories (.cons ⟨rfl, _, rfl, hzip⟩ .nil)
  have other : Division zipFile "extensions/Greeting" (.memory [⟨"extensions/Other", "m", "?"⟩]) [] :=
    .memory .nil
  exact .links .noLinks (.links other (.links (.links manifests (.links file .noLinks)) .noLinks))

/-- Both are scanned to the same classes, and where one class is not known both fail on the last line.
A chain fails as its first link that fails, and the failing link behind that is not asked. -/
theorem scan_of_any_division_greeting :
    let both := Catalog.ofClasses [hello, goodbye]
    let one := Catalog.ofClasses [hello]
    let memory := Locator.memory [⟨"extensions/Greeting", "m", greetingText⟩]
    let result := fun (l : Locator) c => (scan zipFile "Greeting" l (acceptanceFor greeting c)).result
    let failing := fun message => Locator.failing none (.state message) .empty
    result memory both = .ok [⟨"m", 1, hello⟩, ⟨"m", 4, goodbye⟩] ∧
    result greetingLinks both = .ok [⟨"a", 1, hello⟩, ⟨"extensions/Greeting", 1, goodbye⟩] ∧
    (∃ reg, (Registry.build zipFile greeting memory both).result = .ok reg ∧
      (Registry.build zipFile greeting greetingLinks both).result = .ok reg) ∧
    result memory one = .error (.line "m" 4 (.notFound "Zip")) ∧
    result greetingLinks one = .error (.line "extensions/Greeting" 1 (.notFound "Zip")) ∧
    ∃ pre l post, (Locator.chain [.chain [memory, failing "first"], failing "second"]).flat = pre ++ l :: post ∧
      Locator.FailsBehind zipFile "x" pre l (.state "first") := by
  intro both one memory result failing
  obtain ⟨found, -, built, -⟩ := scan_of_any_division greeting (acceptanceFor greeting both)
  obtain ⟨-, wrong, -, chains⟩ := scan_of_any_division greeting (acceptanceFor greeting one)
  have hitems : (acceptanceFor greeting both).sequence ["\u00a0_a::Ñandú\t# one", "# none", "", "Zip#two"] =
      .ok [some hello, none, none, some goodbye] := rfl
  have hproblem : (acceptanceFor greeting one).sequence ["\u00a0_a::Ñandú\t# one", "# none", "", "Zip#two"] =
      .error (3, .notFound "Zip") := rfl
  obtain ⟨ds, hmemory, rfl, -, -⟩ := found _ _ hitems _ _ _ division_memory rfl
  obtain ⟨es, hlinks, rfl, -, -⟩ := found _ _ hitems _ _ _ division_links rfl
  obtain ⟨o, n, hplace, hwrong⟩ := wrong _ _ _ hproblem _ _ _ division_memory rfl
  obtain ⟨o', n', hplace', hwrong'⟩ := wrong _ _ _ hproblem _ _ _ division_links rfl
  obtain ⟨rfl, rfl⟩ : "m" = o ∧ 4 = n := by simpa [Portion.places, List.range'] using hplace
  obtain ⟨rfl, rfl⟩ : "extensions/Greeting" = o' ∧ 1 = n' := by
    simpa [Portion.places, List.range'] using hplace'
  have hbuilt : ∃ reg, (Registry.build zipFile greeting memory both).result = .ok reg ∧
      (Registry.build zipFile greeting greetingLinks both).result = .ok reg := by
    rcases built both _ _ _ _ _ _ division_memory division_links rfl with h | ⟨_, _, _, _, _, _, _, _, h, -⟩
    · exact h
    · have hmemory : (scan zipFile greeting.name memory (acceptanceFor greeting both)).result = _ := hmemory
      rw [Registry.build_result, hmemory] at h
      cases h
  obtain ⟨pre, l, post, f, hflat, hl, hfails⟩ := chains zipFile "x"
    (.chain [.chain [memory, failing "first"], failing "second"])
    ⟨failing "first", by simp [Locator.flat, Locator.flatLinks, memory, failing, Locator.failing], _, rfl⟩
  obtain rfl : .state "first" = f := Except.error.inj (hfails _ _ hflat).1
  exact ⟨hmemory, hlinks, hbuilt, hwrong, hwrong', pre, l, post, hflat, hl⟩

end ProviderRegistry
