import ProviderRegistry.Proofs.OwnClasses
import ProviderRegistry.Proofs.TextLayout

/-! The simple name of a class. It is cut off from the right, while the reader of manifest lines cuts a
name from the left; of three colons in a row the one cut goes by the last two and the other by the first
two. A name that a line may list has colons in isolated pairs only, so there both cuts give the same
identifiers, and the simple name is the last of them. -/

namespace ProviderRegistry

namespace QualifiedName

variable {text left right left' right' : List Char}

/-- The leftmost pair of colons of a text, by what stands on its two sides. -/
structure FirstPair (text left right : List Char) : Prop where
  split : text = left ++ [':', ':'] ++ right
  first : ∀ left' right', text = left' ++ [':', ':'] ++ right' → left.length ≤ left'.length

/-- The rightmost pair of colons of a text, by what stands on its two sides. -/
structure LastPair (text left right : List Char) : Prop where
  split : text = left ++ [':', ':'] ++ right
  last : ∀ left' right', text = left' ++ [':', ':'] ++ right' → left'.length ≤ left.length

theorem FirstPair.unique (h : FirstPair text left right) (h' : FirstPair text left' right') :
    left = left' := by
  have hlength : left.length = left'.length :=
    Nat.le_antisymm (h.first _ _ h'.split) (h'.first _ _ h.split)
  have hsplit := h.split.symm.trans h'.split
  rw [List.append_assoc, List.append_assoc] at hsplit
  exact (List.append_inj hsplit hlength).1

theorem reverse_split (left right : List Char) :
    (left ++ [':', ':'] ++ right).reverse = right.reverse ++ [':', ':'] ++ left.reverse := by
  simp

/-- Read backwards, the rightmost pair is the leftmost. -/
theorem lastPair_iff : LastPair text left right ↔ FirstPair text.reverse right.reverse left.reverse := by
  -- what stands before a pair is the shorter the longer what stands behind it
  have hlength : ∀ {l r l' r' : List Char}, l ++ [':', ':'] ++ r = l' ++ [':', ':'] ++ r' →
      (l'.length ≤ l.length ↔ r.length ≤ r'.length) := by
    intro l r l' r' h
    have := congrArg List.length h
    simp only [List.length_append] at this
    omega
  constructor
  · rintro ⟨rfl, hlast⟩
    refine ⟨reverse_split left right, fun right' left' h => ?_⟩
    rw [List.reverse_eq_iff, reverse_split] at h
    have := (hlength h).1 (hlast _ _ h)
    simpa using this
  · rintro ⟨hsplit, hfirst⟩
    rw [List.reverse_eq_iff, reverse_split, List.reverse_reverse, List.reverse_reverse] at hsplit
    subst hsplit
    refine ⟨rfl, fun left' right' h => (hlength h).2 ?_⟩
    have := hfirst right'.reverse left'.reverse (by rw [h, reverse_split])
    simpa using this

theorem beforePair_spec (text : List Char) : (∃ right, FirstPair text (beforePair text) right) ∨
    (∀ left right, text ≠ left ++ [':', ':'] ++ right) ∧ beforePair text = text := by
  fun_induction beforePair text with
  | case1 => exact .inr ⟨by simp, rfl⟩
  | case2 r => exact .inl ⟨r, rfl, fun _ _ _ => Nat.zero_le _⟩
  | case3 c r hc ih =>
    -- a pair does not start here, so every pair is one of the rest
    have hrest : ∀ {left right}, c :: r = left ++ [':', ':'] ++ right →
        ∃ l, left = c :: l ∧ r = l ++ [':', ':'] ++ right := by
      intro left right h
      cases left with
      | nil =>
        rw [List.nil_append, List.cons_append, List.cons.injEq] at h
        exact absurd h.2 (hc _ h.1)
      | cons d l =>
        rw [List.cons_append, List.cons_append, List.cons.injEq] at h
        exact ⟨l, by rw [h.1], h.2⟩
    rcases ih with ⟨right, hsplit, hfirst⟩ | ⟨hnone, hself⟩
    · refine .inl ⟨right, by rw [List.cons_append, List.cons_append, ← hsplit], ?_⟩
      intro left' right' h
      obtain ⟨l, rfl, hl⟩ := hrest h
      exact Nat.succ_le_succ (hfirst l right' hl)
    · refine .inr ⟨?_, by rw [hself]⟩
      intro left right h
      obtain ⟨l, -, hl⟩ := hrest h
      exact hnone l right hl

theorem LastPair.unique (h : LastPair text left right) (h' : LastPair text left' right') : right = right' :=
  List.reverse_injective ((lastPair_iff.1 h).unique (lastPair_iff.1 h'))

theorem simpleName_spec (text : String) : (∃ left, LastPair text.toList left (simpleName text).toList) ∨
    (∀ left right, text.toList ≠ left ++ [':', ':'] ++ right) ∧ simpleName text = text := by
  rw [simpleName, String.toList_ofList]
  rcases beforePair_spec text.toList.reverse with ⟨right, h⟩ | ⟨hnone, hself⟩
  · refine .inl ⟨right.reverse, lastPair_iff.2 ?_⟩
    rwa [List.reverse_reverse, List.reverse_reverse]
  · refine .inr ⟨?_, by rw [hself, List.reverse_reverse, String.ofList_toList]⟩
    intro left right h
    exact hnone _ _ (by rw [h, reverse_split])

theorem simpleName_eq_iff {text last : String} : simpleName text = last ↔
    (∃ left, LastPair text.toList left last.toList) ∨
    (∀ left right, text.toList ≠ left ++ [':', ':'] ++ right) ∧ last = text := by
  constructor
  · rintro rfl
    exact simpleName_spec text
  · rintro (⟨left, h⟩ | ⟨hnone, rfl⟩)
    · rcases simpleName_spec text with ⟨_, h'⟩ | ⟨hnone, -⟩
      · exact String.toList_inj.1 (h'.unique h)
      · exact absurd h.split (hnone _ _)
    · rcases simpleName_spec last with ⟨_, h'⟩ | ⟨-, hself⟩
      · exact absurd h'.split (hnone _ _)
      · exact hself

/-- The stretches between pairs of colons, cut from the right, the last one first. -/
def segmentsFromRight (name : List Char) : List (List Char) := (segments name.reverse).map List.reverse

theorem head?_segments (l : List Char) : (segments l).head? = some (beforePair l) := by
  fun_induction segments l with
  | case1 => rfl
  | case2 => rfl
  | case3 c r _ hs => exact absurd hs (segments_ne_nil r)
  | case4 c r hc s t hs ih =>
    rw [hs, List.head?_cons, Option.some.injEq] at ih
    rw [List.head?_cons, beforePair, ih]
    exact hc

theorem head?_segmentsFromRight (name : String) :
    (segmentsFromRight name.toList).head? = some (simpleName name).toList := by
  rw [segmentsFromRight, List.head?_map, head?_segments, Option.map_some, simpleName, String.toList_ofList]

theorem intercalate_concat {ids : List (List Char)} (h : ids ≠ []) (w : List Char) :
    [':', ':'].intercalate (ids ++ [w]) = [':', ':'].intercalate ids ++ [':', ':'] ++ w := by
  induction ids with
  | nil => exact absurd rfl h
  | cons v ids ih =>
    cases ids with
    | nil => simp
    | cons u ids =>
      rw [List.cons_append, List.intercalate_cons_of_ne_nil (by simp), ih (by simp), List.intercalate_cons_cons]
      simp

theorem reverse_intercalate (ids : List (List Char)) :
    ([':', ':'].intercalate ids).reverse = [':', ':'].intercalate (ids.map List.reverse).reverse := by
  induction ids with
  | nil => rfl
  | cons w ids ih =>
    cases ids with
    | nil => simp
    | cons v ids =>
      have hne : ((v :: ids).map List.reverse).reverse ≠ [] := by simp
      have hconcat := intercalate_concat hne w.reverse
      rw [List.intercalate_cons_cons, reverse_split, ih, ← hconcat]
      simp only [List.map_cons, List.reverse_cons]

theorem Spells.no_colon {ids : List (List Char)} {name : List Char} (h : Spells ids name) :
    ∀ w ∈ ids, ':' ∉ w := fun w hw => no_colon_of_isIdentifier (isIdentifier_iff.2 (h.identifiers w hw))

/-- Of a name that identifiers spell both cuts give these. -/
theorem Spells.segmentsFromRight_eq {ids : List (List Char)} {name : List Char} (h : Spells ids name) :
    segmentsFromRight name = ids.reverse := by
  have hcolon : ∀ w ∈ (ids.map List.reverse).reverse, ':' ∉ w := by
    intro w hw
    obtain ⟨v, hv, rfl⟩ := List.mem_map.1 (List.mem_reverse.1 hw)
    rw [List.mem_reverse]
    exact h.no_colon v hv
  have hne : (ids.map List.reverse).reverse ≠ [] := by simpa using h.ne_nil
  rw [segmentsFromRight, ← h.joined, reverse_intercalate, segments_intercalate hne hcolon,
    ← List.map_reverse, List.map_map]
  simp

/-- Elsewhere they may differ: of three colons each leaves another one. -/
example : segments ['a', ':', ':', ':', 'b'] = [['a'], [':', 'b']] ∧
    segmentsFromRight ['a', ':', ':', ':', 'b'] = [['b'], ['a', ':']] := by decide

theorem Spells.getLast?_eq {ids : List (List Char)} {name : String} (h : Spells ids name.toList) :
    ids.getLast? = some (simpleName name).toList := by
  rw [← head?_segmentsFromRight, h.segmentsFromRight_eq, List.head?_reverse]

theorem Spells.isIdentifier_simpleName {ids : List (List Char)} {name : String}
    (h : Spells ids name.toList) : IsIdentifier (simpleName name).toList :=
  h.identifiers _ (List.mem_of_getLast? h.getLast?_eq)

end QualifiedName

namespace Manifest

open QualifiedName

theorem grammatical_of_readLine {line name : String} (h : readLine line = .ok (some name)) :
    Grammatical name.toList := by
  have hs := says_iff.2 (rfl : String.ofList (content line.toList) = _)
  obtain ⟨rfl, hg⟩ := ((readLine_cases hs).2.1 name).1 h
  exact hg

theorem says_of_grammatical {name : List Char} (h : Grammatical name) : Says name name := by
  refine ⟨[], [], [], by simp, by simp, by simp, ?_, by simp, ?_, ?_⟩
  · intro hm
    rcases h.part hm with hc | hp
    · exact absurd hc (by decide)
    · exact absurd hp (by decide)
  · intro c hc
    exact h.not_isBlank (List.mem_of_head? hc)
  · intro c hc
    exact h.not_isBlank (List.mem_of_getLast? hc)

theorem readLine_of_isIdentifier {w : String} (h : IsIdentifier w.toList) : readLine w = .ok (some w) := by
  have hg : Grammatical w.toList :=
    ⟨[w.toList], by simp, by simpa using isIdentifier_iff.2 h, (List.intercalate_singleton).symm⟩
  exact readLine_of_grammatical (says_of_grammatical hg) hg

end Manifest

open QualifiedName

section

variable {files : FileTree} {point : String} {locator : Locator} {a : Acceptance} {ds : List Discovered}

theorem listed_of_scan (h : (scan files point locator a).result = .ok ds) :
    ∀ d ∈ ds, ∃ line name, Manifest.readLine line = .ok (some name) ∧ a.resolve name = some d.found := by
  obtain ⟨rs, -, hfound⟩ := readResources_of_scan h
  have hsums := hfound ▸ a.sums_readResources files rs
  intro d hd
  obtain ⟨-, line, name, -, hread, hres⟩ := hsums.listed d hd
  exact ⟨line, name, hread, hres⟩

/-- A catalog finds a class by the name it bears, so the name of a class that a scan gives is one that a line
may list. -/
theorem spelled_of_scan {cs : List ProviderClass} (ha : a.resolve = (Catalog.ofClasses cs).resolve)
    (h : (scan files point locator a).result = .ok ds) {d : Discovered} (hd : d ∈ ds) :
    ∃ ids, Spells ids d.found.name.toList := by
  obtain ⟨line, name, hread, hres⟩ := listed_of_scan h d hd
  obtain ⟨-, hname⟩ := Catalog.resolve_ofClasses (ha ▸ hres)
  exact grammatical_iff.1 (hname ▸ Manifest.grammatical_of_readLine hread)

end

theorem ProviderClass.key_of_undeclared {c : ProviderClass} (h : c.declaration = none) :
    c.key = QualifiedName.simpleName c.name := by
  rw [key, h]
  rfl

/-- The simple name of a text is what stands behind its rightmost pair of colons, and the text itself if it
has none. A name that a line lists is spelled by identifiers, which are cut from it in their order from the
left and in the opposite one from the right; its simple name is the last of them, and could itself be listed.
So a class that a scan finds in a catalog and that declares no key has an identifier as its key. -/
theorem simple_name_is_last :
    (∀ text last : String, simpleName text = last ↔ (∃ left, LastPair text.toList left last.toList) ∨
      (∀ left right, text.toList ≠ left ++ [':', ':'] ++ right) ∧ last = text) ∧
    (∀ line name, Manifest.readLine line = .ok (some name) → ∃ ids, Spells ids name.toList ∧
      segments name.toList = ids ∧ segmentsFromRight name.toList = ids.reverse ∧
      (segmentsFromRight name.toList).head? = some (simpleName name).toList ∧
      ids.getLast? = some (simpleName name).toList ∧
      simpleName name ≠ "" ∧ ':' ∉ (simpleName name).toList ∧
      Manifest.readLine (simpleName name) = .ok (some (simpleName name))) ∧
    ∀ files point locator cs implements ds,
      (scan files point locator ⟨(Catalog.ofClasses cs).resolve, implements⟩).result = .ok ds →
      ∀ d ∈ ds, d.found.declaration = none →
        d.found.key = simpleName d.found.name ∧ d.found.key ≠ "" ∧ IsIdentifier d.found.key.toList := by
  have hne : ∀ {w : String}, IsIdentifier w.toList → w ≠ "" := by
    rintro _ ⟨c, r, h, -⟩ rfl
    cases h
  refine ⟨fun _ _ => simpleName_eq_iff, ?_, ?_⟩
  · intro line name h
    obtain ⟨ids, hids⟩ := grammatical_iff.1 (Manifest.grammatical_of_readLine h)
    have hident := hids.isIdentifier_simpleName
    exact ⟨ids, hids, hids.segments_eq, hids.segmentsFromRight_eq, head?_segmentsFromRight name,
      hids.getLast?_eq, hne hident, no_colon_of_isIdentifier (isIdentifier_iff.2 hident),
      Manifest.readLine_of_isIdentifier hident⟩
  · intro files point locator cs implements ds h d hd hu
    obtain ⟨ids, hids⟩ := spelled_of_scan rfl h hd
    have hkey := ProviderClass.key_of_undeclared hu
    have hident : IsIdentifier d.found.key.toList := hkey ▸ hids.isIdentifier_simpleName
    exact ⟨hkey, hne hident, hident⟩

/-- A listed class without a key of its own, told by its last segment. -/
theorem simple_name_is_last_hello :
    let a := acceptanceFor greeting (.ofClasses [hello])
    let inMemory := Locator.memory [⟨"extensions/Greeting", "m", "_a::Ñandú"⟩]
    (scan (.ofCwd []) "Greeting" inMemory a).result = .ok [⟨"m", 1, hello⟩] ∧
      Manifest.readLine "Ñandú" = .ok (some "Ñandú") ∧ hello.key = "Ñandú" ∧
      IsIdentifier hello.key.toList := by
  intro a inMemory
  have hread : Manifest.readLine "_a::Ñandú" = .ok (some "_a::Ñandú") := by decide +kernel
  have hscan : (scan (.ofCwd []) "Greeting" inMemory a).result = .ok [⟨"m", 1, hello⟩] := by
    have takes : a.Takes hello := ⟨QualifiedName.wellFormed_iff.1 (by decide +kernel), rfl, rfl⟩
    have written : Text.Written ["_a::Ñandú"] "_a::Ñandú" := Text.Lined.unended (by decide)
    have lists : Manifest.Lists "_a::Ñandú" (some hello) := Manifest.lists_some (by decide +kernel)
    exact scan_of_listing (r := .ofText "m" "_a::Ñandú") rfl rfl written (.cons lists .nil)
      (by simpa using takes)
  obtain ⟨-, hname, hkey⟩ := simple_name_is_last
  obtain ⟨_, -, -, -, -, -, -, -, hlast⟩ := hname _ _ hread
  obtain ⟨-, -, hident⟩ := hkey _ _ _ _ _ _ hscan _ List.mem_cons_self rfl
  exact ⟨hscan, hlast, by decide +kernel, hident⟩

end ProviderRegistry
