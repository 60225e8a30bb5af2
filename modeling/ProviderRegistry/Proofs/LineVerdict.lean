import ProviderRegistry.Proofs.LineGrammar

/-! What the reader of manifest lines answers, by the grammar alone. A line says nothing, names a
class, has a space or a tab inside, or is malformed otherwise; the four exclude one another, for a
name has letters, digits and underscores only and colons in isolated pairs between them. -/

namespace ProviderRegistry

namespace Text

def blanks : List Nat :=
  [0x09, 0x0a, 0x0b, 0x0c, 0x0d, 0x20, 0x85, 0xa0, 0x1680, 0x2000, 0x2001, 0x2002, 0x2003, 0x2004,
    0x2005, 0x2006, 0x2007, 0x2008, 0x2009, 0x200a, 0x2028, 0x2029, 0x202f, 0x205f, 0x3000]

theorem mem_blanks {c : Char} (h : isBlank c) : c.toNat ∈ blanks := by
  simp only [isBlank, Bool.or_eq_true, Bool.and_eq_true, decide_eq_true_eq, beq_iff_eq] at h
  simp only [blanks, List.mem_cons, List.not_mem_nil, or_false]
  omega

theorem not_isAlphanumeric_of_isBlank {c : Char} (h : isBlank c) : isAlphanumeric c = false := by
  have hall : ∀ n ∈ blanks, isAlphanumeric (Char.ofNat n) = false := by decide +kernel
  have := hall _ (mem_blanks h)
  rwa [Char.ofNat_toNat] at this

end Text

namespace QualifiedName

def IsIdentifier (w : List Char) : Prop :=
  ∃ c r, w = c :: r ∧ (Text.isAlphabetic c ∨ c = '_') ∧ ∀ d ∈ r, Text.isAlphanumeric d ∨ d = '_'

/-- Identifiers, at least one, and the name they give with `::` between them. -/
structure Spells (ids : List (List Char)) (name : List Char) : Prop where
  ne_nil : ids ≠ []
  identifiers : ∀ w ∈ ids, IsIdentifier w
  joined : [':', ':'].intercalate ids = name

theorem isIdentifier_iff {w : List Char} : isIdentifier w ↔ IsIdentifier w := by
  cases w with
  | nil =>
    constructor
    · intro h
      cases h
    · rintro ⟨c, r, h, -⟩
      cases h
  | cons c r =>
    simp only [isIdentifier, isIdentifierStart, isIdentifierPart, Bool.and_eq_true, Bool.or_eq_true,
      beq_iff_eq, List.all_eq_true]
    constructor
    · rintro ⟨hc, hr⟩
      exact ⟨c, r, rfl, hc, hr⟩
    · rintro ⟨d, s, h, hd, hs⟩
      cases h
      exact ⟨hd, hs⟩

theorem grammatical_iff {name : List Char} : Grammatical name ↔ ∃ ids, Spells ids name := by
  constructor
  · rintro ⟨ids, hn, hw, rfl⟩
    exact ⟨ids, hn, fun w h => isIdentifier_iff.1 (hw w h), rfl⟩
  · rintro ⟨ids, hn, hw, rfl⟩
    exact ⟨ids, hn, fun w h => isIdentifier_iff.2 (hw w h), rfl⟩

theorem Spells.segments_eq {ids : List (List Char)} {name : List Char} (h : Spells ids name) :
    segments name = ids := by
  rw [← h.joined]
  exact segments_intercalate h.ne_nil fun w hw =>
    no_colon_of_isIdentifier (isIdentifier_iff.2 (h.identifiers w hw))

theorem Spells.unique {ids ids' : List (List Char)} {name : List Char} (h : Spells ids name)
    (h' : Spells ids' name) : ids = ids' := h.segments_eq.symm.trans h'.segments_eq

theorem not_isBlank_of_isIdentifierPart {c : Char} (h : isIdentifierPart c) : ¬Text.isBlank c := by
  intro hb
  have hn := Text.not_isAlphanumeric_of_isBlank hb
  have hu : c = '_' := by simpa [isIdentifierPart, hn] using h
  exact absurd hb (by rw [hu]; decide)

namespace Grammatical

variable {name : List Char}

theorem not_isBlank (h : Grammatical name) {c : Char} (hc : c ∈ name) : ¬Text.isBlank c := by
  rcases h.part hc with rfl | hp
  · decide
  · exact not_isBlank_of_isIdentifierPart hp

theorem ne_nil (h : Grammatical name) : name ≠ [] := by
  rintro rfl
  exact absurd (wellFormed_iff.2 h) (by decide)

end Grammatical

/-- The two sides of a pair of colons: an identifier ends on the left and one starts on the right. -/
structure Joint (left right : List Char) : Prop where
  ends : ∃ c ∈ left.getLast?, isIdentifierPart c
  starts : ∃ c ∈ right.head?, isIdentifierStart c

theorem Joint.behind {left right : List Char} (h : Joint left right) (before : List Char) :
    Joint (before ++ left) right := by
  obtain ⟨c, hc, hp⟩ := h.ends
  refine ⟨⟨c, ?_, hp⟩, h.starts⟩
  rw [List.getLast?_append, Option.mem_def.1 hc]
  rfl

theorem ends_of_isIdentifier {w : List Char} (h : isIdentifier w) :
    ∃ c ∈ w.getLast?, isIdentifierPart c := by
  have hn : w ≠ [] := by
    rintro rfl
    cases h
  exact ⟨w.getLast hn, List.getLast?_eq_some_getLast hn, isIdentifierPart_of_mem h (List.getLast_mem hn)⟩

theorem starts_of_isIdentifier {v : List Char} (h : isIdentifier v) (ids : List (List Char)) :
    ∃ c ∈ ([':', ':'].intercalate (v :: ids)).head?, isIdentifierStart c := by
  cases v with
  | nil => cases h
  | cons c r =>
    rw [isIdentifier, Bool.and_eq_true] at h
    refine ⟨c, ?_, h.1⟩
    cases ids with
    | nil => rw [List.intercalate_singleton]; rfl
    | cons w ids => rw [List.intercalate_cons_cons]; rfl

/-- A colon of a text stands behind any stretch at its start that has none. -/
theorem colon_behind {w t l r : List Char} (hw : ':' ∉ w) (h : w ++ t = l ++ ':' :: r) :
    ∃ d, l = w ++ d ∧ t = d ++ ':' :: r := by
  rcases List.append_eq_append_iff.1 h with ⟨d, hl, ht⟩ | ⟨d, rfl, hr⟩
  · exact ⟨d, hl, ht⟩
  · cases d with
    | nil => exact ⟨[], by simp, hr.symm⟩
    | cons c d =>
      rw [List.cons_append, List.cons.injEq] at hr
      exact absurd (List.mem_append_right l (hr.1 ▸ List.mem_cons_self)) hw

/-- Every colon of a grammatical name is one of a pair that stands between two identifiers. -/
theorem Grammatical.joints {name : List Char} (h : Grammatical name) {l r : List Char}
    (hc : name = l ++ ':' :: r) : ∃ left right, name = left ++ [':', ':'] ++ right ∧
      (l = left ∨ l = left ++ [':']) ∧ Joint left right := by
  obtain ⟨ids, hn, hw, rfl⟩ := h
  induction ids generalizing l with
  | nil => exact absurd rfl hn
  | cons w ids ih =>
    have hwi := hw w List.mem_cons_self
    have hwc := no_colon_of_isIdentifier hwi
    cases ids with
    | nil =>
      rw [List.intercalate_singleton] at hc
      exact absurd (hc ▸ List.mem_append_right l List.mem_cons_self) hwc
    | cons v ids =>
      rw [List.intercalate_cons_cons] at hc ⊢
      set tail := [':', ':'].intercalate (v :: ids)
      have first : Joint w tail := ⟨ends_of_isIdentifier hwi,
        starts_of_isIdentifier (hw v (List.mem_cons_of_mem w List.mem_cons_self)) ids⟩
      rw [List.append_assoc] at hc
      obtain ⟨d, rfl, hd⟩ := colon_behind hwc hc
      -- the colon is the first of the pair behind `w`, its second, or one of those that follow
      match d, hd with
      | [], _ => exact ⟨w, tail, rfl, .inl (List.append_nil w), first⟩
      | [_], hd =>
        cases hd
        exact ⟨w, tail, rfl, .inr rfl, first⟩
      | _ :: _ :: rest, hd =>
        simp only [List.cons_append, List.nil_append, List.cons.injEq] at hd
        obtain ⟨rfl, rfl, hd⟩ := hd
        obtain ⟨left, right, he, hl, hj⟩ := ih (l := rest) (by simp)
          (fun u hu => hw u (List.mem_cons_of_mem w hu)) hd
        refine ⟨w ++ [':', ':'] ++ left, right, by simp [he], ?_, hj.behind _⟩
        rcases hl with rfl | rfl
        · exact .inl (by simp)
        · exact .inr (by simp)

end QualifiedName

namespace Manifest

open QualifiedName

theorem hasInnerBlank_iff {t : List Char} : hasInnerBlank t ↔ ' ' ∈ t ∨ '\t' ∈ t := by
  simp only [hasInnerBlank, List.any_eq_true, Bool.or_eq_true, beq_iff_eq]
  constructor
  · rintro ⟨c, hc, rfl | rfl⟩
    · exact .inl hc
    · exact .inr hc
  · rintro (h | h)
    · exact ⟨_, h, .inl rfl⟩
    · exact ⟨_, h, .inr rfl⟩

theorem not_hasInnerBlank_of_grammatical {t : List Char} (h : Grammatical t) : ¬hasInnerBlank t := by
  rw [hasInnerBlank_iff]
  rintro (hb | hb)
  · exact h.not_isBlank hb (by decide)
  · exact h.not_isBlank hb (by decide)

theorem readLine_of_says {line t : String} (h : Says line.toList t.toList) :
    readLine line = if t = "" then .ok none else if hasInnerBlank t.toList then .error (.innerBlank t)
      else if wellFormed t.toList then .ok (some t) else .error (.notAName t) := by
  simp [readLine, h.content_eq]

theorem says_iff {line u : String} :
    Says line.toList u.toList ↔ u = String.ofList (content line.toList) := by
  constructor
  · intro h
    rw [h.content_eq, String.ofList_toList]
  · rintro rfl
    rw [String.toList_ofList]
    exact says_content line.toList

theorem readLine_cases {line t : String} (h : Says line.toList t.toList) :
    (readLine line = .ok none ↔ t = "") ∧
    (∀ name, readLine line = .ok (some name) ↔ name = t ∧ Grammatical t.toList) ∧
    (∀ u, readLine line = .error (.innerBlank u) ↔ u = t ∧ hasInnerBlank t.toList) ∧
    (∀ u, readLine line = .error (.notAName u) ↔
      u = t ∧ t ≠ "" ∧ ¬Grammatical t.toList ∧ ¬hasInnerBlank t.toList) := by
  have hv := readLine_of_says h
  split_ifs at hv with hn hb hw
  · have hb : ¬hasInnerBlank t.toList := by rw [hn]; decide
    have hg : ¬Grammatical t.toList := fun hg => hg.ne_nil (by simp [hn])
    exact ⟨by simp [hv, hn], by simp [hv, hg], by simp [hv, hb], by simp [hv, hn]⟩
  · have hg : ¬Grammatical t.toList := fun hg => not_hasInnerBlank_of_grammatical hg hb
    simp [hv, hn, hb, hg, eq_comm]
  · have hg := wellFormed_iff.1 hw
    simp [hv, hn, hb, hg, eq_comm]
  · have hg : ¬Grammatical t.toList := fun hg => hw (wellFormed_iff.2 hg)
    simp [hv, hn, hb, hg, eq_comm]

theorem readLine_of_grammatical {line t : String} (h : Says line.toList t.toList)
    (hg : Grammatical t.toList) : readLine line = .ok (some t) :=
  ((readLine_cases h).2.1 t).2 ⟨rfl, hg⟩

/-- A line says one text. It is passed over exactly if that is empty, names a class exactly if
identifiers spell it, which they do in one way only, and is told to have a blank inside exactly if
there is a space or a tab; any other text is no name. A name has no white space, no `#`, and every
colon of it is one of a pair between two identifiers. -/
theorem readLine_by_grammar (line : String) : ∃ t : String,
    (∀ u : String, Says line.toList u.toList ↔ u = t) ∧
    (readLine line = .ok none ↔ t = "") ∧
    (∀ name, readLine line = .ok (some name) ↔ name = t ∧ ∃! ids, Spells ids t.toList) ∧
    (∀ u, readLine line = .error (.innerBlank u) ↔ u = t ∧ (' ' ∈ t.toList ∨ '\t' ∈ t.toList)) ∧
    (∀ u, readLine line = .error (.notAName u) ↔
      u = t ∧ t ≠ "" ∧ (¬∃ ids, Spells ids t.toList) ∧ ¬(' ' ∈ t.toList ∨ '\t' ∈ t.toList)) ∧
    ∀ name, readLine line = .ok (some name) →
      (∀ c ∈ name.toList, ¬Text.isBlank c ∧ c ≠ '#') ∧
      ∀ l r, name.toList = l ++ ':' :: r → ∃ left right, name.toList = left ++ [':', ':'] ++ right ∧
        (l = left ∨ l = left ++ [':']) ∧ Joint left right := by
  set t := String.ofList (content line.toList)
  have htext : ∀ u : String, Says line.toList u.toList ↔ u = t := fun u => says_iff
  obtain ⟨hnone, hsome, hinner, hother⟩ := readLine_cases ((htext t).2 rfl)
  have hunique : Grammatical t.toList ↔ ∃! ids, Spells ids t.toList := by
    rw [grammatical_iff]
    exact ⟨fun ⟨ids, h⟩ => ⟨ids, h, fun _ h' => h'.unique h⟩, ExistsUnique.exists⟩
  refine ⟨t, htext, hnone, ?_, ?_, ?_, ?_⟩
  · intro name
    rw [hsome, hunique]
  · intro u
    rw [hinner, hasInnerBlank_iff]
  · intro u
    rw [hother, hasInnerBlank_iff, grammatical_iff]
  · intro name h
    obtain ⟨rfl, hg⟩ := (hsome name).1 h
    refine ⟨fun c hc => ⟨hg.not_isBlank hc, ?_⟩, fun l r => hg.joints⟩
    rintro rfl
    rcases hg.part hc with hc | hc <;> exact absurd hc (by decide)

/-- A name between two kinds of white space, a comment glued to it. -/
theorem readLine_by_grammar_commented :
    readLine "\u00a0a::_b1::\u00df\t# c" = .ok (some "a::_b1::\u00df") ∧
    (∃! ids, Spells ids "a::_b1::\u00df".toList) ∧
    ∀ c ∈ "a::_b1::\u00df".toList, ¬Text.isBlank c ∧ c ≠ '#' := by
  have hr : readLine "\u00a0a::_b1::\u00df\t# c" = .ok (some "a::_b1::\u00df") := by decide +kernel
  obtain ⟨t, -, -, hsome, -, -, hname⟩ := readLine_by_grammar "\u00a0a::_b1::\u00df\t# c"
  obtain ⟨ht, hids⟩ := (hsome _).1 hr
  exact ⟨hr, ht ▸ hids, (hname _ hr).1⟩

end Manifest

end ProviderRegistry
