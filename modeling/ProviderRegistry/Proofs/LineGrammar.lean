import Mathlib.Data.List.TakeWhile
import Mathlib.Tactic
import ProviderRegistry.Manifest.Line

/-! The grammar of a manifest line, without the way it is read: what a line says is the one stretch
before its comment that has no white space at its ends and nothing but white space around it, and a
class name is identifiers with `::` between them. The reader agrees with both. -/

namespace ProviderRegistry

namespace QualifiedName

/-- Identifiers, at least one, with `::` between them. -/
def Grammatical (name : List Char) : Prop :=
  ∃ ids : List (List Char), ids ≠ [] ∧ (∀ w ∈ ids, isIdentifier w) ∧
    name = [':', ':'].intercalate ids

theorem intercalate_segments (name : List Char) : [':', ':'].intercalate (segments name) = name := by
  fun_induction segments name with
  | case1 => rfl
  | case2 r ih =>
    rw [List.intercalate_cons_of_ne_nil (segments_ne_nil r), ih]
    rfl
  | case3 c r _ hs => exact absurd hs (segments_ne_nil r)
  | case4 c r _ s t hs ih =>
    rw [hs] at ih
    rw [← ih]
    cases t <;> simp [List.intercalate]

theorem segments_of_no_colon {w : List Char} (h : ':' ∉ w) : segments w = [w] := by
  fun_induction segments w <;> simp_all

theorem segments_append {w : List Char} (h : ':' ∉ w) (r : List Char) :
    segments (w ++ ':' :: ':' :: r) = w :: segments r := by
  induction w with
  | nil => rfl
  | cons c w ih =>
    have hc : c ≠ ':' := fun hc => h (hc ▸ List.mem_cons_self)
    rw [List.cons_append, segments, ih fun hm => h (List.mem_cons_of_mem c hm)]
    exact fun r' hr => absurd hr hc

theorem no_colon_of_isIdentifier {w : List Char} (h : isIdentifier w) : ':' ∉ w := by
  cases w with
  | nil => exact List.not_mem_nil
  | cons c r =>
    rw [isIdentifier, Bool.and_eq_true, List.all_eq_true] at h
    intro hm
    rcases List.mem_cons.1 hm with rfl | hm
    · exact absurd h.1 (by decide)
    · exact absurd (h.2 _ hm) (by decide)

theorem segments_intercalate {ids : List (List Char)} (hn : ids ≠ [])
    (h : ∀ w ∈ ids, ':' ∉ w) : segments ([':', ':'].intercalate ids) = ids := by
  induction ids with
  | nil => exact absurd rfl hn
  | cons w ids ih =>
    have hw := h w List.mem_cons_self
    cases ids with
    | nil => rw [List.intercalate_singleton, segments_of_no_colon hw]
    | cons v ids =>
      rw [List.intercalate_cons_cons, List.append_assoc, List.cons_append, List.cons_append,
        List.nil_append, segments_append hw, ih (by simp) fun u hu => h u (List.mem_cons_of_mem w hu)]

theorem wellFormed_iff {name : List Char} : wellFormed name ↔ Grammatical name := by
  rw [wellFormed, List.all_eq_true]
  constructor
  · intro h
    exact ⟨segments name, segments_ne_nil name, h, (intercalate_segments name).symm⟩
  · rintro ⟨ids, hn, h, rfl⟩
    rwa [segments_intercalate hn fun w hw => no_colon_of_isIdentifier (h w hw)]

theorem mem_intercalate {c : Char} {ids : List (List Char)} (h : c ∈ [':', ':'].intercalate ids) :
    c = ':' ∨ ∃ w ∈ ids, c ∈ w := by
  induction ids with
  | nil => cases h
  | cons w ids ih =>
    cases ids with
    | nil => exact .inr ⟨w, List.mem_cons_self, by rwa [List.intercalate_singleton] at h⟩
    | cons v ids =>
      rw [List.intercalate_cons_cons, List.mem_append, List.mem_append] at h
      rcases h with (h | h) | h
      · exact .inr ⟨w, List.mem_cons_self, h⟩
      · exact .inl (by simpa using h)
      · rcases ih h with h | ⟨u, hu, h⟩
        · exact .inl h
        · exact .inr ⟨u, List.mem_cons_of_mem w hu, h⟩

theorem isIdentifierPart_of_mem {w : List Char} (h : isIdentifier w) {c : Char} (hc : c ∈ w) :
    isIdentifierPart c := by
  cases w with
  | nil => cases hc
  | cons d r =>
    rw [isIdentifier, Bool.and_eq_true, List.all_eq_true] at h
    rcases List.mem_cons.1 hc with rfl | hc
    · have h := h.1
      unfold isIdentifierStart at h
      unfold isIdentifierPart Text.isAlphanumeric
      rcases Bool.or_eq_true _ _ ▸ h with h | h <;> simp [h]
    · exact h.2 c hc

theorem Grammatical.part {name : List Char} (h : Grammatical name) {c : Char} (hc : c ∈ name) :
    c = ':' ∨ isIdentifierPart c := by
  obtain ⟨ids, -, h, rfl⟩ := h
  rcases mem_intercalate hc with hc | ⟨w, hw, hc⟩
  · exact .inl hc
  · exact .inr (isIdentifierPart_of_mem (h w hw) hc)

end QualifiedName

namespace Text

variable {l left right : List Char}

theorem dropWhile_eq_self (h : ∀ c ∈ l.head?, ¬isBlank c) : l.dropWhile isBlank = l := by
  cases l with
  | nil => rfl
  | cons c r => exact List.dropWhile_cons_of_neg (h c rfl)

theorem not_isBlank_head?_dropWhile : ∀ c ∈ (l.dropWhile isBlank).head?, ¬isBlank c := by
  intro c hc
  have := List.head?_dropWhile_not isBlank l
  rw [hc] at this
  simpa using this

theorem trimEnd_append (h : ∀ c ∈ right, isBlank c) : trimEnd (l ++ right) = trimEnd l := by
  rw [trimEnd, List.reverse_append, List.dropWhile_append_of_pos fun c hc => h c (by simpa using hc), trimEnd]

theorem trimEnd_eq_self (h : ∀ c ∈ l.getLast?, ¬isBlank c) : trimEnd l = l := by
  rw [trimEnd, dropWhile_eq_self (by rwa [List.head?_reverse]), List.reverse_reverse]

theorem trim_append (hl : ∀ c ∈ left, isBlank c) (hr : ∀ c ∈ right, isBlank c)
    (hh : ∀ c ∈ l.head?, ¬isBlank c) (he : ∀ c ∈ l.getLast?, ¬isBlank c) :
    trim (left ++ l ++ right) = l := by
  rw [trim, List.append_assoc, List.dropWhile_append_of_pos hl]
  cases l with
  | nil =>
    have : right.dropWhile isBlank = [] := by
      rw [← List.append_nil right, List.dropWhile_append_of_pos hr]
      rfl
    rw [List.nil_append, this]
    rfl
  | cons c r => rw [dropWhile_eq_self (by simpa using hh), trimEnd_append hr, trimEnd_eq_self he]

theorem trim_spec (l : List Char) : ∃ left right, l = left ++ trim l ++ right ∧
    (∀ c ∈ left, isBlank c) ∧ (∀ c ∈ right, isBlank c) ∧
    (∀ c ∈ (trim l).head?, ¬isBlank c) ∧ ∀ c ∈ (trim l).getLast?, ¬isBlank c := by
  set mid := l.dropWhile isBlank with hm
  have ht : trim l ++ (mid.reverse.takeWhile isBlank).reverse = mid := by
    rw [trim, trimEnd, ← List.reverse_append, List.takeWhile_append_dropWhile, List.reverse_reverse]
  refine ⟨l.takeWhile isBlank, (mid.reverse.takeWhile isBlank).reverse, ?_, ?_, ?_, ?_, ?_⟩
  · rw [List.append_assoc, ht, List.takeWhile_append_dropWhile]
  · intro c hc
    exact List.mem_takeWhile_imp hc
  · intro c hc
    exact List.mem_takeWhile_imp (List.mem_reverse.1 hc)
  · intro c hc
    apply not_isBlank_head?_dropWhile (l := l) c
    rw [← hm, ← ht]
    cases htl : trim l with
    | nil => rw [htl] at hc; cases hc
    | cons d r => rw [htl] at hc; exact hc
  · intro c hc
    rw [trim, trimEnd, List.getLast?_reverse] at hc
    exact not_isBlank_head?_dropWhile c hc

end Text

namespace Manifest

/-- What a line says: the stretch before its comment with the white space around it taken away. -/
def Says (line text : List Char) : Prop :=
  ∃ left right comment, line = left ++ text ++ right ++ comment ∧
    (∀ c ∈ left, Text.isBlank c) ∧ (∀ c ∈ right, Text.isBlank c) ∧
    '#' ∉ text ∧ (∀ c ∈ comment.head?, c = '#') ∧
    (∀ c ∈ text.head?, ¬Text.isBlank c) ∧ ∀ c ∈ text.getLast?, ¬Text.isBlank c

theorem ne_hash_of_isBlank {c : Char} (h : Text.isBlank c) : c ≠ '#' := by
  rintro rfl
  exact absurd h (by decide)

theorem says_content (line : List Char) : Says line (content line) := by
  obtain ⟨left, right, hl, hleft, hright, hh, he⟩ := Text.trim_spec (line.takeWhile (· ≠ '#'))
  refine ⟨left, right, line.dropWhile (· ≠ '#'), ?_, hleft, hright, ?_, ?_, hh, he⟩
  · rw [content, ← hl, List.takeWhile_append_dropWhile]
  · intro hm
    have hm : '#' ∈ line.takeWhile (· ≠ '#') := by
      rw [hl]
      exact List.mem_append_left _ (List.mem_append_right _ hm)
    simpa using List.mem_takeWhile_imp hm
  · intro c hc
    have := List.head?_dropWhile_not (· ≠ '#') line
    rw [hc] at this
    simpa using this

theorem Says.content_eq {line text : List Char} (h : Says line text) : content line = text := by
  obtain ⟨left, right, comment, rfl, hl, hr, hn, hc, hh, he⟩ := h
  have hbody : ∀ c ∈ left ++ text ++ right, decide (c ≠ '#') = true := by
    intro c hm
    rw [List.mem_append, List.mem_append] at hm
    rcases hm with (hm | hm) | hm
    · simpa using ne_hash_of_isBlank (hl c hm)
    · have : c ≠ '#' := fun h => hn (h ▸ hm)
      simpa using this
    · simpa using ne_hash_of_isBlank (hr c hm)
  have hcomment : comment.takeWhile (· ≠ '#') = [] := by
    cases comment with
    | nil => rfl
    | cons c r => simp [hc c rfl]
  rw [content, List.takeWhile_append_of_pos hbody, hcomment, List.append_nil, Text.trim_append hl hr hh he]

end Manifest

end ProviderRegistry
