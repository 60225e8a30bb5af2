import ProviderRegistry.Proofs.ScanOrder

/-! Lines of characters and lines of bytes. A sequence is written line by line, each line with an end
of its own. A line feed is one byte, and that byte is part of no other character, so the lines of a
text are the lines of the bytes that encode it; and bytes followed by an encoded text are themselves
an encoded text exactly if they are with it. -/

namespace ProviderRegistry

namespace Text

section

variable {α : Type} {feed ret : α}

/-- Lines written one after the other: none has a line feed inside, each ends with a line feed that
may have a carriage return before it, and the last one may have no end. -/
inductive Lined (feed ret : α) : List (List α) → List α → Prop
  | nothing : Lined feed ret [] []
  | unended {l : List α} (h : feed ∉ l) : Lined feed ret [l] l
  | fed {l t : List α} {ls : List (List α)} (h : feed ∉ l) (hr : Lined feed ret ls t) :
      Lined feed ret (l :: ls) (l ++ feed :: t)
  | returned {l t : List α} {ls : List (List α)} (h : feed ∉ l) (hr : Lined feed ret ls t) :
      Lined feed ret (l :: ls) (l ++ ret :: feed :: t)

variable [DecidableEq α]

theorem exists_lined (feed ret : α) (t : List α) : ∃ ls, Lined feed ret ls t := by
  induction t with
  | nil => exact ⟨[], .nothing⟩
  | cons c r ih =>
    obtain ⟨ls, h⟩ := ih
    by_cases hc : c = feed
    · subst hc
      exact ⟨[] :: ls, .fed List.not_mem_nil h⟩
    · have hnot : ∀ l, feed ∉ l → feed ∉ c :: l := fun l hl => by
        simp [Ne.symm hc, hl]
      -- the unit goes to the front of the first line
      cases h with
      | nothing => exact ⟨[_], .unended (hnot [] List.not_mem_nil)⟩
      | unended hl => exact ⟨[_], .unended (hnot _ hl)⟩
      | fed hl hr => exact ⟨_, .fed (hnot _ hl) hr⟩
      | returned hl hr => exact ⟨_, .returned (hnot _ hl) hr⟩

theorem segments_of_not_mem {w : List α} (h : feed ∉ w) :
    segments feed w = if w = [] then [] else [(w, false)] := by
  induction w with
  | nil => rfl
  | cons c w ih =>
    have hc : c ≠ feed := fun hc => h (hc ▸ List.mem_cons_self)
    rw [segments, if_neg hc, ih fun hm => h (List.mem_cons_of_mem c hm)]
    by_cases hw : w = [] <;> simp [hw]

theorem segments_append {w : List α} (h : feed ∉ w) (r : List α) :
    segments feed (w ++ feed :: r) = (w, true) :: segments feed r := by
  induction w with
  | nil => simp [segments]
  | cons c w ih =>
    have hc : c ≠ feed := fun hc => h (hc ▸ List.mem_cons_self)
    rw [List.cons_append, segments, if_neg hc, ih fun hm => h (List.mem_cons_of_mem c hm)]

theorem segments_append_return (hne : ret ≠ feed) {w : List α} (h : feed ∉ w) (r : List α) :
    segments feed (w ++ ret :: feed :: r) = (w ++ [ret], true) :: segments feed r := by
  rw [List.append_cons, segments_append]
  simp [h, Ne.symm hne]

theorem endStripped_spec (ret : α) (w : List α) :
    w = endStripped ret (w, true) ∨ w = endStripped ret (w, true) ++ [ret] := by
  by_cases hr : w.getLast? = some ret
  · right
    simp only [endStripped, hr, and_self, if_true]
    exact (List.dropLast_append_getLast? _ hr).symm
  · left
    simp [endStripped, hr]

theorem endStripped_return (ret : α) (w : List α) : endStripped ret (w ++ [ret], true) = w := by
  simp [endStripped]

end

def encoded (l : List Char) : List UInt8 := l.flatMap String.utf8EncodeChar

theorem encoded_append (l r : List Char) : encoded (l ++ r) = encoded l ++ encoded r := List.flatMap_append

theorem encoded_nil : encoded [] = [] := rfl

theorem encoded_cons (c : Char) (l : List Char) : encoded (c :: l) = String.utf8EncodeChar c ++ encoded l :=
  List.flatMap_cons

theorem encoded_singleton (c : Char) : encoded [c] = String.utf8EncodeChar c := List.flatMap_singleton ..

/-- A byte below 128 is the code of one character and is part of no other. -/
theorem eq_of_mem_utf8EncodeChar {b : UInt8} (hb : b < 128) {c : Char} (h : b ∈ String.utf8EncodeChar c) :
    c.toNat = b.toNat := by
  have hb : b.toNat < 128 := hb
  -- all bytes of a longer code are between 128 and 256
  have hlong : ∀ n, 128 ≤ n → n < 256 → b ≠ UInt8.ofNat n := by
    rintro n hn hn' rfl
    rw [UInt8.toNat_ofNat'] at hb
    omega
  unfold String.utf8EncodeChar at h
  dsimp only at h
  split at h
  · rename_i hc
    rw [List.mem_singleton.1 h, UInt8.toNat_ofNat', Nat.mod_eq_of_lt (by omega)]
    rfl
  · exfalso
    split_ifs at h
    · rcases List.mem_pair.1 h with h | h
      · exact hlong _ (by omega) (by omega) h
      · exact hlong _ (by omega) (by omega) h
    · simp only [List.mem_cons, List.not_mem_nil, or_false] at h
      rcases h with h | h | h <;> exact hlong _ (by omega) (by omega) h
    · simp only [List.mem_cons, List.not_mem_nil, or_false] at h
      rcases h with h | h | h | h <;> exact hlong _ (by omega) (by omega) h

theorem feed_not_mem_encoded {l : List Char} (h : '\n' ∉ l) : 10 ∉ encoded l := by
  intro hm
  obtain ⟨c, hc, hb⟩ := List.mem_flatMap.1 hm
  have he := eq_of_mem_utf8EncodeChar (by decide) hb
  have hn : c = '\n' := Char.toNat_inj.1 he
  exact h (hn ▸ hc)

/-- Taking the carriage return off an end is the same before and after encoding. -/
theorem endStripped_encoded (l : List Char) (b : Bool) :
    endStripped 13 (encoded l, b) = encoded (endStripped '\r' (l, b)) := by
  unfold endStripped
  rcases List.eq_nil_or_concat' l with rfl | ⟨l, c, rfl⟩
  · cases b <;> rfl
  · rw [encoded_append, encoded_singleton, List.getLast?_append_of_ne_nil _ String.utf8EncodeChar_ne_nil,
      List.getLast?_concat]
    by_cases hc : c = '\r'
    · have hcr : String.utf8EncodeChar '\r' = [13] := by decide
      rw [hc, hcr]
      cases b
      · simp [encoded_append, encoded_singleton, hcr]
      · simp
    · have hlast : (String.utf8EncodeChar c).getLast? ≠ some 13 := by
        intro hl
        have he := eq_of_mem_utf8EncodeChar (by decide) (List.mem_of_getLast? hl)
        exact hc (Char.toNat_inj.1 he)
      rw [if_neg (by simp [hlast]), if_neg (by simp [hc]), encoded_append, encoded_singleton]

theorem bytes_toUTF8 (t : String) : t.toUTF8.data.toList = encoded t.toList := by
  conv => lhs; rw [← String.ofList_toList (s := t)]
  rw [String.toUTF8_eq_toByteArray, String.toByteArray_ofList, List.utf8Encode, List.data_toByteArray]
  rfl

theorem decoded_eq_ok_iff {l : List UInt8} {s : String} : decoded l = .ok s ↔ l = encoded s.toList := by
  have hb : ∀ s : String, l = encoded s.toList ↔ (⟨l.toArray⟩ : ByteArray) = s.toByteArray := by
    intro s
    rw [← bytes_toUTF8, String.toUTF8_eq_toByteArray, ByteArray.ext_iff, ← Array.toList_inj]
  rw [hb, decoded, String.fromUTF8?]
  by_cases hv : ByteArray.IsValidUTF8 ⟨l.toArray⟩
  · rw [dif_pos hv]
    change Except.ok _ = _ ↔ _
    rw [Except.ok.injEq, ← String.toByteArray_inj]
    rfl
  · rw [dif_neg hv]
    constructor
    · intro h
      cases h
    · intro h
      rw [h] at hv
      exact absurd s.isValidUTF8 hv

theorem decoded_encoded (l : List Char) : decoded (encoded l) = .ok (String.ofList l) := by
  rw [decoded_eq_ok_iff, String.toList_ofList]

/-- A code does not end in another one. -/
theorem eq_of_append_code {x y : List UInt8} {c d : Char}
    (h : x ++ String.utf8EncodeChar c = y ++ String.utf8EncodeChar d) : x = y := by
  -- the first byte of a code is told from all others
  have hfirst : ∀ (z : List UInt8) (c d : Char),
      String.utf8EncodeChar c = z ++ String.utf8EncodeChar d → z = [] := by
    intro z c d he
    have hpos : 0 < (String.utf8EncodeChar d).length :=
      List.length_pos_iff.2 String.utf8EncodeChar_ne_nil
    have hlen : z.length < (String.utf8EncodeChar c).length := by
      rw [he, List.length_append]
      omega
    have hd : (String.utf8EncodeChar c)[z.length].IsUTF8FirstByte := by
      have hz : (String.utf8EncodeChar c)[z.length] = (String.utf8EncodeChar d)[0] := by
        simp only [he, List.getElem_append_right (Nat.le_refl _), Nat.sub_self]
      rw [hz]
      exact UInt8.isUTF8FirstByte_getElem_utf8EncodeChar.2 rfl
    exact List.length_eq_zero_iff.1 (UInt8.isUTF8FirstByte_getElem_utf8EncodeChar.1 hd)
  rcases List.append_eq_append_iff.1 h with ⟨z, hy, hc⟩ | ⟨z, hx, hd⟩
  · rw [hy, hfirst z c d hc, List.append_nil]
  · rw [hx, hfirst z d c hd, List.append_nil]

/-- What stands before an encoded text in an encoded text is encoded itself. -/
theorem encoded_of_append {l : List UInt8} {e m : List Char} (h : l ++ encoded e = encoded m) :
    ∃ m', l = encoded m' := by
  induction e using List.reverseRecOn generalizing m with
  | nil => exact ⟨m, by rw [← h]; exact (List.append_nil l).symm⟩
  | append_singleton e c ih =>
    rcases List.eq_nil_or_concat' m with rfl | ⟨m, d, rfl⟩
    · rw [encoded_append, encoded_singleton] at h
      have hn := congrArg List.length h
      have hpos : 0 < (String.utf8EncodeChar c).length :=
        List.length_pos_iff.2 String.utf8EncodeChar_ne_nil
      simp only [List.length_append, encoded, List.flatMap_nil, List.length_nil] at hn
      omega
    · rw [encoded_append, encoded_append, encoded_singleton, encoded_singleton, ← List.append_assoc] at h
      exact ih (eq_of_append_code h)

theorem decoded_append (l : List UInt8) (e : List Char) :
    decoded (l ++ encoded e) = (decoded l).map (· ++ String.ofList e) := by
  cases hl : decoded l with
  | ok s =>
    rw [decoded_eq_ok_iff] at hl
    rw [Except.map, decoded_eq_ok_iff, hl, String.toList_append, String.toList_ofList, encoded_append]
  | error f =>
    cases hle : decoded (l ++ encoded e) with
    | ok s =>
      obtain ⟨m, hm⟩ := encoded_of_append (decoded_eq_ok_iff.1 hle)
      rw [hm, decoded_encoded] at hl
      cases hl
    | error g =>
      have hfault : ∀ {l : List UInt8} {f : ReadFault}, decoded l = .error f → f = .notUtf8 := by
        intro l f h
        unfold decoded at h
        split at h
        · cases h; rfl
        · cases h
      rw [hfault hl, hfault hle]
      rfl

theorem encoded_eq_nil_iff {l : List Char} : encoded l = [] ↔ l = [] := by
  constructor
  · intro h
    have hd := decoded_encoded l
    rw [h, ← encoded_nil, decoded_encoded, Except.ok.injEq, String.ofList_inj] at hd
    exact hd.symm
  · rintro rfl
    rfl

theorem encoded_fed (l t : List Char) : encoded (l ++ '\n' :: t) = encoded l ++ 10 :: encoded t := by
  rw [encoded_append, encoded_cons]
  rfl

theorem encoded_returned (l t : List Char) :
    encoded (l ++ '\r' :: '\n' :: t) = encoded l ++ 13 :: 10 :: encoded t := by
  rw [encoded_append, encoded_cons, encoded_cons]
  rfl

theorem Lined.encoded {ls : List (List Char)} {t : List Char} (h : Lined '\n' '\r' ls t) :
    Lined 10 13 (ls.map encoded) (encoded t) := by
  induction h with
  | nothing => exact .nothing
  | unended hl => exact .unended (feed_not_mem_encoded hl)
  | fed hl _ ih =>
    rw [encoded_fed]
    exact .fed (feed_not_mem_encoded hl) ih
  | returned hl _ ih =>
    rw [encoded_returned]
    exact .returned (feed_not_mem_encoded hl) ih

/-- The lines of the bytes of a text are the lines of the text. -/
theorem decoded_byteLines (t : String) : (byteLines t.toUTF8).map decoded = (linesOf t).map .ok := by
  have hone : ∀ w b, decoded (endStripped 13 (Text.encoded w, b)) =
      .ok (String.ofList (endStripped '\r' (w, b))) := by
    intro w b
    rw [endStripped_encoded, decoded_encoded]
  rw [byteLines, linesOf, bytes_toUTF8]
  generalize t.toList = t
  obtain ⟨ls, h⟩ := exists_lined '\n' '\r' t
  induction h with
  | nothing => rfl
  | @unended l hl =>
    rw [segments_of_not_mem hl, segments_of_not_mem (feed_not_mem_encoded hl)]
    by_cases hn : l = []
    · rw [hn]
      rfl
    · simp [hn, encoded_eq_nil_iff, hone]
  | @fed l t ls hl _ ih =>
    rw [encoded_fed, segments_append hl, segments_append (feed_not_mem_encoded hl)]
    simp only [List.map_cons, hone, ih]
  | @returned l t ls hl _ ih =>
    rw [encoded_returned, segments_append_return (by decide) hl,
      segments_append_return (by decide) (feed_not_mem_encoded hl)]
    simp only [List.map_cons, endStripped_return, decoded_encoded, ih]

end Text

end ProviderRegistry
