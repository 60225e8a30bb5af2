import ProviderRegistry.Proofs.EncodedLines
import ProviderRegistry.Proofs.SortedTable

/-! The order of texts is the order of the bytes that encode them. The codes of two characters differ in a
byte before one of them ends, and there the greater character has the greater byte. -/

namespace ProviderRegistry.Text

def bytes (t : String) : List UInt8 := t.toUTF8.data.toList

theorem ofNat_cons_lt {m n : Nat} (h : m < n) (hn : n < 256) (x y : List UInt8) :
    UInt8.ofNat m :: x < UInt8.ofNat n :: y := by
  refine List.cons_lt_cons_iff.2 (.inl ?_)
  rw [UInt8.lt_iff_toNat_lt, UInt8.toNat_ofNat', UInt8.toNat_ofNat', Nat.mod_eq_of_lt (by omega),
    Nat.mod_eq_of_lt (by omega)]
  exact h

/-- Where all digits of two numbers agree up to one, that one decides, or those behind it do. -/
theorem digit_cons_lt {u v d o : Nat} (hd : 0 < d) (ho : o + d ≤ 256) (hhigh : u / d = v / d) (h : u ≤ v)
    {x y : List UInt8} (hx : u = v → x < y) : UInt8.ofNat (u % d + o) :: x < UInt8.ofNat (v % d + o) :: y := by
  rcases Nat.eq_or_lt_of_le h with rfl | h
  · exact List.cons_lt_cons_iff.2 (.inr ⟨rfl, hx rfl⟩)
  · have hu := Nat.div_add_mod u d
    have hv := Nat.div_add_mod v d
    have hlt := Nat.mod_lt v hd
    rw [hhigh] at hu
    exact ofNat_cons_lt (by omega) (by omega) x y

/-- Of two characters the lesser one has the lesser code, whatever follows. -/
theorem utf8EncodeChar_lt {a b : Char} (h : a.toNat < b.toNat) (x y : List UInt8) :
    String.utf8EncodeChar a ++ x < String.utf8EncodeChar b ++ y := by
  have ha : a.val.toNat = a.toNat := rfl
  have hb : b.val.toNat = b.toNat := rfl
  have hn : b.toNat < 1114112 := by
    rcases b.valid with h | ⟨-, h⟩
    · exact lt_trans h (by decide)
    · exact h
  simp only [String.utf8EncodeChar, ha, hb]
  generalize a.toNat = m at *
  generalize b.toNat = n at *
  -- the first bytes decide unless the codes have the same length, of two bytes or more
  split_ifs <;> simp only [List.cons_append, List.nil_append] <;>
    try first | omega | exact ofNat_cons_lt (by omega) (by omega) _ _
  · refine digit_cons_lt (by decide) (by decide) (by omega) (by omega) fun h₁ => ?_
    exact digit_cons_lt (by decide) (by decide) (by omega) (by omega) fun h₂ => by omega
  · refine digit_cons_lt (by decide) (by decide) (by omega) (by omega) fun h₁ => ?_
    refine digit_cons_lt (by decide) (by decide) (by omega) (by omega) fun h₂ => ?_
    exact digit_cons_lt (by decide) (by decide) (by omega) (by omega) fun h₃ => by omega
  · refine digit_cons_lt (by decide) (by decide) (by omega) (by omega) fun h₁ => ?_
    refine digit_cons_lt (by decide) (by decide) (by omega) (by omega) fun h₂ => ?_
    refine digit_cons_lt (by decide) (by decide) (by omega) (by omega) fun h₃ => ?_
    exact digit_cons_lt (by decide) (by decide) (by omega) (by omega) fun h₄ => by omega

theorem encoded_lt {l r : List Char} (h : precedesChars l r) (hne : l ≠ r) : encoded l < encoded r := by
  induction l generalizing r with
  | nil =>
    cases r with
    | nil => exact absurd rfl hne
    | cons b r =>
      rw [encoded_nil, encoded_cons]
      cases hb : String.utf8EncodeChar b with
      | nil => exact absurd hb String.utf8EncodeChar_ne_nil
      | cons c cs => exact List.nil_lt_cons ..
  | cons a l ih =>
    cases r with
    | nil => cases h
    | cons b r =>
      rw [encoded_cons, encoded_cons]
      simp only [precedesChars] at h
      rcases Nat.lt_trichotomy a.toNat b.toNat with hab | hab | hab
      · exact utf8EncodeChar_lt hab _ _
      · have hc : a = b := Char.toNat_inj.1 hab
        subst hc
        have hlr : precedesChars l r := by simpa using h
        exact List.append_left_lt (ih hlr fun he => hne (by rw [he]))
      · simp [hab, Nat.lt_asymm hab] at h

theorem Before.bytes_lt {a b : String} (h : Before a b) : bytes a < bytes b := by
  rw [bytes, bytes, bytes_toUTF8, bytes_toUTF8]
  exact encoded_lt h.1 fun he => h.2 (String.toList_inj.1 he)

end ProviderRegistry.Text
