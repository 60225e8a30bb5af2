/-!
The order of texts by code point, which is also the order of their UTF-8 bytes. Keys, class names
and origins are listed in it.
-/

namespace ProviderRegistry.Text

def precedesChars : List Char → List Char → Bool
  | [], _ => true
  | _ :: _, [] => false
  | a :: l, b :: r =>
    if a.toNat < b.toNat then true else if b.toNat < a.toNat then false else precedesChars l r

/-- Whether `a` comes before `b` or is the same text. -/
def precedes (a b : String) : Bool := precedesChars a.toList b.toList

theorem precedesChars_refl (l : List Char) : precedesChars l l := by
  induction l with
  | nil => rfl
  | cons a l ih => simp [precedesChars, ih]

theorem precedesChars_total (l r : List Char) : precedesChars l r || precedesChars r l := by
  induction l generalizing r with
  | nil => simp [precedesChars]
  | cons a l ih =>
    cases r with
    | nil => simp [precedesChars]
    | cons b r =>
      simp only [precedesChars]
      rcases Nat.lt_trichotomy a.toNat b.toNat with h | h | h
      · simp [h]
      · simpa [h] using ih r
      · simp [h]

theorem precedesChars_trans {l m r : List Char} (h : precedesChars l m)
    (h' : precedesChars m r) : precedesChars l r := by
  induction l generalizing m r with
  | nil => rfl
  | cons a l ih =>
    match m, r with
    | [], _ => simp [precedesChars] at h
    | _ :: _, [] => simp [precedesChars] at h'
    | b :: m, c :: r =>
      simp only [precedesChars] at h h' ⊢
      grind

theorem precedesChars_antisymm {l r : List Char} (h : precedesChars l r)
    (h' : precedesChars r l) : l = r := by
  induction l generalizing r with
  | nil => cases r <;> simp_all [precedesChars]
  | cons a l ih =>
    cases r with
    | nil => simp [precedesChars] at h
    | cons b r =>
      simp only [precedesChars] at h h'
      have hn : a.toNat = b.toNat := by grind
      have hc : a = b := Char.toNat_inj.1 hn
      subst hc
      simp at h h'
      rw [ih h h']

end ProviderRegistry.Text
