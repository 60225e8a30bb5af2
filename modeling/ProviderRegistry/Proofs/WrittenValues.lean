import ProviderRegistry.Proofs.QuotedText

/-! Values read back: numbers, flags and lists of texts, each at the end of its line. The reader of
numbers tries a date and a real number before an integer, so a written integer has to be neither: behind
so many digits as a part of a date has stands another digit or the end of the line, and behind all digits
the end of the line. -/

namespace ProviderRegistry.Toml

structure Numeral (n : Nat) (ds : List Char) : Prop where
  digit : ∀ c ∈ ds, c.isDigit
  value : valueOf 10 ds = n
  nonempty : ds ≠ []
  leading : ds.head? = some '0' → ds = ['0']

theorem valueOf_digits {ds : List Char} (h : ∀ c ∈ ds, c.isDigit) :
    valueOf 10 ds = Nat.ofDigitChars 10 ds 0 := by
  rw [valueOf, Nat.ofDigitChars_eq_foldl]
  refine List.foldl_ext _ _ _ fun n c hc => ?_
  simp [digitValue, h c hc]

theorem head?_toDigits (n : Nat) (h : (Nat.toDigits 10 n).head? = some '0') : n = 0 := by
  induction n using Nat.strong_induction_on with
  | _ n ih =>
    rw [Nat.toDigits_eq_if (by decide)] at h
    split_ifs at h with hlt
    · exact (by decide : ∀ n < 10, [n.digitChar].head? = some '0' → n = 0) n hlt h
    · rw [List.head?_append_of_ne_nil _ Nat.toDigits_ne_nil] at h
      have := ih (n / 10) (by omega) h
      omega

theorem numeral_toString (n : Nat) : Numeral n (toString n).toList := by
  have hl : (toString n).toList = Nat.toDigits 10 n := Nat.toList_repr
  have hd : ∀ c ∈ Nat.toDigits 10 n, c.isDigit := fun c => Nat.isDigit_of_mem_toDigits (by decide) le_rfl
  rw [hl]
  refine ⟨hd, ?_, Nat.toDigits_ne_nil, fun h => ?_⟩
  · rw [valueOf_digits hd, Nat.ofDigitChars_toDigits (by decide) le_rfl]
  · rw [head?_toDigits n h]
    rfl

section

variable {n k v : Nat} {c : Char} {ds r rest : List Char}

theorem fixedDigits_line (h : fixedDigits k (ds ++ '\n' :: rest) = some (v, r)) :
    r = ds.drop k ++ '\n' :: rest := by
  simp only [fixedDigits, Option.ite_none_right_eq_some, Option.some.injEq, Prod.mk.injEq] at h
  obtain ⟨⟨hl, hd⟩, -, rfl⟩ := h
  have hk : k ≤ ds.length := by
    by_contra hlt
    have hfeed : '\n' ∈ (ds ++ '\n' :: rest).take k := by
      obtain ⟨j, hj⟩ : ∃ j, k - ds.length = j + 1 := ⟨k - ds.length - 1, by omega⟩
      rw [List.take_append, hj, List.take_succ_cons]
      exact List.mem_append_right _ List.mem_cons_self
    exact absurd (List.all_eq_true.1 hd _ hfeed) (by decide)
  rw [List.drop_append_of_le_length hk]

theorem expect_line (hc : ¬ c.isDigit) (hn : c ≠ '\n') (hd : ∀ d ∈ ds, d.isDigit) (k : Nat)
    (rest : List Char) : expect c (ds.drop k ++ '\n' :: rest) = none := by
  cases hs : ds.drop k with
  | nil => simp [expect, hn]
  | cons d r =>
    have hmem : d ∈ ds := List.mem_of_mem_drop (by rw [hs]; exact List.mem_cons_self)
    have hne : c ≠ d := fun h => hc (h ▸ hd d hmem)
    simp [expect, hne]

theorem date_line (hd : ∀ d ∈ ds, d.isDigit) (rest : List Char) : date (ds ++ '\n' :: rest) = none := by
  have hday : day? (ds ++ '\n' :: rest) = none := by
    rw [day?]
    cases h : fixedDigits 4 (ds ++ '\n' :: rest) with
    | none => rfl
    | some p =>
      have hnone := expect_line (c := '-') (by decide) (by decide) hd 4 rest
      rw [← fixedDigits_line h] at hnone
      simp [hnone]
  have htime : time? (ds ++ '\n' :: rest) = none := by
    rw [time?, twoDigits]
    cases h : fixedDigits 2 (ds ++ '\n' :: rest) with
    | none => rfl
    | some p =>
      have hnone := expect_line (c := ':') (by decide) (by decide) hd 2 rest
      rw [← fixedDigits_line h] at hnone
      simp only
      split_ifs <;> simp [hnone]
  rw [date, hday, htime]
  rfl

theorem digitRun_line (hd : ∀ d ∈ ds, d.isDigit) (rest : List Char) :
    digitRun Char.isDigit (ds ++ '\n' :: rest) = (ds, '\n' :: rest) := by
  induction ds with
  | nil => simp [digitRun]
  | cons d ds ih =>
    obtain ⟨h, hds⟩ := List.forall_mem_cons.1 hd
    rw [List.cons_append, digitRun, if_pos h, ih hds]

theorem Numeral.decimalDigits_line (h : Numeral n ds) (rest : List Char) :
    decimalDigits (ds ++ '\n' :: rest) = some (ds, '\n' :: rest) := by
  obtain ⟨hd, -, hne, hlead⟩ := h
  cases ds with
  | nil => exact absurd rfl hne
  | cons d ds =>
    by_cases hz : d = '0'
    · rw [hlead (by rw [hz]; rfl)]
      rfl
    · have hfirst : d.isDigit := hd d List.mem_cons_self
      rw [List.cons_append, decimalDigits.eq_2 _ (by simp [hz]), ← List.cons_append, digits?,
        digitRun_line hd]
      simp [hfirst]

theorem sign_digit (h : c.isDigit) (r : List Char) : sign (c :: r) = (false, c :: r) := by
  unfold sign
  split
  · simp_all [Char.isDigit]
  · simp_all [Char.isDigit]
  · rfl

theorem Numeral.sign_line (h : Numeral n ds) (rest : List Char) :
    sign (ds ++ '\n' :: rest) = (false, ds ++ '\n' :: rest) := by
  obtain ⟨d, ds', rfl⟩ := List.exists_cons_of_ne_nil h.nonempty
  exact sign_digit (h.digit d List.mem_cons_self) _

theorem Numeral.real_line (h : Numeral n ds) (rest : List Char) : real (ds ++ '\n' :: rest) = none := by
  have hreal : decimalReal (ds ++ '\n' :: rest) = none := by
    simp [decimalReal, h.sign_line, h.decimalDigits_line, exponent?]
  obtain ⟨d, ds', rfl⟩ := List.exists_cons_of_ne_nil h.nonempty
  have hd := h.digit d List.mem_cons_self
  simp only [real, h.sign_line, hreal]
  split
  · simp_all [Char.isDigit]
  · simp_all [Char.isDigit]
  · rfl

theorem Numeral.integer_line (h : Numeral n ds) (hn : n < 2 ^ 63) (rest : List Char) :
    integer (ds ++ '\n' :: rest) = some (↑n, '\n' :: rest) := by
  have hrange : inRange (n : Int) = some ↑n := by
    rw [inRange, if_pos]
    unfold integerBound
    omega
  have hplain : ∀ x : Char, x ≠ '\n' → ¬ x.isDigit → ∀ r, ds ++ '\n' :: rest ≠ '0' :: x :: r := by
    intro x hx hxd r he
    have hlead : ds = ['0'] := h.leading (by
      obtain ⟨d, ds', rfl⟩ := List.exists_cons_of_ne_nil h.nonempty
      rw [List.cons_append] at he
      rw [List.head_eq_of_cons_eq he]
      rfl)
    rw [hlead] at he
    simp only [List.cons_append, List.nil_append, List.cons.injEq, true_and] at he
    exact hx he.1.symm
  rw [integer.eq_4 _ (hplain 'x' (by decide) (by decide)) (hplain 'o' (by decide) (by decide))
    (hplain 'b' (by decide) (by decide))]
  simp [h.sign_line, h.decimalDigits_line, h.value, hrange]

theorem Numeral.number_line (h : Numeral n ds) (hn : n < 2 ^ 63) (rest : List Char) :
    number (ds ++ '\n' :: rest) = some (.integer n, '\n' :: rest) := by
  rw [number, date_line h.digit, h.real_line, h.integer_line hn]

end

structure Stands (v : Value) (w : List Char) : Prop where
  solid : ∃ d w', w = d :: w' ∧ startsLayout d = false
  read : ∀ rest, value (nestingLimit - 1) (w ++ '\n' :: rest) = some (v, '\n' :: rest)

theorem scalar_digit {c : Char} (h : c.isDigit) (r : List Char) : scalar (c :: r) = number (c :: r) := by
  unfold scalar
  split <;> first | rfl | simp_all [Char.isDigit]

theorem value_scalar {c : Char} (hl : c ≠ '[') (hb : c ≠ '\x7b') (k : Nat) (r : List Char) :
    value k (c :: r) = scalar (c :: r) := by
  cases k with
  | zero => rfl
  | succ k => exact value.eq_4 (c :: r) k (by simp [hl]) (by simp [hb])

theorem stands_number {n : Nat} (hn : n < 2 ^ 63) : Stands (.integer n) (toString n).toList := by
  have h := numeral_toString n
  generalize (toString n).toList = ds at h
  obtain ⟨d, ds', rfl⟩ := List.exists_cons_of_ne_nil h.nonempty
  have hd := h.digit d List.mem_cons_self
  have hne : ∀ c : Char, ¬ c.isDigit → d ≠ c := fun c hc he => hc (he ▸ hd)
  refine ⟨⟨d, ds', rfl, ?_⟩, fun rest => ?_⟩
  · simp [startsLayout, isSpace, hne ' ' (by decide), hne '\t' (by decide), hne '\n' (by decide),
      hne '\r' (by decide), hne '#' (by decide)]
  · rw [List.cons_append, value_scalar (hne _ (by decide)) (hne _ (by decide)), scalar_digit hd,
      ← List.cons_append, h.number_line hn]

theorem stands_flag (b : Bool) : Stands (.flag b) (writtenFlag b).toList := by
  cases b
  · exact ⟨⟨'f', _, rfl, by decide⟩, fun rest => rfl⟩
  · exact ⟨⟨'t', _, rfl, by decide⟩, fun rest => rfl⟩

theorem writtenChars_head (cs : List Char) : ∃ d w, writtenChars cs = d :: w ∧ (d = '"' ∨ d = '\'') := by
  unfold writtenChars
  cases styleOf cs with
  | basic => exact ⟨_, _, rfl, .inl rfl⟩
  | literal => exact ⟨_, _, rfl, .inr rfl⟩
  | longBasic => exact ⟨_, _, rfl, .inl rfl⟩
  | longLiteral => exact ⟨_, _, rfl, .inr rfl⟩

theorem value_writtenChars {rest : List Char} (hr : ∀ q ∈ rest.head?, q ≠ '"' ∧ q ≠ '\'') (k : Nat)
    (cs : List Char) : value k (writtenChars cs ++ rest) = some (.text (String.ofList cs), rest) := by
  have hs := string_writtenChars hr cs
  obtain ⟨d, w, hw, hd⟩ := writtenChars_head cs
  rw [hw, List.cons_append] at hs ⊢
  rcases hd with rfl | rfl
  · rw [value_scalar (by decide) (by decide)]
    simp [scalar, hs]
  · rw [value_scalar (by decide) (by decide)]
    simp [scalar, hs]

theorem writtenChars_solid (cs : List Char) : ∃ d w, writtenChars cs = d :: w ∧ startsLayout d = false := by
  obtain ⟨d, w, hw, hd⟩ := writtenChars_head cs
  refine ⟨d, w, hw, ?_⟩
  rcases hd with rfl | rfl <;> decide

theorem stands_text (s : String) : Stands (.text s) (written s).toList := by
  rw [written, String.toList_ofList]
  refine ⟨writtenChars_solid _, fun rest => ?_⟩
  rw [value_writtenChars (by simp), String.ofList_toList]

section

variable {c : Char} {r cs rest : List Char} {n : Nat}

theorem skipComment_cons (h : startsLayout c = false) (r : List Char) : skipComment (c :: r) = c :: r := by
  simp only [startsLayout, Bool.or_eq_false_iff, beq_eq_false_iff_ne] at h
  unfold skipComment
  split <;> simp_all

theorem skipLines_solid (h : startsLayout c = false) (hs : skipSpaces cs = c :: r) (hn : 0 < n) :
    skipLines n cs = c :: r := by
  obtain ⟨n, rfl⟩ := Nat.exists_eq_add_of_lt hn
  rw [skipLines, hs, skipComment_cons h, newline?_of_solid h]

theorem skipLayout_solid (h : startsLayout c = false) (r : List Char) : skipLayout (c :: r) = c :: r :=
  skipLines_solid h (skipSpaces_cons h r) (Nat.succ_pos _)

theorem skipLayout_line (h : startsLayout c = false) (hs : skipSpaces cs = c :: r) :
    skipLayout ('\n' :: cs) = c :: r := by
  have hpos : 0 < cs.length := by
    rw [List.length_pos_iff]
    rintro rfl
    cases hs
  have hline : skipLayout ('\n' :: cs) = skipLines cs.length cs := rfl
  rw [hline, skipLines_solid h hs hpos]

def itemLines (l : List String) : List Char :=
  l.flatMap fun s => [' ', ' ', ' ', ' '] ++ writtenChars s.toList ++ [',', '\n']

theorem length_le_itemLines (l : List String) : l.length ≤ (itemLines l).length := by
  induction l with
  | nil => rfl
  | cons s l ih =>
    rw [itemLines, List.flatMap_cons, ← itemLines, List.length_append, List.length_append, List.length_cons]
    simp only [List.length_cons]
    omega

theorem listRest_comma {item : Reader Value} {v : Value} {w after : List Char} (h : skipLayout cs = c :: w)
    (hc : c ≠ ']') (hitem : item (c :: w) = some (v, r)) (hr : skipLayout r = ',' :: after) (n : Nat) :
    listRest item (n + 1) cs = (listRest item n after).map fun p => (v :: p.1, p.2) := by
  rw [listRest, h]
  simp [hc, hitem, hr]

theorem listRest_last {item : Reader Value} {v : Value} {w after : List Char} (h : skipLayout cs = c :: w)
    (hc : c ≠ ']') (hitem : item (c :: w) = some (v, r)) (hr : skipLayout r = ']' :: after) (n : Nat) :
    listRest item (n + 1) cs = some ([v], after) := by
  rw [listRest, h]
  simp [hc, hitem, hr]

theorem value_item (k : Nat) (s : String) (hr : ∀ q ∈ r.head?, q ≠ '"' ∧ q ≠ '\'') :
    ∃ c w, writtenChars s.toList ++ r = c :: w ∧ c ≠ ']' ∧ value k (c :: w) = some (.text s, r) := by
  have hitem := value_writtenChars hr k s.toList
  obtain ⟨c, w, hw, hc⟩ := writtenChars_head s.toList
  rw [String.ofList_toList, hw] at hitem
  refine ⟨c, w ++ r, by rw [hw, List.cons_append], ?_, hitem⟩
  rcases hc with rfl | rfl <;> decide

theorem skipLayout_written (s : String) (r : List Char) :
    skipLayout (writtenChars s.toList ++ r) = writtenChars s.toList ++ r := by
  obtain ⟨d, w, hw, hd⟩ := writtenChars_solid s.toList
  rw [hw, List.cons_append, skipLayout_solid hd]

theorem skipLayout_writtenLine (s : String) (r : List Char) :
    skipLayout ('\n' :: ' ' :: ' ' :: ' ' :: ' ' :: (writtenChars s.toList ++ r)) =
      writtenChars s.toList ++ r := by
  obtain ⟨d, w, hw, hd⟩ := writtenChars_solid s.toList
  rw [hw, List.cons_append]
  exact skipLayout_line hd (skipSpaces_cons hd _)

theorem listRest_itemLines (k : Nat) {l : List String} (hn : l.length < n) (rest : List Char) :
    listRest (value k) n ('\n' :: (itemLines l ++ ']' :: rest)) = some (l.map .text, rest) := by
  induction l generalizing n with
  | nil =>
    obtain ⟨n, rfl⟩ := Nat.exists_eq_add_of_lt hn
    have hskip : skipLayout ('\n' :: ']' :: rest) = ']' :: rest :=
      skipLayout_line (by decide) (skipSpaces_cons (by decide) _)
    rw [itemLines, List.flatMap_nil, List.nil_append, listRest, hskip]
    rfl
  | cons s l ih =>
    obtain ⟨n, rfl⟩ : ∃ m, n = m + 1 := ⟨n - 1, by omega⟩
    have hskip := skipLayout_writtenLine s (',' :: '\n' :: (itemLines l ++ ']' :: rest))
    have hcomma := skipLayout_solid (c := ',') (by decide) ('\n' :: (itemLines l ++ ']' :: rest))
    have hlines : itemLines (s :: l) ++ ']' :: rest = ' ' :: ' ' :: ' ' :: ' ' ::
        (writtenChars s.toList ++ ',' :: '\n' :: (itemLines l ++ ']' :: rest)) := by
      simp [itemLines]
    obtain ⟨c, w, hw, hc, hitem⟩ :=
      value_item k s (r := ',' :: '\n' :: (itemLines l ++ ']' :: rest)) (by simp)
    rw [hlines, listRest_comma (hskip.trans hw) hc hitem hcomma]
    simp [ih (n := n) (by simpa using hn)]

theorem toList_writtenList (s s' : String) (l : List String) :
    (writtenList (s :: s' :: l)).toList = '[' :: '\n' :: (itemLines (s :: s' :: l) ++ [']']) := by
  have hlines : (String.join ((s :: s' :: l).map fun s => "    " ++ written s ++ ",\n")).toList =
      itemLines (s :: s' :: l) := by
    generalize s :: s' :: l = l
    induction l with
    | nil => rfl
    | cons s l ih =>
      rw [List.map_cons, String.join_cons, String.toList_append, ih, itemLines, itemLines, List.flatMap_cons]
      simp [written]
  simp only [writtenList, String.toList_append, hlines]
  rfl

theorem value_list (k : Nat) (r : List Char) :
    value (k + 1) ('[' :: r) = (listRest (value k) (r.length + 1) r).map fun p => (.list p.1, p.2) := rfl

theorem stands_list (l : List String) : Stands (.list (l.map .text)) (writtenList l).toList := by
  match l with
  | [] => exact ⟨⟨'[', _, rfl, by decide⟩, fun rest => rfl⟩
  | [s] =>
    have hl : (writtenList [s]).toList = '[' :: (writtenChars s.toList ++ [']']) := by
      simp [writtenList, written]
    have hend := skipLayout_solid (c := ']') (by decide)
    rw [hl]
    refine ⟨⟨'[', _, rfl, by decide⟩, fun rest => ?_⟩
    obtain ⟨c, w, hw, hc, hitem⟩ :=
      value_item (nestingLimit - 2) s (r := ']' :: '\n' :: rest) (by simp)
    rw [List.cons_append, List.append_assoc, show nestingLimit - 1 = nestingLimit - 2 + 1 from rfl,
      value_list, List.singleton_append,
      listRest_last ((skipLayout_written s _).trans hw) hc hitem (hend _)]
    rfl
  | s :: s' :: l =>
    have hlen := length_le_itemLines (s :: s' :: l)
    rw [toList_writtenList]
    refine ⟨⟨'[', _, rfl, by decide⟩, fun rest => ?_⟩
    simp only [List.cons_append, List.append_assoc, List.nil_append]
    rw [show nestingLimit - 1 = nestingLimit - 2 + 1 from rfl, value_list, listRest_itemLines]
    · rfl
    · simp only [List.length_cons, List.length_append] at hlen ⊢
      omega

end

end ProviderRegistry.Toml
