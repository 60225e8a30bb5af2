import Mathlib.Tactic
import ProviderRegistry.Toml.Written
import ProviderRegistry.Toml.Document

/-! Texts read back from a document. A text is written as one of four kinds of strings, and the reader
of strings takes any of them off the front of what follows and gives the text, as long as what follows
does not start with a quote. In a long string the quotes of the text that stand right before the closing
ones are read together with these, so the induction along the text keeps the quotes that are not read
yet in front. -/

namespace ProviderRegistry.Toml

variable {c q : Char} {cs r rest : List Char} {k n run : Nat}

def startsLayout (c : Char) : Bool := isSpace c || c == '\n' || c == '\r' || c == '#'

theorem skipSpaces_cons (h : startsLayout c = false) (r : List Char) : skipSpaces (c :: r) = c :: r := by
  simp only [startsLayout, Bool.or_eq_false_iff] at h
  rw [skipSpaces, List.dropWhile_cons_of_neg (by simp [h.1.1.1])]

theorem newline?_cons (hn : c ≠ '\n') (hr : c ≠ '\r') (r : List Char) : newline? (c :: r) = none := by
  unfold newline?
  split <;> simp_all

theorem newline?_of_solid (h : startsLayout c = false) (r : List Char) : newline? (c :: r) = none := by
  simp only [startsLayout, Bool.or_eq_false_iff, beq_eq_false_iff_ne] at h
  exact newline?_cons h.1.1.2 h.1.2 r

theorem ne_of_plain (h : isPlain c) : c ≠ '\n' ∧ c ≠ '\r' := by
  constructor <;> rintro rfl <;> simp [isPlain] at h

/-- How a text shows a character: as it is, or as an escape. -/
inductive Shown (c : Char) : List Char → Prop
  | plain (h : isPlain c) (hq : c ≠ '"') (hb : c ≠ '\\') : Shown c [c]
  | escaped {d : Char} {e : List Char} (h : ∀ r, escape (d :: (e ++ r)) = some (c, r))
      (hd : startsLayout d = false) : Shown c ('\\' :: d :: e)

theorem codePoint_append {ds : List Char} (hl : ds.length = n) (h : codePoint n ds = some (c, []))
    (r : List Char) : codePoint n (ds ++ r) = some (c, r) := by
  subst hl
  simp only [codePoint, List.take_length, List.take_left, List.drop_left] at h ⊢
  cases hm : ds.mapM hexValue with
  | none => simp [hm] at h
  | some vs =>
    simp only [hm, Option.ite_none_right_eq_some, Option.some.injEq, Prod.mk.injEq] at h ⊢
    exact ⟨h.1, h.2.1, trivial⟩

/-- The controls are few: each is named by its four digits. -/
theorem unicodeEscape_control : ∀ n < 128, ¬ isPlain (Char.ofNat n) →
    ∃ ds, unicodeEscape (Char.ofNat n) = '\\' :: 'u' :: ds ∧ ds.length = 4 ∧
      codePoint 4 ds = some (Char.ofNat n, []) := by
  intro n hn hp
  refine ⟨(unicodeEscape (Char.ofNat n)).drop 2, ?_⟩
  revert n
  decide +kernel

theorem shown_unicodeEscape (h : ¬ isPlain c) : Shown c (unicodeEscape c) := by
  have hlt : c.toNat < 128 := by
    simp only [isPlain, Bool.or_eq_true, Bool.and_eq_true, decide_eq_true_eq, not_or] at h
    omega
  obtain ⟨ds, he, hl, hc⟩ := unicodeEscape_control c.toNat hlt (by rwa [Char.ofNat_toNat])
  rw [Char.ofNat_toNat] at he hc
  rw [he]
  exact .escaped (fun r => codePoint_append hl hc r) (by decide)

theorem shown_escapedChar (c : Char) : Shown c (escapedChar c) := by
  unfold escapedChar
  split_ifs with h1 h2 h3 h4 h5 h6 h7 h8
  · subst h1; exact .escaped (fun _ => rfl) (by decide)
  · subst h2; exact .escaped (fun _ => rfl) (by decide)
  · subst h3; exact .escaped (fun _ => rfl) (by decide)
  · subst h4; exact .escaped (fun _ => rfl) (by decide)
  · subst h5; exact .escaped (fun _ => rfl) (by decide)
  · subst h6; exact .escaped (fun _ => rfl) (by decide)
  · subst h7; exact .escaped (fun _ => rfl) (by decide)
  · exact .plain h8 h6 h7
  · exact shown_unicodeEscape h8

theorem Shown.head {w : List Char} (h : Shown c w) :
    ∃ d w', w = d :: w' ∧ d ≠ '"' ∧ d ≠ '\n' ∧ d ≠ '\r' := by
  cases h with
  | plain hp hq hb => exact ⟨_, _, rfl, hq, ne_of_plain hp⟩
  | escaped h hd => exact ⟨_, _, rfl, by decide⟩

theorem basicRest_shown {w : List Char} (h : Shown c w) (n : Nat) (r : List Char) :
    basicRest (n + 1) (w ++ r) = prepend [c] (basicRest n r) := by
  cases h with
  | plain hp hq hb => simp [basicRest, hp]
  | escaped h hd => simp [basicRest, h]

theorem basicRest_escapedLine (hn : cs.length < n) (rest : List Char) :
    basicRest n (escapedLine cs ++ '"' :: rest) = some (cs, rest) := by
  induction cs generalizing n with
  | nil =>
    obtain ⟨n, rfl⟩ := Nat.exists_eq_add_of_lt hn
    rfl
  | cons c cs ih =>
    cases n with
    | zero => cases hn
    | succ n =>
      rw [escapedLine, List.flatMap_cons, List.append_assoc, basicRest_shown (shown_escapedChar c),
        ← escapedLine, ih (Nat.lt_of_succ_lt_succ hn)]
      rfl

theorem literalRest_append (h : ∀ c ∈ cs, isPlain c ∧ c ≠ '\'') (rest : List Char) :
    literalRest (cs ++ '\'' :: rest) = some (cs, rest) := by
  induction cs with
  | nil => rfl
  | cons c cs ih =>
    obtain ⟨hc, hcs⟩ := List.forall_mem_cons.1 h
    rw [List.cons_append, literalRest.eq_3 _ _ hc.2, if_pos hc.1, ih hcs]
    rfl

theorem takeWhile_run (k : Nat) (hr : r.head? ≠ some q) :
    (List.replicate k q ++ r).takeWhile (· == q) = List.replicate k q := by
  rw [List.takeWhile_append_of_pos (by simp)]
  cases r with
  | nil => simp
  | cons c r =>
    have hc : c ≠ q := fun h => hr (h ▸ rfl)
    simp [hc]

theorem quotes_held (hk : k < 3) (hr : r.head? ≠ some q) :
    quotes q (List.replicate k q ++ r) = (List.replicate k q, r, false) := by
  simp [quotes, takeWhile_run k hr, hk]

theorem quotes_closing (hk : k < 3) (hr : rest.head? ≠ some q) :
    quotes q (List.replicate k q ++ q :: q :: q :: rest) = (List.replicate k q, rest, true) := by
  have hs : List.replicate k q ++ q :: q :: q :: rest = List.replicate (k + 3) q ++ rest := by
    rw [List.replicate_add, List.append_assoc]
    rfl
  have hm : min k 2 = k := by omega
  simp [quotes, hs, takeWhile_run (k + 3) hr, hm]

/-- A reader of long strings takes a run of quotes at once. -/
def TakesRuns (q : Char) (read : Nat → Reader (List Char)) : Prop :=
  ∀ n r, read (n + 1) (q :: r) =
    if (quotes q (q :: r)).2.2 then some ((quotes q (q :: r)).1, (quotes q (q :: r)).2.1)
    else prepend (quotes q (q :: r)).1 (read n (quotes q (q :: r)).2.1)

theorem takesRuns_longBasicRest : TakesRuns '"' longBasicRest := fun n r => by simp [longBasicRest]

theorem takesRuns_longLiteralRest : TakesRuns '\'' longLiteralRest := fun n r => by simp [longLiteralRest]

section

variable {read : Nat → Reader (List Char)}

/-- Quotes that the text holds are read in one step; where there are none, no step is taken. -/
theorem TakesRuns.held (h : TakesRuns q read) (hk : k < 3) (hr : r.head? ≠ some q) (n : Nat) :
    ∃ m, n < m + k ∧ read (n + 1) (List.replicate k q ++ r) = prepend (List.replicate k q) (read m r) := by
  cases k with
  | zero => exact ⟨n + 1, by omega, by simp [prepend]⟩
  | succ k =>
    have hq := quotes_held hk hr
    rw [List.replicate_succ, List.cons_append] at hq ⊢
    exact ⟨n, by omega, by simp [h n, hq]⟩

theorem TakesRuns.closing (h : TakesRuns q read) (hk : k < 3) (hr : rest.head? ≠ some q) (n : Nat) :
    read (n + 1) (List.replicate k q ++ q :: q :: q :: rest) = some (List.replicate k q, rest) := by
  have hq := quotes_closing hk hr
  cases k with
  | zero =>
    rw [List.replicate_zero, List.nil_append] at hq ⊢
    simp [h n, hq]
  | succ k =>
    rw [List.replicate_succ, List.cons_append] at hq ⊢
    simp [h n, hq]

/-- The inside of a long string, behind so many quotes: what stands for each character is read by
itself, but for the quotes, of which no more than two stand in a row. -/
inductive Spelled (q : Char) (read : Nat → Reader (List Char)) : Nat → List Char → List Char → Prop
  | nothing {run : Nat} : Spelled q read run [] []
  | quote {run : Nat} {cs t : List Char} (h : run < 2) (hs : Spelled q read (run + 1) cs t) :
      Spelled q read run (q :: cs) (q :: t)
  | single {run : Nat} {c d : Char} {cs w t : List Char} (hq : d ≠ q) (hr : d ≠ '\r')
      (hn : d = '\n' → c = '\n')
      (hread : ∀ n r, read (n + 1) (d :: w ++ r) = prepend [c] (read n r))
      (hs : Spelled q read 0 cs t) : Spelled q read run (c :: cs) (d :: w ++ t)

namespace Spelled

variable {t : List Char}

theorem length_le (h : Spelled q read run cs t) : cs.length ≤ t.length := by
  induction h with
  | nothing => rfl
  | quote h hs ih => simpa using ih
  | single hq hr hn hread hs ih =>
    simp only [List.length_cons, List.length_append]
    omega

theorem newline?_eq (h : Spelled q read run cs t) (hq : q ≠ '\n' ∧ q ≠ '\r') (hc : '\n' ∉ cs)
    (r : List Char) : newline? (t ++ q :: r) = none := by
  cases h with
  | nothing => exact newline?_cons hq.1 hq.2 _
  | quote h hs => exact newline?_cons hq.1 hq.2 _
  | single hd hr hn hread hs =>
    have hc' := fun hd => hc (hn hd ▸ List.mem_cons_self)
    exact newline?_cons hc' hr _

/-- The inside is read up to the closing quotes, those in front that are not read yet with it. -/
theorem read_eq (h : Spelled q read run cs t) (hf : TakesRuns q read) (hr : rest.head? ≠ some q)
    (hrun : run < 3) (hn : run + cs.length < n) :
    read n (List.replicate run q ++ (t ++ q :: q :: q :: rest)) =
      some (List.replicate run q ++ cs, rest) := by
  induction h generalizing n with
  | nothing =>
    obtain ⟨n, rfl⟩ := Nat.exists_eq_add_of_lt hn
    rw [List.nil_append, hf.closing hrun hr, List.append_nil]
  | @quote run cs t hlt hs ih =>
    rw [List.length_cons] at hn
    have hmore := ih (by omega) (n := n) (by omega)
    rw [List.replicate_succ', List.append_assoc, List.append_assoc] at hmore
    exact hmore
  | @single run c d cs w t hd hnr hnl hread hs ih =>
    rw [List.length_cons] at hn
    obtain ⟨n, rfl⟩ : ∃ m, n = m + 1 := ⟨n - 1, by omega⟩
    obtain ⟨m, hm, hheld⟩ := hf.held (r := d :: w ++ t ++ q :: q :: q :: rest) hrun (by simpa using hd) n
    obtain ⟨m, rfl⟩ : ∃ j, m = j + 1 := ⟨m - 1, by omega⟩
    have hrest := ih (by omega) (n := m) (by omega)
    rw [List.replicate_zero, List.nil_append, List.nil_append] at hrest
    rw [hheld, List.append_assoc, hread, hrest]
    simp [prepend]

end Spelled

end

theorem lineJoin?_cons (h : startsLayout c = false) (r : List Char) : lineJoin? (c :: r) = none := by
  rw [lineJoin?, skipSpaces_cons h, newline?_of_solid h]
  rfl

theorem longBasicRest_shown {w : List Char} (h : Shown c w) (n : Nat) (r : List Char) :
    longBasicRest (n + 1) (w ++ r) = prepend [c] (longBasicRest n r) := by
  cases h with
  | plain hp hq hb => simp [longBasicRest, hp, newline?_cons (ne_of_plain hp).1 (ne_of_plain hp).2]
  | escaped h hd => simp [longBasicRest, h, lineJoin?_cons hd]

theorem Spelled.of_shown {w t : List Char} (h : Shown c w) (hs : Spelled '"' longBasicRest 0 cs t) :
    Spelled '"' longBasicRest run (c :: cs) (w ++ t) := by
  have hread := longBasicRest_shown h
  obtain ⟨d, w', rfl, hq, hn, hr⟩ := h.head
  exact .single hq hr (fun h => absurd h hn) hread hs

theorem spelled_escapedLines (run : Nat) (cs : List Char) :
    Spelled '"' longBasicRest run cs (escapedLines run cs) := by
  induction cs generalizing run with
  | nil => exact .nothing
  | cons c cs ih =>
    rw [escapedLines]
    split_ifs with hq hr hn
    · subst hq
      exact .quote hr (ih (run + 1))
    · subst hq
      exact .of_shown (shown_escapedChar '"') (ih 0)
    · subst hn
      exact .single (d := '\n') (w := []) (by decide) (by decide) (fun h => h)
        (fun n r => by simp [longBasicRest, newline?]) (ih 0)
    · exact .of_shown (shown_escapedChar c) (ih 0)

/-- No more than two quotes stand in a row, those of a run before the text included. -/
def ShortRuns (q : Char) : Nat → List Char → Prop
  | _, [] => True
  | run, c :: cs => if c = q then run < 2 ∧ ShortRuns q (run + 1) cs else ShortRuns q 0 cs

theorem shortRuns_of_foldl (p : Nat × Nat)
    (h : (cs.foldl (fun p c => if c = q then (p.1 + 1, max p.2 (p.1 + 1)) else (0, p.2)) p).2 ≤ 2) :
    p.2 ≤ 2 ∧ ShortRuns q p.1 cs := by
  induction cs generalizing p with
  | nil => exact ⟨h, trivial⟩
  | cons c cs ih =>
    rw [List.foldl_cons] at h
    obtain ⟨hp, hs⟩ := ih _ h
    by_cases hc : c = q
    · simp only [hc, if_true] at hp hs
      exact ⟨by omega, by simp only [ShortRuns, hc, if_true]; exact ⟨by omega, hs⟩⟩
    · simp only [hc, if_false] at hp hs
      exact ⟨hp, by simpa [ShortRuns, hc] using hs⟩

theorem shortRuns_of_longestRun (h : longestRun q cs ≤ 2) : ShortRuns q 0 cs :=
  (shortRuns_of_foldl (0, 0) h).2

theorem spelled_literal (hp : ∀ c ∈ cs, needsEscape c = false) (h : ShortRuns '\'' run cs) :
    Spelled '\'' longLiteralRest run cs cs := by
  induction cs generalizing run with
  | nil => exact .nothing
  | cons c cs ih =>
    obtain ⟨hc, hcs⟩ := List.forall_mem_cons.1 hp
    rw [ShortRuns] at h
    split_ifs at h with hq
    · subst hq
      exact .quote h.1 (ih hcs h.2)
    · by_cases hn : c = '\n'
      · exact .single hq (by rw [hn]; decide) (fun h => h) (w := [])
          (fun n r => by simp [longLiteralRest, newline?, hn]) (ih hcs h)
      · have hplain : isPlain c := by simpa [needsEscape, hn] using hc
        have hnl := ne_of_plain hplain
        exact .single hq hnl.2 (fun h => h) (w := [])
          (fun n r => by simp [longLiteralRest, newline?_cons hnl.1 hnl.2, hplain]) (ih hcs h)

theorem length_le_escapedLine (cs : List Char) : cs.length ≤ (escapedLine cs).length := by
  induction cs with
  | nil => rfl
  | cons c cs ih =>
    obtain ⟨d, w, hw, -⟩ := (shown_escapedChar c).head
    rw [escapedLine, List.flatMap_cons, ← escapedLine, hw, List.length_append, List.length_cons,
      List.length_cons]
    omega

theorem string_basic (hr : rest.head? ≠ some '"') (cs : List Char) :
    string ('"' :: (escapedLine cs ++ '"' :: rest)) = some (cs, rest) := by
  have hnot : ∀ r, escapedLine cs ++ '"' :: rest ≠ '"' :: '"' :: r := by
    intro r h
    cases cs with
    | nil => exact hr (by rw [List.tail_eq_of_cons_eq h]; rfl)
    | cons c cs =>
      obtain ⟨d, w, hw, hd, -⟩ := (shown_escapedChar c).head
      rw [escapedLine, List.flatMap_cons, hw] at h
      exact hd (List.head_eq_of_cons_eq h)
  have hlen := length_le_escapedLine cs
  rw [string.eq_3 _ hnot, basicRest_escapedLine (by rw [List.length_append]; omega)]

theorem string_literal (hr : rest.head? ≠ some '\'') (h : ∀ c ∈ cs, isPlain c ∧ c ≠ '\'') :
    string ('\'' :: (cs ++ '\'' :: rest)) = some (cs, rest) := by
  have hnot : ∀ r, cs ++ '\'' :: rest ≠ '\'' :: '\'' :: r := by
    intro r hw
    cases cs with
    | nil => exact hr (by rw [List.tail_eq_of_cons_eq hw]; rfl)
    | cons c cs => exact (h c List.mem_cons_self).2 (List.head_eq_of_cons_eq hw)
  rw [string.eq_4 _ hnot, literalRest_append h]

def lead (cs : List Char) : List Char := if cs.contains '\n' then ['\n'] else []

theorem Spelled.afterOpening_eq {read : Nat → Reader (List Char)} {t : List Char}
    (h : Spelled q read run cs t) (hq : q ≠ '\n' ∧ q ≠ '\r') (r : List Char) :
    afterOpening (lead cs ++ (t ++ q :: r)) = t ++ q :: r := by
  by_cases hn : '\n' ∈ cs
  · simp [lead, hn, afterOpening, newline?]
  · simp [lead, hn, afterOpening, h.newline?_eq hq hn]

theorem string_longBasic (hr : rest.head? ≠ some '"') (cs : List Char) :
    string ('"' :: '"' :: '"' :: (lead cs ++ (escapedLines 0 cs ++ '"' :: '"' :: '"' :: rest))) =
      some (cs, rest) := by
  have hs := spelled_escapedLines 0 cs
  have hlen := hs.length_le
  rw [string.eq_1, hs.afterOpening_eq (by decide)]
  exact hs.read_eq takesRuns_longBasicRest hr (by decide) (by simp only [List.length_append]; omega)

theorem string_longLiteral (hr : rest.head? ≠ some '\'') (hp : ∀ c ∈ cs, needsEscape c = false)
    (h : longestRun '\'' cs ≤ 2) :
    string ('\'' :: '\'' :: '\'' :: (lead cs ++ (cs ++ '\'' :: '\'' :: '\'' :: rest))) =
      some (cs, rest) := by
  have hs := spelled_literal hp (shortRuns_of_longestRun h)
  rw [string.eq_2, hs.afterOpening_eq (by decide)]
  exact hs.read_eq takesRuns_longLiteralRest hr (by decide) (by simp only [List.length_append]; omega)

theorem styleOf_literal (h : styleOf cs = .literal) : ∀ c ∈ cs, isPlain c ∧ c ≠ '\'' := by
  simp only [styleOf] at h
  split_ifs at h with h1 h2
  simp only [Bool.and_eq_true, Bool.not_eq_true', List.any_eq_false, List.contains_eq_mem,
    decide_eq_false_iff_not] at h2
  obtain ⟨⟨he, hq⟩, hn⟩ := h2
  intro c hc
  have hcn : c ≠ '\n' := fun h => hn (h ▸ hc)
  exact ⟨by simpa [needsEscape, hcn] using he c hc, fun h => hq (h ▸ hc)⟩

theorem styleOf_longLiteral (h : styleOf cs = .longLiteral) :
    (∀ c ∈ cs, needsEscape c = false) ∧ longestRun '\'' cs ≤ 2 := by
  simp only [styleOf] at h
  split_ifs at h with h1 h2 h3 h4
  simpa using h4

theorem string_writtenChars (hr : ∀ q ∈ rest.head?, q ≠ '"' ∧ q ≠ '\'') (cs : List Char) :
    string (writtenChars cs ++ rest) = some (cs, rest) := by
  have hbasic : rest.head? ≠ some '"' := fun h => (hr _ h).1 rfl
  have hliteral : rest.head? ≠ some '\'' := fun h => (hr _ h).2 rfl
  unfold writtenChars
  cases hs : styleOf cs with
  | basic => simpa using string_basic hbasic cs
  | literal => simpa using string_literal hliteral (styleOf_literal hs)
  | longBasic => simpa [lead] using string_longBasic hbasic cs
  | longLiteral =>
    obtain ⟨hp, hrun⟩ := styleOf_longLiteral hs
    simpa [lead] using string_longLiteral hliteral hp hrun

end ProviderRegistry.Toml
