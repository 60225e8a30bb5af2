import ProviderRegistry.Proofs.WrittenValues

/-! Documents read back line by line. A section is its header and an assignment on every line behind it,
each of a bare key. Where no header comes twice, and no key twice below one header, the document holds
the sections in their order, each as the table of its assignments in theirs. -/

namespace ProviderRegistry.Toml

structure Bare (k : String) : Prop where
  nonempty : k.toList ≠ []
  bare : ∀ c ∈ k.toList, isBareKeyChar c

section

variable {k : String} {c : Char} {v : Value} {w r : List Char}

theorem ne_of_bareKeyChar {d : Char} (h : isBareKeyChar c) (hd : isBareKeyChar d = false) : c ≠ d := by
  rintro rfl
  simp [h] at hd

theorem solid_of_bareKeyChar (h : isBareKeyChar c) : startsLayout c = false := by
  have hne := fun d => ne_of_bareKeyChar (d := d) h
  simp [startsLayout, isSpace, hne ' ' (by decide), hne '\t' (by decide), hne '\n' (by decide),
    hne '\r' (by decide), hne '#' (by decide)]

theorem Bare.head (h : Bare k) : ∃ d w, k.toList = d :: w ∧ isBareKeyChar d := by
  obtain ⟨d, w, hw⟩ := List.exists_cons_of_ne_nil h.nonempty
  exact ⟨d, w, hw, h.bare d (by rw [hw]; exact List.mem_cons_self)⟩

theorem keyPart_bare (h : Bare k) (hc : isBareKeyChar c = false) (r : List Char) :
    keyPart (k.toList ++ c :: r) = some (k, c :: r) := by
  have ht : (k.toList ++ c :: r).takeWhile isBareKeyChar = k.toList := by
    rw [List.takeWhile_append_of_pos h.bare, List.takeWhile_cons_of_neg (by simp [hc]), List.append_nil]
  have hempty : k.toList.isEmpty = false := List.isEmpty_eq_false_iff.2 h.nonempty
  obtain ⟨d, w, hw, hd⟩ := h.head
  unfold keyPart
  split
  · rename_i heq
    rw [hw, List.cons_append] at heq
    exact absurd (List.head_eq_of_cons_eq heq) (ne_of_bareKeyChar hd (by decide))
  · rename_i heq
    rw [hw, List.cons_append] at heq
    exact absurd (List.head_eq_of_cons_eq heq) (ne_of_bareKeyChar hd (by decide))
  · simp [ht, hempty]

theorem key_bare (h : Bare k) (hc : isBareKeyChar c = false)
    (hdot : (skipSpaces (c :: r)).head? ≠ some '.') :
    key (k.toList ++ c :: r) = some ([k], skipSpaces (c :: r)) := by
  have hskip : skipSpaces (k.toList ++ c :: r) = k.toList ++ c :: r := by
    obtain ⟨d, w, hw, hd⟩ := h.head
    rw [hw]
    exact skipSpaces_cons (solid_of_bareKeyChar hd) _
  have hparts : keyParts ((k.toList ++ c :: r).length + 1) (k.toList ++ c :: r) =
      some ([k], skipSpaces (c :: r)) := by
    rw [keyParts, hskip, keyPart_bare h hc]
    simp only
    split
    · simp_all
    · rfl
  rw [key, hparts]
  rfl

theorem lineEnd?_solid (h : startsLayout c = false) (r : List Char) : lineEnd? (c :: r) = none := by
  rw [lineEnd?, skipSpaces_cons h, skipComment_cons h]
  exact newline?_of_solid h r

theorem line_header (h : Bare k) (r : List Char) :
    line ('[' :: (k.toList ++ ']' :: '\n' :: r)) = some (.header [k], r) := by
  have hkey : key (k.toList ++ ']' :: '\n' :: r) = some ([k], ']' :: '\n' :: r) :=
    key_bare h (by decide) (by rw [skipSpaces_cons (by decide)]; simp)
  have hskip : skipSpaces ('[' :: (k.toList ++ ']' :: '\n' :: r)) = '[' :: (k.toList ++ ']' :: '\n' :: r) :=
    skipSpaces_cons (by decide) _
  have hend : lineEnd? ('\n' :: r) = some r := rfl
  obtain ⟨d, w, hw, hd⟩ := h.head
  have hne : d ≠ '[' := ne_of_bareKeyChar hd (by decide)
  simp only [line, hskip]
  rw [hw, List.cons_append] at hkey ⊢
  split
  · rename_i heq
    simp_all
  · simp_all
  · simp_all

theorem line_assignment (h : Bare k) (hv : Stands v w) (r : List Char) :
    line (k.toList ++ ' ' :: '=' :: ' ' :: (w ++ '\n' :: r)) = some (.assignment [k] v, r) := by
  have hkey : key (k.toList ++ ' ' :: '=' :: ' ' :: (w ++ '\n' :: r)) =
      some ([k], '=' :: ' ' :: (w ++ '\n' :: r)) :=
    key_bare h (by decide) (by simp [skipSpaces, isSpace])
  have hvalue : skipSpaces (' ' :: (w ++ '\n' :: r)) = w ++ '\n' :: r := by
    obtain ⟨d, w', rfl, hd⟩ := hv.solid
    exact skipSpaces_cons hd _
  have hassign : assignment (value (nestingLimit - 1)) (k.toList ++ ' ' :: '=' :: ' ' :: (w ++ '\n' :: r)) =
      some (([k], v), '\n' :: r) := by
    simp only [assignment, hkey, hvalue, hv.read]
    rfl
  obtain ⟨d, w', hw, hd⟩ := h.head
  have hsolid := solid_of_bareKeyChar hd
  have hne : d ≠ '[' := ne_of_bareKeyChar hd (by decide)
  rw [hw, List.cons_append] at hassign ⊢
  simp only [line, skipSpaces_cons hsolid]
  split
  · simp_all
  · simp_all
  · rw [lineEnd?_solid hsolid, hassign]
    rfl

inductive InLines : List Line → List Char → Prop
  | nothing : InLines [] []
  | line {l : Line} {ls : List Line} {cs r : List Char} (h : line cs = some (l, r))
      (hlt : r.length < cs.length) (hr : InLines ls r) : InLines (l :: ls) cs

theorem InLines.lines_eq {ls : List Line} {cs : List Char} (h : InLines ls cs) {n : Nat}
    (hn : cs.length < n) : lines n cs = some ls := by
  induction h generalizing n with
  | nothing =>
    obtain ⟨n, rfl⟩ := Nat.exists_eq_add_of_lt hn
    rfl
  | @line l ls cs r h hlt hr ih =>
    obtain ⟨n, rfl⟩ : ∃ m, n = m + 1 := ⟨n - 1, by omega⟩
    cases cs with
    | nil => cases hlt
    | cons c cs =>
      rw [lines.eq_3 _ _ (by simp), h]
      simp [ih (n := n) (by omega)]

theorem InLines.blank {ls : List Line} (hr : InLines ls r) : InLines (.blank :: ls) ('\n' :: r) :=
  .line rfl (Nat.lt_succ_self _) hr

end

abbrev Section := String × List (String × Value)

def Section.lines (s : Section) : List Line := .header [s.1] :: s.2.map fun e => .assignment [e.1] e.2

theorem InLines.header {k : String} {ls : List Line} {r : List Char} (h : Bare k) (hr : InLines ls r) :
    InLines (.header [k] :: ls) ('[' :: (k.toList ++ ']' :: '\n' :: r)) :=
  .line (line_header h r) (by simp; omega) hr

theorem InLines.assignment {k : String} {v : Value} {w r : List Char} {ls : List Line} (h : Bare k)
    (hv : Stands v w) (hr : InLines ls r) :
    InLines (.assignment [k] v :: ls) (k.toList ++ ' ' :: '=' :: ' ' :: (w ++ '\n' :: r)) :=
  .line (line_assignment h hv r) (by simp; omega) hr

def items (es : List (String × Value)) : List (String × Item) := es.map fun e => (e.1, .value e.2)

theorem keys_items (es : List (String × Value)) : (items es).map (·.1) = es.map (·.1) := by
  simp [items]

theorem items_append (es fs : List (String × Value)) : items (es ++ fs) = items es ++ items fs :=
  List.map_append

theorem entriesToValues_items (es : List (String × Value)) : Item.entriesToValues (items es) = es := by
  induction es with
  | nil => rfl
  | cons e es ih =>
    rw [items, List.map_cons, Item.entriesToValues, ← items, ih]
    rfl

theorem find?_eq_none {k : String} {es : List (String × Item)} (h : k ∉ es.map (·.1)) :
    Item.find? k es = none := by
  rw [Item.find?, List.lookup_eq_none_iff]
  intro e he
  simpa using fun hk : k = e.1 => h (hk ▸ List.mem_map_of_mem he)

theorem set_eq_append {k : String} {es : List (String × Item)} (h : k ∉ es.map (·.1)) (v : Item) :
    Item.set k v es = es ++ [(k, v)] := by
  rw [Item.set, List.filter_eq_self.2]
  intro e he
  simpa using fun hk : e.1 = k => h (hk ▸ List.mem_map_of_mem he)

def Section.item (s : Section) : String × Item := (s.1, .table false false (items s.2))

namespace Draft

def reading (done : List Section) (s : Section) : Draft :=
  ⟨.table false false (done.map Section.item), .table false false (items s.2), some ([s.1], false)⟩

theorem add_assignment {k : String} {es : List (String × Item)} (h : k ∉ es.map (·.1)) (root : Item)
    (header : Option (List String × Bool)) (v : Value) :
    add ⟨root, .table false false es, header⟩ (.assignment [k] v) =
      some ⟨root, .table false false (es ++ [(k, .value v)]), header⟩ := by
  simp [add, splitKey, Item.assign, Item.modifyAt, find?_eq_none h]

theorem foldlM_assignments (before : List (String × Value)) {es : List (String × Value)}
    (h : ((before ++ es).map (·.1)).Nodup)
    (root : Item) (header : Option (List String × Bool)) :
    (es.map fun e => Line.assignment [e.1] e.2).foldlM add
        ⟨root, .table false false (items before), header⟩ =
      some ⟨root, .table false false (items (before ++ es)), header⟩ := by
  induction es generalizing before with
  | nil => simp
  | cons e es ih =>
    have hnew : e.1 ∉ (items before).map (·.1) := by
      rw [keys_items]
      intro hmem
      rw [List.map_append, List.map_cons, List.nodup_append] at h
      exact h.2.2 _ hmem _ List.mem_cons_self rfl
    have hrest := ih (before ++ [e]) (by rwa [List.append_assoc])
    rw [List.append_assoc, items_append] at hrest
    rw [List.map_cons, List.foldlM_cons, add_assignment hnew]
    exact hrest

theorem add_header {d : Draft} {done : List Section} {k : String}
    (hd : d.close = some (.table false false (done.map Section.item))) (h : k ∉ done.map (·.1)) :
    d.add (.header [k]) = some (reading done (k, [])) := by
  have hk : k ∉ (done.map Section.item).map (·.1) := by
    rw [List.map_map]
    exact h
  simp [add, open?, hd, splitKey, itemAt, takeOut, find?_eq_none hk, Item.modifyAt, reading, items, Item.new]

theorem close_reading {done : List Section} {s : Section} (h : s.1 ∉ done.map (·.1)) :
    (reading done s).close = some (.table false false ((done ++ [s]).map Section.item)) := by
  have hk : s.1 ∉ (done.map Section.item).map (·.1) := by
    rw [List.map_map]
    exact h
  simp [close, reading, splitKey, Item.modifyAt, find?_eq_none hk, set_eq_append hk, Section.item]

theorem foldlM_section {d : Draft} {done : List Section} {s : Section}
    (hd : d.close = some (.table false false (done.map Section.item))) (hs : s.1 ∉ done.map (·.1))
    (hk : (s.2.map (·.1)).Nodup) : s.lines.foldlM add d = some (reading done s) := by
  rw [Section.lines, List.foldlM_cons, add_header hd hs]
  exact foldlM_assignments [] hk _ _

theorem foldlM_sections (done : List Section) {ss : List Section} {s : Section}
    (h : ((done ++ s :: ss).map (·.1)).Nodup) (hk : ∀ s ∈ ss, (s.2.map (·.1)).Nodup) :
    ∃ d, (ss.flatMap fun s => .blank :: s.lines).foldlM add (reading done s) = some d ∧
      d.close = some (.table false false ((done ++ s :: ss).map Section.item)) := by
  have hs : s.1 ∉ done.map (·.1) := by
    intro hmem
    rw [List.map_append, List.map_cons, List.nodup_append] at h
    exact h.2.2 _ hmem _ List.mem_cons_self rfl
  induction ss generalizing done s with
  | nil => exact ⟨_, rfl, close_reading hs⟩
  | cons t ss ih =>
    obtain ⟨ht, hss⟩ := List.forall_mem_cons.1 hk
    have hnext : ((done ++ [s] ++ t :: ss).map (·.1)).Nodup := by
      rwa [List.append_assoc]
    have hnew : t.1 ∉ (done ++ [s]).map (·.1) := by
      intro hmem
      rw [List.map_append, List.map_cons, List.nodup_append] at hnext
      exact hnext.2.2 _ hmem _ List.mem_cons_self rfl
    obtain ⟨d, hd, hclose⟩ := ih (done ++ [s]) hnext hss hnew
    refine ⟨d, ?_, by rwa [List.append_assoc] at hclose⟩
    rw [List.flatMap_cons, List.foldlM_append, List.foldlM_cons]
    have hblank : (reading done s).add .blank = some (reading done s) := rfl
    rw [hblank, Option.bind_eq_bind, Option.bind_some, foldlM_section (close_reading hs) hnew ht]
    exact hd

end Draft

theorem entriesToValues_sections (ss : List Section) :
    Item.entriesToValues (ss.map Section.item) = ss.map fun s => (s.1, .table s.2) := by
  induction ss with
  | nil => rfl
  | cons s ss ih =>
    rw [List.map_cons, Section.item, Item.entriesToValues, ih, Item.toValue, entriesToValues_items]
    rfl

theorem parse_sections {s : Section} {ss : List Section} {text : String}
    (hopen : text.toList.head? = some '[')
    (hl : InLines (s.lines ++ ss.flatMap fun s => .blank :: s.lines) text.toList)
    (hs : ((s :: ss).map (·.1)).Nodup) (hk : ∀ s' ∈ s :: ss, (s'.2.map (·.1)).Nodup) :
    parse text = some ((s :: ss).map fun s => (s.1, .table s.2)) := by
  obtain ⟨hfirst, hrest⟩ := List.forall_mem_cons.1 hk
  obtain ⟨r, ht⟩ := List.head?_eq_some_iff.1 hopen
  have hlines := hl.lines_eq (Nat.lt_succ_self _)
  obtain ⟨d, hd, hclose⟩ := Draft.foldlM_sections [] hs hrest
  have hnew : s.lines.foldlM Draft.add Draft.new = some (Draft.reading [] s) :=
    Draft.foldlM_section rfl List.not_mem_nil hfirst
  have hfold : (s.lines ++ ss.flatMap fun s => .blank :: s.lines).foldlM Draft.add Draft.new = some d := by
    rw [List.foldlM_append, hnew]
    exact hd
  rw [ht] at hlines
  -- the text starts with a bracket, so it has no byte order mark to lose
  rw [parse, ht]
  change (lines ('[' :: r).length.succ ('[' :: r)).bind _ = _
  simp only [hlines, hfold, Option.bind_eq_bind, Option.bind_some, hclose, Item.toValue, List.nil_append,
    entriesToValues_sections]

end ProviderRegistry.Toml
