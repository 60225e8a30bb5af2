import ProviderRegistry.Proofs.ListedKeys

/-! What a listing reports of the keys that it takes over. A class is reported as replaced where another one
comes to stand under its key, so the report speaks of the table as it was at that moment and not of the one
that is served in the end; a class that is not served was displaced at some moment, and is reported there. -/

namespace ProviderRegistry

namespace ProviderClass

theorem sameAs_iff {a b : ProviderClass} : a.sameAs b ↔ a.id = b.id := beq_iff_eq

end ProviderClass

namespace KeyIndex

variable {point key : String} {ds : List Discovered} {d e : Discovered}

def displaced (point : String) (d e : Discovered) : Event :=
  .overridden point e.found.key d.found.name e.found.name e.origin e.line

def lastListed (key : String) (ds : List Discovered) : Option Discovered :=
  (ds.filter fun d => d.found.key = key).getLast?

/-- What the listing at a position reports: whether the nearest one before it that has its key is of another
class. -/
def overrideAt? (point : String) (ds : List Discovered) (i : Nat) : Option Event :=
  ds[i]?.bind fun e => (lastListed e.found.key (ds.take i)).bind fun d =>
    if d.found.sameAs e.found then none else some (displaced point d e)

/-- Whether the listing `d` at `i` is displaced by the listing `e` at `j`: they are of one key, which no
listing between them has, and of different classes. -/
structure Displaces (ds : List Discovered) (i j : Nat) (d e : Discovered) : Prop where
  lt : i < j
  earlier : ds[i]? = some d
  later : ds[j]? = some e
  key : d.found.key = e.found.key
  between : ∀ m x, i < m → m < j → ds[m]? = some x → x.found.key ≠ e.found.key
  other : ¬d.found.sameAs e.found

theorem getLast?_filter_eq_some_iff {α : Type} {p : α → Bool} {l : List α} {a : α} :
    (l.filter p).getLast? = some a ↔
      ∃ i : Nat, l[i]? = some a ∧ p a ∧ ∀ (m : Nat) x, i < m → l[m]? = some x → ¬p x := by
  induction l using List.reverseRecOn with
  | nil => simp
  | append_singleton l b ih =>
    rw [List.filter_append]
    by_cases hb : p b
    · rw [List.filter_cons_of_pos hb, List.filter_nil, List.getLast?_concat, Option.some.injEq]
      constructor
      · rintro rfl
        refine ⟨l.length, by simp, hb, fun m x hm hx => ?_⟩
        rw [List.getElem?_eq_none (by simpa using hm)] at hx
        cases hx
      · rintro ⟨i, hi, ha, hlater⟩
        have hlen := (List.getElem?_eq_some_iff.1 hi).1
        rw [List.length_append, List.length_singleton] at hlen
        rcases Nat.lt_or_eq_of_le (Nat.le_of_lt_succ hlen) with hlt | rfl
        · exact absurd hb (hlater l.length b hlt (by simp))
        · simpa using hi
    · rw [List.filter_cons_of_neg hb, List.filter_nil, List.append_nil, ih]
      constructor
      · rintro ⟨i, hi, ha, hlater⟩
        refine ⟨i, getElem?_of_prefix (List.prefix_append _ _) hi, ha, fun m x hm hx => ?_⟩
        rw [List.getElem?_append] at hx
        split at hx
        · exact hlater m x hm hx
        · obtain rfl := List.mem_singleton.1 (List.mem_of_getElem? hx)
          exact hb
      · rintro ⟨i, hi, ha, hlater⟩
        have hlt : i < l.length := by
          have hlen := (List.getElem?_eq_some_iff.1 hi).1
          rw [List.length_append, List.length_singleton] at hlen
          refine Nat.lt_of_le_of_ne (Nat.le_of_lt_succ hlen) ?_
          rintro rfl
          obtain rfl : b = a := by simpa using hi
          exact hb ha
        rw [List.getElem?_append_left hlt] at hi
        refine ⟨i, hi, ha, fun m x hm hx => hlater m x hm ?_⟩
        exact getElem?_of_prefix (List.prefix_append _ _) hx

theorem lastListed_eq_some_iff : lastListed key ds = some d ↔
    ∃ i : Nat, ds[i]? = some d ∧ d.found.key = key ∧
      ∀ (m : Nat) (x : Discovered), i < m → ds[m]? = some x → x.found.key ≠ key := by
  rw [lastListed, getLast?_filter_eq_some_iff]
  simp

theorem get?_build_eq_lastListed (key : String) (ds : List Discovered) :
    (build ds).get? key = (lastListed key ds).map (·.found) := by
  rw [build, get?_ofClasses, lastKeyed, List.filter_map, List.getLast?_map]
  rfl

theorem overrideAt?_eq_some_iff {j : Nat} {event : Event} : overrideAt? point ds j = some event ↔
    ∃ i d e, Displaces ds i j d e ∧ event = displaced point d e := by
  simp only [overrideAt?, Option.bind_eq_some_iff, lastListed_eq_some_iff]
  constructor
  · rintro ⟨e, he, d, ⟨i, hi, hkey, hlater⟩, hevent⟩
    split at hevent
    · cases hevent
    · rename_i hother
      have hij : i < j := by
        have hlen := (List.getElem?_eq_some_iff.1 hi).1
        rw [List.length_take] at hlen
        omega
      rw [List.getElem?_take_of_lt hij] at hi
      refine ⟨i, d, e, ⟨hij, hi, he, hkey, fun m x hm hmj hx => ?_, hother⟩, (Option.some.inj hevent).symm⟩
      exact hlater m x hm ((List.getElem?_take_of_lt hmj).trans hx)
  · rintro ⟨i, d, e, h, rfl⟩
    refine ⟨e, h.later, d, ⟨i, (List.getElem?_take_of_lt h.lt).trans h.earlier, h.key, ?_⟩, if_neg h.other⟩
    intro m x hm hx
    have hmj : m < j := by
      have hlen := (List.getElem?_eq_some_iff.1 hx).1
      rw [List.length_take] at hlen
      omega
    exact h.between m x hm hmj ((List.getElem?_take_of_lt hmj).symm.trans hx)

theorem eventsFrom_append (point : String) (ix : KeyIndex) (ds es : List Discovered) :
    eventsFrom point ix (ds ++ es) =
      eventsFrom point ix ds ++ eventsFrom point ((ds.map (·.found)).foldl add ix) es := by
  induction ds generalizing ix with
  | nil => rfl
  | cons d ds ih => simp [eventsFrom, ih]

theorem buildEvents_concat (point : String) (ds : List Discovered) (d : Discovered) :
    buildEvents point (ds ++ [d]) = buildEvents point ds ++ (build ds).addEvents point d := by
  rw [buildEvents, eventsFrom_append]
  exact congrArg _ (List.append_nil _)

theorem addEvents_eq (point : String) (ds : List Discovered) (d : Discovered) :
    (build ds).addEvents point d = (overrideAt? point (ds ++ [d]) ds.length).toList := by
  rw [addEvents, get?_build_eq_lastListed, overrideAt?, List.getElem?_concat_length, Option.bind_some,
    List.take_left]
  cases lastListed d.found.key ds with
  | none => rfl
  | some e =>
    dsimp only [Option.map_some, Option.bind_some]
    split <;> rfl

theorem overrideAt?_append (es : List Discovered) {i : Nat} (hi : i < ds.length) :
    overrideAt? point (ds ++ es) i = overrideAt? point ds i := by
  rw [overrideAt?, List.getElem?_append_left hi, List.take_append_of_le_length (Nat.le_of_lt hi)]
  rfl

theorem buildEvents_eq (point : String) (ds : List Discovered) :
    buildEvents point ds = (List.range ds.length).filterMap (overrideAt? point ds) := by
  induction ds using List.reverseRecOn with
  | nil => rfl
  | append_singleton ds d ih =>
    have hearlier : (List.range ds.length).filterMap (overrideAt? point (ds ++ [d])) =
        (List.range ds.length).filterMap (overrideAt? point ds) :=
      List.filterMap_congr fun i hi => overrideAt?_append [d] (List.mem_range.1 hi)
    rw [buildEvents_concat, addEvents_eq, List.length_append, List.length_singleton, List.range_succ,
      List.filterMap_append, hearlier, ih, List.filterMap_cons, List.filterMap_nil]
    cases overrideAt? point (ds ++ [d]) ds.length <;> rfl

theorem mem_buildEvents_iff {event : Event} : event ∈ buildEvents point ds ↔
    ∃ i j d e, Displaces ds i j d e ∧ event = displaced point d e := by
  rw [buildEvents_eq, List.mem_filterMap]
  constructor
  · rintro ⟨j, -, hj⟩
    obtain ⟨i, d, e, h⟩ := overrideAt?_eq_some_iff.1 hj
    exact ⟨i, j, d, e, h⟩
  · rintro ⟨i, j, d, e, h, he⟩
    exact ⟨j, List.mem_range.2 (List.getElem?_eq_some_iff.1 h.later).1,
      overrideAt?_eq_some_iff.2 ⟨i, d, e, h, he⟩⟩

/-- A listed class that is not served under its key is reported as replaced. -/
theorem replaced_of_not_served (point : String) {c : ProviderClass} (hd : d ∈ ds)
    (hc : (build ds).get? d.found.key = some c) (hne : ¬c.sameAs d.found) :
    ∃ x ∈ ds, ∃ e ∈ ds, x.found.sameAs d.found ∧ x.found.key = d.found.key ∧ e.found.key = d.found.key ∧
      displaced point x e ∈ buildEvents point ds := by
  induction ds using List.reverseRecOn generalizing c with
  | nil => cases hd
  | append_singleton ds e ih =>
    have hget : (build (ds ++ [e])).get? d.found.key =
        if e.found.key = d.found.key then some e.found else (build ds).get? d.found.key := by
      rw [build, List.map_append, ofClasses_append]
      exact get?_add ..
    rw [buildEvents_concat]
    -- what was reported before the last listing stays reported
    have hearlier : d ∈ ds → ∀ c, (build ds).get? d.found.key = some c → ¬c.sameAs d.found →
        ∃ x ∈ ds ++ [e], ∃ y ∈ ds ++ [e], x.found.sameAs d.found ∧ x.found.key = d.found.key ∧
          y.found.key = d.found.key ∧
          displaced point x y ∈ buildEvents point ds ++ (build ds).addEvents point e := by
      intro hd c hc hne
      obtain ⟨x, hx, y, hy, hsame, hxk, hyk, hreported⟩ := ih hd hc hne
      exact ⟨x, List.mem_append_left _ hx, y, List.mem_append_left _ hy, hsame, hxk, hyk,
        List.mem_append_left _ hreported⟩
    rw [hget] at hc
    split at hc
    · rename_i hkey
      obtain rfl := Option.some.inj hc
      have hd : d ∈ ds := by
        rcases List.mem_append.1 hd with hd | hd
        · exact hd
        · obtain rfl := List.mem_singleton.1 hd
          exact absurd (ProviderClass.sameAs_iff.2 rfl) hne
      have hserved : ((build ds).get? d.found.key).isSome := contains_build_iff.2 ⟨d, hd, rfl⟩
      rw [get?_build_eq_lastListed, Option.isSome_map] at hserved
      obtain ⟨x, hx⟩ := Option.isSome_iff_exists.1 hserved
      obtain ⟨i, hi, hxkey, -⟩ := lastListed_eq_some_iff.1 hx
      by_cases hsame : x.found.sameAs d.found
      · -- the class stood under the key until the last listing
        refine ⟨x, List.mem_append_left _ (List.mem_of_getElem? hi), e, by simp, hsame, hxkey, hkey,
          List.mem_append_right _ ?_⟩
        have hother : ¬x.found.sameAs e.found := by
          rw [ProviderClass.sameAs_iff] at hsame hne ⊢
          exact fun h => hne (h.symm.trans hsame)
        rw [addEvents, hkey, get?_build_eq_lastListed, hx]
        simp [hother, displaced, hkey]
      · exact hearlier hd x.found (by rw [get?_build_eq_lastListed, hx]; rfl) hsame
    · rename_i hkey
      have hd : d ∈ ds := by
        rcases List.mem_append.1 hd with hd | hd
        · exact hd
        · obtain rfl := List.mem_singleton.1 hd
          exact absurd rfl hkey
      exact hearlier hd c hc hne

/-- A listing reports, position by position, that another class than its own stood under its key so far:
that of the nearest listing before it with this key. It reports nothing else. So every listed class that
is not the one served under its key in the end is reported as replaced, and a key that is listed for one
and the same class only is not reported at all. -/
theorem every_override_reported (point : String) (ds : List Discovered) :
    buildEvents point ds = (List.range ds.length).filterMap (overrideAt? point ds) ∧
    (∀ j event, overrideAt? point ds j = some event ↔ ∃ i d e, Displaces ds i j d e ∧
      event = .overridden point e.found.key d.found.name e.found.name e.origin e.line) ∧
    (∀ event ∈ buildEvents point ds, event.level = .warn) ∧
    (∀ d ∈ ds, ∀ c, (build ds).get? d.found.key = some c → ¬c.sameAs d.found →
      ∃ x ∈ ds, ∃ e ∈ ds, x.found.sameAs d.found ∧ x.found.key = d.found.key ∧
        .overridden point d.found.key x.found.name e.found.name e.origin e.line ∈ buildEvents point ds) ∧
    ∀ key, (∀ d ∈ ds, ∀ e ∈ ds, d.found.key = key → e.found.key = key → d.found.sameAs e.found) →
      ∀ p replaced className origin line,
        .overridden p key replaced className origin line ∉ buildEvents point ds := by
  refine ⟨buildEvents_eq point ds, fun j event => overrideAt?_eq_some_iff, ?_, ?_, ?_⟩
  · intro event hevent
    obtain ⟨i, j, d, e, -, rfl⟩ := mem_buildEvents_iff.1 hevent
    rfl
  · intro d hd c hc hne
    obtain ⟨x, hx, e, he, hsame, hxkey, hekey, hreported⟩ :=
      replaced_of_not_served point hd hc hne
    rw [displaced, hekey] at hreported
    exact ⟨x, hx, e, he, hsame, hxkey, hreported⟩
  · intro key hone p replaced className origin line hevent
    obtain ⟨i, j, d, e, h, heq⟩ := mem_buildEvents_iff.1 hevent
    obtain ⟨-, rfl, -⟩ := Event.overridden.inj heq
    exact h.other (hone d (List.mem_of_getElem? h.earlier) e (List.mem_of_getElem? h.later) h.key rfl)

/-- Two classes listed in turn displace each other, and a class that is listed again right away nothing. -/
example :
    buildEvents "Sink" [⟨"a", 1, Store.fileClass⟩, ⟨"a", 2, Linked.tapeClass⟩, ⟨"a", 3, Store.fileClass⟩,
        ⟨"b", 1, Store.fileClass⟩] =
      [.overridden "Sink" "file" "File" "Tape" "a" 2, .overridden "Sink" "file" "Tape" "File" "a" 3] := by
  decide +kernel

end KeyIndex

end ProviderRegistry
