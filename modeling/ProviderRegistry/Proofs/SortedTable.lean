import Mathlib.Tactic
import ProviderRegistry.KeyIndex

/-! Tables keyed by text stay in strict order of their keys whatever is written, so a key stands in
them once and reading it gives the entry. The classes of a key index and the catalog are such
tables; a catalog gives a class by its own name. -/

namespace ProviderRegistry

namespace Text

theorem precedes_total (a b : String) : precedes a b ∨ precedes b a := by
  have h := precedesChars_total a.toList b.toList
  rwa [Bool.or_eq_true] at h

theorem precedes_trans {a b c : String} (h : precedes a b) (h' : precedes b c) : precedes a c :=
  precedesChars_trans h h'

theorem precedes_antisymm {a b : String} (h : precedes a b) (h' : precedes b a) : a = b :=
  String.toList_inj.1 (precedesChars_antisymm h h')

section Sorting

variable {α : Type} (name : α → String)

theorem precedes_trans_on (a b c : α) :
    precedes (name a) (name b) → precedes (name b) (name c) → precedes (name a) (name c) :=
  precedes_trans

theorem precedes_total_on (a b : α) : precedes (name a) (name b) || precedes (name b) (name a) := by
  simpa using precedes_total (name a) (name b)

theorem pairwise_mergeSort (l : List α) :
    (l.mergeSort fun a b => precedes (name a) (name b)).Pairwise fun a b => precedes (name a) (name b) :=
  List.pairwise_mergeSort (precedes_trans_on name) (precedes_total_on name) l

theorem sublist_mergeSort {l r : List α} (h : l.Pairwise fun a b => precedes (name a) (name b))
    (hr : l.Sublist r) : l.Sublist (r.mergeSort fun a b => precedes (name a) (name b)) :=
  List.sublist_mergeSort (precedes_trans_on name) (precedes_total_on name) h hr

end Sorting

def Before (a b : String) : Prop := precedes a b ∧ a ≠ b

theorem Before.trans {a b c : String} (h : Before a b) (h' : Before b c) : Before a c := by
  refine ⟨precedes_trans h.1 h'.1, ?_⟩
  rintro rfl
  exact h.2 (precedes_antisymm h.1 h'.1)

end Text

namespace Keyed

open Text

variable {β : Type} {t : List (String × β)}

def Sorted (t : List (String × β)) : Prop := (keys t).Pairwise Before

theorem mem_keys_iff {k : String} : k ∈ keys t ↔ (get? k t).isSome := by
  induction t with
  | nil => simp [keys, get?]
  | cons e r ih =>
    have hmem : k ∈ keys (e :: r) ↔ k = e.1 ∨ k ∈ keys r := List.mem_cons
    rw [hmem, ih, get?]
    by_cases he : e.1 = k
    · simp [he]
    · simp [he, Ne.symm he]

theorem mem_keys_put {k x : String} {v : β} : x ∈ keys (put k v t) ↔ x = k ∨ x ∈ keys t := by
  induction t with
  | nil => simp [put, keys]
  | cons e r ih =>
    unfold put
    split
    · rename_i he
      simp [keys, he]
    · split
      · simp [keys]
      · have hr : x ∈ keys (e :: put k v r) ↔ x = e.1 ∨ x ∈ keys (put k v r) := by simp [keys]
        rw [hr, ih]
        simp only [keys, List.map_cons, List.mem_cons]
        tauto

theorem sorted_put (h : Sorted t) (k : String) (v : β) : Sorted (put k v t) := by
  induction t with
  | nil => exact List.pairwise_singleton _ _
  | cons e r ih =>
    obtain ⟨he, hr⟩ := List.pairwise_cons.1 h
    unfold put
    split
    · rename_i hk
      exact List.pairwise_cons.2 ⟨fun x hx => hk ▸ he x hx, hr⟩
    · rename_i hk
      split
      · rename_i hp
        have hke : Before k e.1 := ⟨hp, Ne.symm hk⟩
        refine List.pairwise_cons.2 ⟨fun x hx => ?_, h⟩
        rcases List.mem_cons.1 hx with rfl | hx
        · exact hke
        · exact hke.trans (he x hx)
      · rename_i hp
        have hek : Before e.1 k := ⟨(precedes_total e.1 k).resolve_right hp, hk⟩
        refine List.pairwise_cons.2 ⟨fun x hx => ?_, ih hr⟩
        rcases mem_keys_put.1 hx with rfl | hx
        · exact hek
        · exact he x hx

theorem get?_of_mem (h : Sorted t) {e : String × β} (he : e ∈ t) : get? e.1 t = some e.2 := by
  induction t with
  | nil => cases he
  | cons d r ih =>
    obtain ⟨hd, hr⟩ := List.pairwise_cons.1 h
    unfold get?
    rcases List.mem_cons.1 he with rfl | he
    · rw [if_pos rfl]
    · rw [if_neg (hd e.1 (List.mem_map_of_mem he)).2, ih hr he]

theorem filterMap_keys (h : Sorted t) {γ : Type} (f : String → β → γ) :
    (keys t).filterMap (fun k => (get? k t).map (f k)) = t.map fun e => f e.1 e.2 := by
  rw [keys, List.filterMap_map, ← List.filterMap_eq_map]
  refine List.filterMap_congr fun e he => ?_
  simp [get?_of_mem h he]

end Keyed

namespace KeyIndex

theorem sorted_foldl {ix : KeyIndex} (h : Keyed.Sorted ix.classes) (cs : List ProviderClass) :
    Keyed.Sorted (cs.foldl add ix).classes := by
  induction cs generalizing ix with
  | nil => exact h
  | cons c cs ih => exact ih (Keyed.sorted_put h c.key c)

theorem sorted_build (ds : List Discovered) : Keyed.Sorted (build ds).classes := by
  have h : Keyed.Sorted empty.classes := List.Pairwise.nil
  exact sorted_foldl h _

end KeyIndex

namespace Catalog

theorem resolve_add_eq (k : Catalog) (c : ProviderClass) (name : String) :
    (k.add c).resolve name = (k.resolve name).or (if c.name = name then some c else none) := by
  unfold add
  by_cases hn : c.name = name
  · subst hn
    cases hk : k.resolve c.name with
    | some d => simp [hk]
    | none => simp [resolve, Keyed.get?_put_self]
  · cases hk : k.resolve c.name with
    | some d => simp [hn]
    | none => simp [resolve, Keyed.get?_put_ne hn, hn]

/-- The first class of a name is the one that stays. -/
theorem resolve_foldl_eq (k : Catalog) (cs : List ProviderClass) (name : String) :
    (cs.foldl add k).resolve name = (k.resolve name).or (cs.find? (·.name = name)) := by
  induction cs generalizing k with
  | nil => simp
  | cons c cs ih =>
    rw [List.foldl_cons, ih, resolve_add_eq, Option.or_assoc]
    by_cases hn : c.name = name <;> simp [hn]

theorem resolve_ofClasses_eq (cs : List ProviderClass) (name : String) :
    (ofClasses cs).resolve name = cs.find? (·.name = name) :=
  resolve_foldl_eq empty cs name

theorem resolve_ofClasses {cs : List ProviderClass} {d : ProviderClass} {name : String}
    (h : (ofClasses cs).resolve name = some d) : d ∈ cs ∧ d.name = name := by
  rw [resolve_ofClasses_eq] at h
  exact ⟨List.mem_of_find?_eq_some h, by simpa using List.find?_some h⟩

end Catalog

end ProviderRegistry
