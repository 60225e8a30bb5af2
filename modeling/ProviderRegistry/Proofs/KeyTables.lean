import Mathlib.Tactic
import ProviderRegistry.KeyIndex

/-! The two tables of a key index in closed form. Under a key stands the last listed class that has
it; a key-class stands once, where it was first declared, with the key of the class that declared
it. Listing more classes after others therefore takes keys over and leaves key-classes alone. -/

namespace ProviderRegistry

def ProviderClass.declared? (c : ProviderClass) : Option (KeyClass × String) :=
  c.keyClass.map fun k => (k, c.key)

theorem KeyClass.sameAs_comm (a b : KeyClass) : a.sameAs b = b.sameAs a := Bool.beq_comm

namespace KeyIndex

variable {ix : KeyIndex} {key : String}

/-- The last of the classes that has the key. -/
def lastKeyed (key : String) (cs : List ProviderClass) : Option ProviderClass :=
  (cs.filter fun c => c.key = key).getLast?

/-- The entries without those whose key-class stands in an earlier one. -/
def firstOfEach (es : List (KeyClass × String)) : List (KeyClass × String) :=
  es.eraseDupsBy fun a b => a.1.sameAs b.1

theorem ofClasses_append (cs ds : List ProviderClass) :
    ofClasses (cs ++ ds) = ds.foldl add (ofClasses cs) := by
  rw [ofClasses, List.foldl_append]
  rfl

theorem get?_add (ix : KeyIndex) (c : ProviderClass) (key : String) :
    (ix.add c).get? key = if c.key = key then some c else ix.get? key := by
  split
  · rename_i h
    subst h
    exact Keyed.get?_put_self ..
  · rename_i h
    exact Keyed.get?_put_ne h ..

theorem get?_foldl (ix : KeyIndex) (cs : List ProviderClass) (key : String) :
    (cs.foldl add ix).get? key = (lastKeyed key cs).or (ix.get? key) := by
  -- from the end, for the last class with the key is what counts
  induction cs using List.reverseRecOn with
  | nil => rfl
  | append_singleton cs c ih =>
    rw [List.foldl_append, List.foldl_cons, List.foldl_nil, get?_add, ih]
    simp only [lastKeyed, List.filter_append]
    split
    · rename_i h
      simp [h]
    · rename_i h
      simp [h]

theorem get?_ofClasses (cs : List ProviderClass) (key : String) :
    (ofClasses cs).get? key = lastKeyed key cs := by
  rw [ofClasses, get?_foldl]
  exact Option.or_none

/-- The new part of the table, once an entry is added that was not in it. -/
theorem firstOfEach_cons {ix ix' : KeyIndex} {k : KeyClass} {key : String}
    (h : ix'.keyClasses = ix.keyClasses ++ [(k, key)]) (hk : ix.hasKeyClass k = false)
    (es : List (KeyClass × String)) :
    firstOfEach (((k, key) :: es).filter fun e => !ix.hasKeyClass e.1) =
      (k, key) :: firstOfEach (es.filter fun e => !ix'.hasKeyClass e.1) := by
  have hix : ∀ q, ix'.hasKeyClass q = (ix.hasKeyClass q || q.sameAs k) := fun q => by
    simp [hasKeyClass, h, k.sameAs_comm q]
  rw [List.filter_cons_of_pos (by simp [hk]), firstOfEach, List.eraseDupsBy_cons, List.filter_filter]
  simp only [firstOfEach, hix, Bool.not_or]
  congr 3
  funext e
  simp [Bool.and_comm]

theorem keyClasses_foldl (ix : KeyIndex) (cs : List ProviderClass) :
    (cs.foldl add ix).keyClasses = ix.keyClasses ++
      firstOfEach ((cs.filterMap (·.declared?)).filter fun e => !ix.hasKeyClass e.1) := by
  -- from the front, for the first declaration of a key-class is what counts
  induction cs generalizing ix with
  | nil => simp [firstOfEach]
  | cons c cs ih =>
    rw [List.foldl_cons, ih]
    cases hk : c.keyClass with
    | none =>
      have hadd : (ix.add c).keyClasses = ix.keyClasses := by simp [add, registerKeyClass, hk]
      have hc : c.declared? = none := by simp [ProviderClass.declared?, hk]
      simp only [hadd, List.filterMap_cons, hc, hasKeyClass]
    | some k =>
      have hc : c.declared? = some (k, c.key) := by simp [ProviderClass.declared?, hk]
      rw [List.filterMap_cons, hc]
      cases hh : ix.hasKeyClass k with
      | true =>
        have hadd : (ix.add c).keyClasses = ix.keyClasses := by simp [add, registerKeyClass, hk, hh]
        rw [List.filter_cons_of_neg (by simp [hh])]
        simp only [hadd, hasKeyClass]
      | false =>
        have hadd : (ix.add c).keyClasses = ix.keyClasses ++ [(k, c.key)] := by
          simp [add, registerKeyClass, hk, hh]
        rw [firstOfEach_cons hadd hh, hadd, List.append_assoc]
        rfl

/-- A key-class stands in the table once, with the key of the class that declared it first. -/
theorem keyClasses_ofClasses (cs : List ProviderClass) :
    (ofClasses cs).keyClasses = firstOfEach (cs.filterMap (·.declared?)) := by
  have hnone : ∀ e : KeyClass × String, (!empty.hasKeyClass e.1) = true := fun e => rfl
  rw [ofClasses, keyClasses_foldl, List.filter_eq_self.2 fun e _ => hnone e]
  rfl

/-- A key-class that is served goes on to be served by the same key, whatever is listed later. -/
theorem keyForClass_of_prefix {ix ix' : KeyIndex} (h : ix.keyClasses <+: ix'.keyClasses)
    {q : KeyClass} (hq : ix.keyForClass q = some key) : ix'.keyForClass q = some key := by
  obtain ⟨es, hes⟩ := h
  obtain ⟨e, he, rfl⟩ := Option.map_eq_some_iff.1 hq
  simp [keyForClass, ← hes, List.find?_append, he]

/-- Every key that the table of key-classes leads to is indexed. -/
def Served (ix : KeyIndex) : Prop := ∀ e ∈ ix.keyClasses, (ix.get? e.2).isSome

theorem Served.add (h : ix.Served) (c : ProviderClass) : (ix.add c).Served := by
  intro e he
  rw [get?_add]
  split
  · rfl
  · rename_i hne
    have he : e ∈ ix.registerKeyClass c := he
    unfold registerKeyClass at he
    split at he
    · split at he
      · exact h e he
      · rcases List.mem_append.1 he with he | he
        · exact h e he
        · exact absurd (by simp [List.mem_singleton.1 he]) hne
    · exact h e he

theorem served_ofClasses (cs : List ProviderClass) : (ofClasses cs).Served := by
  induction cs using List.reverseRecOn with
  | nil => intro e he; cases he
  | append_singleton cs c ih =>
    rw [ofClasses_append]
    exact ih.add c

theorem Served.get?_of_keyForClass (h : ix.Served) {q : KeyClass} (hq : ix.keyForClass q = some key) :
    ∃ c, ix.get? key = some c := by
  obtain ⟨e, he, rfl⟩ := Option.map_eq_some_iff.1 hq
  exact Option.isSome_iff_exists.1 (h e (List.mem_of_find?_eq_some he))

end KeyIndex

end ProviderRegistry
