import Mathlib.Data.Fintype.Card
import Mathlib.Logic.Relation
import ProviderRegistry.KeyClass

/-! Families of key-classes. A family is declared as a graph: each key-class has a name and extends others
of the family, as many as it likes. Where none comes to extend itself, each can carry all that it extends,
and the search for one among what another carries comes to an end. It finds what chains of extensions lead
to, whatever the names. -/

namespace ProviderRegistry

/-- A family of key-classes as it is declared: what each is called, and which it extends. -/
structure KeyClassFamily (n : Nat) where
  name : Fin n → String
  extended : Fin n → List (Fin n)

namespace KeyClassFamily

variable {n : Nat}

def Extends (f : KeyClassFamily n) (b a : Fin n) : Prop := a ∈ f.extended b

def Acyclic (f : KeyClassFamily n) : Prop := ∀ a, ¬Relation.TransGen f.Extends a a

/-- A key-class with what it extends, as far as so many steps lead. -/
def carried (f : KeyClassFamily n) : Nat → Fin n → KeyClass
  | 0, a => .mk a (f.name a) []
  | d + 1, a => .mk a (f.name a) ((f.extended a).map (f.carried d))

/-- A key-class with all that it extends: no chain has more steps than there are key-classes. -/
def keyClass (f : KeyClassFamily n) (a : Fin n) : KeyClass := f.carried n a

/-- The search for `a` at `b` and then, one after the other, at those that `b` extends. It comes to nothing
if more than so many searches would run inside one another. -/
def search (f : KeyClassFamily n) (a : Fin n) : Nat → Fin n → Option Bool
  | 0, _ => none
  | d + 1, b => if a = b then some true else (f.extended b).anyM (f.search a d)

def Shallow (f : KeyClassFamily n) : Nat → Fin n → Prop
  | 0, _ => False
  | d + 1, b => ∀ a, f.Extends b a → f.Shallow d a

variable {f : KeyClassFamily n} {a b c : Fin n}

theorem acyclic_of_rank (rank : Fin n → Nat) (h : ∀ b, ∀ a ∈ f.extended b, rank a < rank b) : f.Acyclic := by
  intro a hc
  have hlt : ∀ {c}, Relation.TransGen f.Extends a c → rank c < rank a := by
    intro c hc
    induction hc with
    | single he => exact h _ _ he
    | tail _ he ih => exact (h _ _ he).trans ih
  exact lt_irrefl _ (hlt hc)

/-- Behind distinct key-classes that all lead to `b`, the chains from `b` meet none of them again. -/
theorem Acyclic.shallow_behind (hf : f.Acyclic) {d : Nat} {path : List (Fin n)} (hn : path.Nodup)
    (hp : ∀ x ∈ path, Relation.TransGen f.Extends x b) (hd : n ≤ path.length + d) : f.Shallow d b := by
  have hb : (b :: path).Nodup := List.nodup_cons.2 ⟨fun hm => hf b (hp b hm), hn⟩
  induction d generalizing b path with
  | zero =>
    have hle := hb.length_le_card
    rw [List.length_cons, Fintype.card_fin] at hle
    omega
  | succ d ih =>
    intro a ha
    have hlead : ∀ x ∈ b :: path, Relation.TransGen f.Extends x a := by
      intro x hx
      rcases List.mem_cons.1 hx with rfl | hx
      · exact .single ha
      · exact (hp x hx).tail ha
    refine ih hb hlead ?_ (List.nodup_cons.2 ⟨fun hm => hf a (hlead a hm), hb⟩)
    rw [List.length_cons]
    omega

theorem Acyclic.shallow (hf : f.Acyclic) (b : Fin n) : f.Shallow n b :=
  hf.shallow_behind List.nodup_nil (fun _ hx => by cases hx) (by simp)

theorem Acyclic.supertypes_first (hf : f.Acyclic) {P : Fin n → Prop}
    (h : ∀ b, (∀ a, f.Extends b a → P a) → P b) (b : Fin n) : P b := by
  have hd : ∀ d b, f.Shallow d b → P b := by
    intro d
    induction d with
    | zero => exact fun _ hb => hb.elim
    | succ d ih => exact fun b hb => h b fun a ha => ih a (hb a ha)
  exact hd n b (hf.shallow b)

theorem Shallow.carried_succ {d : Nat} (h : f.Shallow d a) : f.carried (d + 1) a = f.carried d a := by
  induction d generalizing a with
  | zero => exact h.elim
  | succ d ih =>
    have hmap : (f.extended a).map (f.carried (d + 1)) = (f.extended a).map (f.carried d) :=
      List.map_congr_left fun b hb => ih (h b hb)
    rw [carried, hmap, carried]

theorem Acyclic.keyClass_eq (hf : f.Acyclic) (a : Fin n) :
    f.keyClass a = .mk a (f.name a) ((f.extended a).map f.keyClass) := by
  rw [keyClass, ← (hf.shallow a).carried_succ]
  rfl

theorem id_keyClass (f : KeyClassFamily n) (a : Fin n) : (f.keyClass a).id = a := by
  have h : ∀ d, (f.carried d a).id = a := by
    intro d
    cases d <;> rfl
  exact h n

theorem sameAs_keyClass : (f.keyClass a).sameAs (f.keyClass b) ↔ a = b := by
  rw [KeyClass.sameAs, id_keyClass, id_keyClass, beq_iff_eq, Fin.val_inj]

theorem Acyclic.isAssignableFrom_eq (hf : f.Acyclic) (a b : Fin n) :
    (f.keyClass a).isAssignableFrom (f.keyClass b) =
      (a = b || (f.extended b).any fun c => (f.keyClass a).isAssignableFrom (f.keyClass c)) := by
  rw [KeyClass.isAssignableFrom, hf.keyClass_eq b, KeyClass.reaches, KeyClass.reachesAny_eq_any, List.any_map,
    id_keyClass]
  simp only [KeyClass.isAssignableFrom, id_keyClass, Function.comp_def, beq_eq_decide, Fin.val_inj]

/-- A key-class is assignable from those that chains of extensions lead from to it. -/
theorem Acyclic.assignable_iff (hf : f.Acyclic) :
    (f.keyClass a).isAssignableFrom (f.keyClass b) ↔ Relation.ReflTransGen f.Extends b a := by
  induction b using hf.supertypes_first with
  | h b ih =>
    rw [hf.isAssignableFrom_eq, Bool.or_eq_true, decide_eq_true_eq, List.any_eq_true,
      Relation.ReflTransGen.cases_head_iff, eq_comm]
    exact or_congr_right (exists_congr fun c => and_congr_right fun hc => ih c hc)

theorem anyM_of_forall {α : Type} {l : List α} {p : α → Option Bool} {q : α → Bool}
    (h : ∀ x ∈ l, p x = some (q x)) : l.anyM p = some (l.any q) := by
  induction l with
  | nil => rfl
  | cons x l ih =>
    obtain ⟨hx, hl⟩ := List.forall_mem_cons.1 h
    rw [List.anyM, hx, List.any_cons]
    cases q x with
    | true => rfl
    | false => exact ih hl

theorem Shallow.search_eq (hf : f.Acyclic) {d : Nat} (h : f.Shallow d b) :
    f.search a d b = some ((f.keyClass a).isAssignableFrom (f.keyClass b)) := by
  induction d generalizing b with
  | zero => exact h.elim
  | succ d ih =>
    rw [search, anyM_of_forall fun c hc => ih (h c hc), hf.isAssignableFrom_eq]
    by_cases hab : a = b <;> simp [hab]

/-- In a family where none extends itself, the key-classes carry those that they extend, and the search
ends with no more searches inside one another than there are key-classes. What it finds is what the chains
of extensions lead to; so every key-class is assignable from itself, what is assignable from one that is
assignable from another is assignable from that, and of two that are assignable from each other both are
the same. Other names make no difference. -/
theorem search_finds_chains (f : KeyClassFamily n) (hf : f.Acyclic) :
    (∀ a, f.keyClass a = .mk a (f.name a) ((f.extended a).map f.keyClass)) ∧
    (∀ a b, f.search a n b = some ((f.keyClass a).isAssignableFrom (f.keyClass b))) ∧
    (∀ a b, (f.keyClass a).isAssignableFrom (f.keyClass b) ↔ Relation.ReflTransGen f.Extends b a) ∧
    (∀ a, (f.keyClass a).isAssignableFrom (f.keyClass a)) ∧
    (∀ a b c, (f.keyClass a).isAssignableFrom (f.keyClass b) →
      (f.keyClass b).isAssignableFrom (f.keyClass c) → (f.keyClass a).isAssignableFrom (f.keyClass c)) ∧
    (∀ a b, (f.keyClass a).isAssignableFrom (f.keyClass b) →
      (f.keyClass b).isAssignableFrom (f.keyClass a) → (f.keyClass a).sameAs (f.keyClass b)) ∧
    ∀ names a b, let g : KeyClassFamily n := { f with name := names }
      (g.keyClass a).isAssignableFrom (g.keyClass b) = (f.keyClass a).isAssignableFrom (f.keyClass b) := by
  refine ⟨hf.keyClass_eq, fun a b => (hf.shallow b).search_eq hf, fun a b => hf.assignable_iff, ?_, ?_, ?_, ?_⟩
  · exact fun a => hf.assignable_iff.2 .refl
  · intro a b c hab hbc
    exact hf.assignable_iff.2 ((hf.assignable_iff.1 hbc).trans (hf.assignable_iff.1 hab))
  · intro a b hab hba
    rw [sameAs_keyClass]
    rcases Relation.reflTransGen_iff_eq_or_transGen.1 (hf.assignable_iff.1 hab) with h | h
    · exact h
    · exact absurd (h.trans_left (hf.assignable_iff.1 hba)) (hf b)
  · intro names a b g
    have hg : g.Acyclic := hf
    rw [Bool.eq_iff_iff, hg.assignable_iff, hf.assignable_iff]
    rfl

def shapes : KeyClassFamily 5 where
  name := ["Shape", "Closed", "Closed", "Disc", "Text"].get
  extended := [[], [0], [0], [1, 2], []].get

/-- The search comes to the common supertype by way of either, and to neither of the two from the other. -/
theorem search_finds_chains_shapes :
    shapes.Acyclic ∧ shapes.search 0 5 3 = some true ∧ shapes.search 1 5 2 = some false ∧
    Relation.ReflTransGen shapes.Extends 3 0 ∧ ¬Relation.ReflTransGen shapes.Extends 2 1 := by
  have hf : shapes.Acyclic := acyclic_of_rank Fin.val (by decide)
  obtain ⟨-, hsearch, hchain, -⟩ := search_finds_chains shapes hf
  have hyes : (shapes.keyClass 0).isAssignableFrom (shapes.keyClass 3) = true := by decide
  have hno : (shapes.keyClass 1).isAssignableFrom (shapes.keyClass 2) = false := by decide
  refine ⟨hf, (hsearch 0 3).trans (congrArg some hyes), (hsearch 1 2).trans (congrArg some hno),
    (hchain 0 3).1 hyes, fun h => ?_⟩
  rw [(hchain 1 2).2 h] at hno
  cases hno

end KeyClassFamily

end ProviderRegistry
