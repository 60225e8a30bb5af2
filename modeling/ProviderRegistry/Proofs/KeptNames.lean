import ProviderRegistry.Proofs.ByteOrder
import ProviderRegistry.Proofs.LinkOrder

/-! What a catalog keeps of the classes it is made of. Of the classes of one name the first is kept, so a
catalog of two lists answers as that of the first list wherever this one has the name. The classes stand
in the order of their names, each under its own, and whatever was not kept is reported unless it is the
very class that was. -/

namespace ProviderRegistry

namespace Catalog

variable {k : Catalog} {cs : List ProviderClass} {c : ProviderClass} {name : String}

theorem resolve_ofClasses_eq_some_iff : (ofClasses cs).resolve name = some c ↔
    ∃ before after, cs = before ++ c :: after ∧ c.name = name ∧ ∀ d ∈ before, d.name ≠ name := by
  rw [resolve_ofClasses_eq, List.find?_eq_some_iff_append]
  constructor
  · rintro ⟨hname, before, after, hcs, hbefore⟩
    exact ⟨before, after, hcs, by simpa using hname, fun d hd => by simpa using hbefore d hd⟩
  · rintro ⟨before, after, hcs, hname, hbefore⟩
    exact ⟨by simpa using hname, before, after, hcs, fun d hd => by simpa using hbefore d hd⟩

theorem resolve_ofClasses_eq_none_iff : (ofClasses cs).resolve name = none ↔ ∀ c ∈ cs, c.name ≠ name := by
  rw [resolve_ofClasses_eq, List.find?_eq_none]
  simp

theorem resolve_append (cs cs' : List ProviderClass) (name : String) :
    (ofClasses (cs ++ cs')).resolve name = ((ofClasses cs).resolve name).or ((ofClasses cs').resolve name) := by
  rw [resolve_ofClasses_eq, resolve_ofClasses_eq, resolve_ofClasses_eq, List.find?_append]

theorem key_eq_name {e : String × ProviderClass} (he : e ∈ (ofClasses cs).table) : e.2.name = e.1 :=
  (resolve_ofClasses (Keyed.get?_of_mem (sorted_ofClasses cs) he)).2

theorem names_classes (cs : List ProviderClass) :
    (ofClasses cs).classes.map (·.name) = Keyed.keys (ofClasses cs).table := by
  rw [classes, List.map_map, Keyed.keys]
  exact List.map_congr_left fun e he => key_eq_name he

theorem mem_names_iff : name ∈ (ofClasses cs).classes.map (·.name) ↔ ∃ c ∈ cs, c.name = name := by
  rw [names_classes, Keyed.mem_keys_iff, Option.isSome_iff_ne_none, ← resolve, ne_eq,
    resolve_ofClasses_eq_none_iff]
  push Not
  rfl

theorem resolve_of_mem_classes (hc : c ∈ (ofClasses cs).classes) : (ofClasses cs).resolve c.name = some c := by
  obtain ⟨e, he, rfl⟩ := List.mem_map.1 hc
  rw [key_eq_name he]
  exact Keyed.get?_of_mem (sorted_ofClasses cs) he

theorem resolve_foldl_of_some (cs : List ProviderClass) (h : k.resolve name = some c) :
    (cs.foldl add k).resolve name = some c := by
  rw [resolve_foldl_eq, h, Option.some_or]

def passesOver (k : Catalog) (c : ProviderClass) : Bool := (k.resolve c.name).any fun kept => !kept.sameAs c

/-- What adding a class reports is settled by the catalog that comes of all of them. -/
theorem addEvents_eq (k : Catalog) (c : ProviderClass) (cs : List ProviderClass) :
    k.addEvents c = if ((c :: cs).foldl add k).passesOver c then [.duplicateClass c.name] else [] := by
  rw [addEvents, passesOver, List.foldl_cons]
  cases hk : k.resolve c.name with
  | some kept =>
    have hadd : (k.add c).resolve c.name = some kept := by rw [resolve_add_eq, hk, Option.some_or]
    rw [resolve_foldl_of_some cs hadd]
    cases hsame : kept.sameAs c <;> simp [hsame]
  | none =>
    have hadd : (k.add c).resolve c.name = some c := by rw [resolve_add_eq, hk, Option.none_or, if_pos rfl]
    rw [resolve_foldl_of_some cs hadd]
    simp [ProviderClass.sameAs]

/-- Reported is every class that is passed over in the end, in order. -/
theorem eventsFrom_eq (k : Catalog) (cs : List ProviderClass) :
    k.eventsFrom cs = (cs.filter (cs.foldl add k).passesOver).map fun c => .duplicateClass c.name := by
  induction cs generalizing k with
  | nil => rfl
  | cons c cs ih =>
    rw [eventsFrom, ih, addEvents_eq k c cs, List.filter_cons, List.foldl_cons]
    split <;> rfl

theorem passesOver_iff : k.passesOver c ↔ ∃ kept, k.resolve c.name = some kept ∧ ¬kept.sameAs c := by
  rw [passesOver, Option.any_eq_true_iff_get]
  cases k.resolve c.name <;> simp

/-- Where a listed class is passed over, the kept one stands before it. -/
theorem passesOver_at_iff {before after : List ProviderClass} :
    (ofClasses (before ++ c :: after)).passesOver c ↔
      ∃ kept ∈ before, (ofClasses (before ++ c :: after)).resolve c.name = some kept ∧ ¬kept.sameAs c := by
  rw [passesOver_iff]
  constructor
  · rintro ⟨kept, hkept, hne⟩
    refine ⟨kept, ?_, hkept, hne⟩
    rw [resolve_ofClasses_eq, List.find?_append, Option.or_eq_some_iff] at hkept
    rcases hkept with hkept | ⟨-, hkept⟩
    · exact List.mem_of_find?_eq_some hkept
    · rw [List.find?_cons_of_pos (by simp), Option.some.injEq] at hkept
      exact absurd (by rw [hkept, ProviderClass.sameAs, beq_self_eq_true]) hne
  · rintro ⟨kept, -, hkept⟩
    exact ⟨kept, hkept⟩

/-- A name is resolved to the first class that bears it. The classes of a catalog stand in the strict order
of the bytes of their names; these are the names of the list, each of them once, and each class is resolved
from its own name. Every class of the list is reported, in order and as a warning, that stands behind the
kept one of its name and is not this very class, and nothing else. The catalog of two lists answers as that of
the first where this has the name, and as that of the second where it has not. -/
theorem first_of_each_name (cs : List ProviderClass) :
    let k := ofClasses cs
    (∀ name c, k.resolve name = some c ↔ ∃ before after, cs = before ++ c :: after ∧ c.name = name ∧
      ∀ d ∈ before, d.name ≠ name) ∧
    (∀ name, k.resolve name = none ↔ ∀ c ∈ cs, c.name ≠ name) ∧
    k.classes.Pairwise (fun a b => Text.bytes a.name < Text.bytes b.name) ∧
    (∀ name, (k.classes.map (·.name)).count name = if ∃ c ∈ cs, c.name = name then 1 else 0) ∧
    (∀ c ∈ k.classes, k.resolve c.name = some c) ∧
    k.size = k.classes.length ∧
    eventsOf cs = (cs.filter k.passesOver).map (fun c => .duplicateClass c.name) ∧
    (∀ event ∈ eventsOf cs, event.level = .warn) ∧
    (∀ before c after, cs = before ++ c :: after →
      (k.passesOver c ↔ ∃ kept ∈ before, k.resolve c.name = some kept ∧ ¬kept.sameAs c)) ∧
    ∀ cs' name, (ofClasses (cs ++ cs')).resolve name = (k.resolve name).or ((ofClasses cs').resolve name) := by
  intro k
  have hsorted : (k.classes.map (·.name)).Pairwise Text.Before := by
    rw [names_classes]
    exact sorted_ofClasses cs
  refine ⟨fun name c => resolve_ofClasses_eq_some_iff, fun name => resolve_ofClasses_eq_none_iff, ?_, ?_,
    fun c hc => resolve_of_mem_classes hc, (List.length_map _).symm, eventsFrom_eq empty cs, ?_, ?_,
    resolve_append cs⟩
  · exact (List.pairwise_map.1 hsorted).imp Text.Before.bytes_lt
  · intro name
    have hnodup : (k.classes.map (·.name)).Nodup := hsorted.imp fun hab => hab.2
    split
    · rename_i hname
      exact List.count_eq_one_of_mem hnodup (mem_names_iff.2 hname)
    · rename_i hname
      exact List.count_eq_zero.2 fun h => hname (mem_names_iff.1 h)
  · intro event hevent
    rw [eventsOf, eventsFrom_eq, List.mem_map] at hevent
    obtain ⟨c, -, rfl⟩ := hevent
    rfl
  · rintro before c after rfl
    exact passesOver_at_iff

end Catalog

end ProviderRegistry
