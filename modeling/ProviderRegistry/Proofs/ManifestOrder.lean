import ProviderRegistry.Proofs.LinkOrder

/-! The order of linked manifests. To sort by the origins settles how manifests of different origins
stand, and leaves those of one origin in the order in which the linker presents them. So the link order
is seen exactly where two manifests of one extension point name one origin and hold different texts. -/

namespace ProviderRegistry

namespace Text

variable {α : Type} (name : α → String)

theorem precedes_refl (a : String) : precedes a a :=
  precedesChars_refl a.toList

/-- Sorting leaves those of one name as they stand among each other. -/
theorem filter_mergeSort {p : α → Bool} (hp : ∀ a b, p a → p b → name a = name b) (l : List α) :
    (l.mergeSort fun a b => precedes (name a) (name b)).filter p = l.filter p := by
  have hsorted : (l.filter p).Pairwise fun a b => precedes (name a) (name b) := by
    refine List.pairwise_of_forall_mem_list fun a ha b hb => ?_
    rw [hp a b (List.mem_filter.1 ha).2 (List.mem_filter.1 hb).2]
    exact precedes_refl (name b)
  have hsub := (sublist_mergeSort name hsorted List.filter_sublist).filter p
  rw [List.filter_filter] at hsub
  simp only [Bool.and_self] at hsub
  have hperm := (List.mergeSort_perm l fun a b => precedes (name a) (name b)).filter p
  exact (hsub.eq_of_length hperm.length_eq.symm).symm

variable {name} {l l' : List α}

theorem precedes_head {a b : α} (h : (a :: l).Pairwise fun a b => precedes (name a) (name b))
    (hb : b ∈ a :: l) : precedes (name a) (name b) := by
  rcases List.mem_cons.1 hb with rfl | hb
  · exact precedes_refl (name b)
  · exact (List.pairwise_cons.1 h).1 b hb

theorem mem_iff_of_filter_eq (hf : ∀ k, l.filter (name · = k) = l'.filter (name · = k)) (a : α) :
    a ∈ l ↔ a ∈ l' := by
  have ha : ∀ r : List α, a ∈ r ↔ a ∈ r.filter (name · = name a) := by simp
  rw [ha l, ha l', hf]

/-- Sorted lists that agree name by name are the same list. -/
theorem eq_of_filter_eq (h : l.Pairwise fun a b => precedes (name a) (name b))
    (h' : l'.Pairwise fun a b => precedes (name a) (name b))
    (hf : ∀ k, l.filter (name · = k) = l'.filter (name · = k)) : l = l' := by
  induction l generalizing l' with
  | nil =>
    refine (List.eq_nil_iff_forall_not_mem.2 fun a ha => ?_).symm
    exact List.not_mem_nil ((mem_iff_of_filter_eq hf a).2 ha)
  | cons a l ih =>
    cases l' with
    | nil => exact absurd ((mem_iff_of_filter_eq hf a).1 List.mem_cons_self) List.not_mem_nil
    | cons b l' =>
      -- the heads are of one name, the least in either list, and so the first of that name in both
      have hname : name a = name b :=
        precedes_antisymm (precedes_head h ((mem_iff_of_filter_eq hf b).2 List.mem_cons_self))
          (precedes_head h' ((mem_iff_of_filter_eq hf a).1 List.mem_cons_self))
      have hfirst := hf (name a)
      rw [List.filter_cons_of_pos (by simp), List.filter_cons_of_pos (by simp [hname])] at hfirst
      obtain ⟨rfl, hrest⟩ := List.cons.inj hfirst
      rw [ih (List.pairwise_cons.1 h).2 (List.pairwise_cons.1 h').2 fun k => ?_]
      by_cases hk : name a = k
      · exact hk ▸ hrest
      · have hfk := hf k
        rwa [List.filter_cons_of_neg (by simp [hk]), List.filter_cons_of_neg (by simp [hk])] at hfk

end Text

namespace Locator

variable {ms ms' : List EmbeddedManifest} {name : String}

def Names (name : String) (m : EmbeddedManifest) : Prop := QualifiedName.resourceName m.point.name = name

/-- What is served under a name where the manifests are linked in this order. -/
def linked (name : String) (ms : List EmbeddedManifest) : List Resource :=
  ofEmbedded name (ms.mergeSort fun a b => Text.precedes a.origin b.origin)

theorem mem_ofEmbedded {r : Resource} :
    r ∈ ofEmbedded name ms ↔ ∃ m ∈ ms, Names name m ∧ r = .ofText m.origin m.text := by
  simp only [ofEmbedded, List.mem_map, List.mem_filter, decide_eq_true_eq, Names, and_assoc]
  simp only [eq_comm]

theorem linked_perm (name : String) (ms : List EmbeddedManifest) :
    (linked name ms).Perm (ofEmbedded name ms) :=
  ((List.mergeSort_perm _ _).filter _).map _

theorem sorted_linked (name : String) (ms : List EmbeddedManifest) :
    (linked name ms).Pairwise fun a b => Text.precedes a.origin b.origin := by
  rw [linked, ofEmbedded, List.pairwise_map]
  exact sorted_filter ms _

theorem filter_linked (name : String) (ms : List EmbeddedManifest) (o : String) :
    (linked name ms).filter (·.origin = o) = (ofEmbedded name ms).filter (·.origin = o) := by
  simp only [linked, ofEmbedded, List.filter_map, List.filter_filter]
  rw [Text.filter_mergeSort EmbeddedManifest.origin]
  intro a b ha hb
  simp only [Function.comp_apply, Resource.ofText, Bool.and_eq_true, decide_eq_true_eq] at ha hb
  rw [ha.1, hb.1]

theorem linked_eq_iff : linked name ms' = linked name ms ↔
    ∀ o, (ofEmbedded name ms').filter (·.origin = o) = (ofEmbedded name ms).filter (·.origin = o) := by
  constructor
  · intro h o
    rw [← filter_linked, h, filter_linked]
  · intro h
    refine Text.eq_of_filter_eq (sorted_linked name ms') (sorted_linked name ms) fun o => ?_
    rw [filter_linked, filter_linked, h]

theorem linked_of_perm (h : ms'.Perm ms)
    (hone : ∀ a ∈ ms, ∀ b ∈ ms, Names name a → Names name b → a.origin = b.origin → a.text = b.text) :
    linked name ms' = linked name ms := by
  have hperm : (linked name ms').Perm (linked name ms) :=
    ((linked_perm name ms').trans ((h.filter _).map _)).trans (linked_perm name ms).symm
  refine hperm.eq_of_pairwise ?_ (sorted_linked name ms') (sorted_linked name ms)
  intro r s hr hs hrs hsr
  obtain ⟨a, ha, hna, rfl⟩ := mem_ofEmbedded.1 ((linked_perm name ms').mem_iff.1 hr)
  obtain ⟨b, hb, hnb, rfl⟩ := mem_ofEmbedded.1 ((linked_perm name ms).mem_iff.1 hs)
  have horigin : a.origin = b.origin := Text.precedes_antisymm hrs hsr
  rw [horigin, hone a (h.mem_iff.1 ha) b hb hna hnb horigin]

theorem linked_ne_of_text_ne {a b : EmbeddedManifest} {rest : List EmbeddedManifest} (ha : Names name a)
    (hb : Names name b) (ho : a.origin = b.origin) (ht : a.text ≠ b.text) :
    linked name (a :: b :: rest) ≠ linked name (b :: a :: rest) := by
  intro h
  have hfirst := linked_eq_iff.1 h a.origin
  rw [Names] at ha hb
  simp [ofEmbedded, Resource.ofText, ha, hb, ho, ht] at hfirst

theorem linked_eq_of_perm_iff : (∀ ms', ms'.Perm ms → linked name ms' = linked name ms) ↔
    ∀ a ∈ ms, ∀ b ∈ ms, Names name a → Names name b → a.origin = b.origin → a.text = b.text := by
  refine ⟨fun h a ha b hb hna hnb ho => ?_, fun hone ms' hms => linked_of_perm hms hone⟩
  by_contra ht
  have hba : b ≠ a := fun hba => ht (hba ▸ rfl)
  -- The same manifests with the two in front, in both orders.
  have hab : (a :: b :: (ms.erase a).erase b).Perm ms :=
    ((List.perm_cons_erase ((List.mem_erase_of_ne hba).2 hb)).symm.cons a).trans
      (List.perm_cons_erase ha).symm
  have hswap := (List.Perm.swap a b ((ms.erase a).erase b)).trans hab
  exact linked_ne_of_text_ne hna hnb ho ht ((h _ hab).trans (h _ hswap).symm)

/-- A locator of linked manifests serves every manifest of the named extension point, as often as it is
linked, sorted by the origins, and those of one origin as they are linked. Two orders are served alike
when the manifests of each origin stand alike in both. So every order of the same manifests is served
alike exactly when no two of them for one extension point hold different texts under one origin. -/
theorem served_in_link_order (name : String) (ms : List EmbeddedManifest) :
    ∃ rs, (∀ files, ((ofManifests ms).locate files name).result = .ok rs) ∧
      rs.Perm (ofEmbedded name ms) ∧
      (rs.Pairwise fun a b => Text.precedes a.origin b.origin) ∧
      (∀ o, rs.filter (·.origin = o) = (ofEmbedded name ms).filter (·.origin = o)) ∧
      (∀ ms' files, ((ofManifests ms').locate files name).result = .ok rs ↔
        ∀ o, (ofEmbedded name ms').filter (·.origin = o) = (ofEmbedded name ms).filter (·.origin = o)) ∧
      ((∀ ms' files, ms'.Perm ms → ((ofManifests ms').locate files name).result = .ok rs) ↔
        ∀ a ∈ ms, ∀ b ∈ ms, Names name a → Names name b → a.origin = b.origin → a.text = b.text) := by
  have hserved : ∀ ms' files, ((ofManifests ms').locate files name).result = .ok (linked name ms) ↔
      linked name ms' = linked name ms := by
    intro ms' files
    exact ⟨fun h => Except.ok.inj h, fun h => congrArg Except.ok h⟩
  refine ⟨linked name ms, fun files => rfl, linked_perm name ms, sorted_linked name ms,
    filter_linked name ms, fun ms' files => (hserved ms' files).trans linked_eq_iff, ?_⟩
  rw [← linked_eq_of_perm_iff]
  exact ⟨fun h ms' hms => (hserved ms' (.ofCwd [])).1 (h ms' _ hms),
    fun h ms' files hms => (hserved ms' files).2 (h ms' hms)⟩

end Locator

namespace Linked

open Store in
def sinksOfOneOrigin : Linked := ⟨sinks.classes, [⟨"a", sink, "File"⟩, ⟨"a", sink, "Tape"⟩]⟩

def sinksOfOneOriginReversed : Linked := ⟨sinks.classes, sinksOfOneOrigin.manifests.reverse⟩

def keyedClasses (k : Linked) : Option (List (String × String)) :=
  (sinkBuild k).toOption.map fun reg => reg.index.classes.map fun e => (e.1, e.2.name)

/-- They are served as they are linked, so the class that is linked last has the key. -/
theorem link_order_seen_sinks :
    let served (k : Linked) := ((Locator.ofManifests k.manifests).locate (.ofCwd [])
      (QualifiedName.resourceName Store.sink.name)).result
    sinksOfOneOrigin.manifests.Perm sinksOfOneOriginReversed.manifests ∧
      served sinksOfOneOrigin = .ok [.ofText "a" "File", .ofText "a" "Tape"] ∧
      served sinksOfOneOriginReversed = .ok [.ofText "a" "Tape", .ofText "a" "File"] ∧
      served sinksOfOneOrigin ≠ served sinksOfOneOriginReversed ∧
      keyedClasses sinksOfOneOrigin = some [("file", "Tape")] ∧
      keyedClasses sinksOfOneOriginReversed = some [("file", "File")] := by
  have hsorted : ∀ k : Linked, k.manifests.Pairwise (fun a b => Text.precedes a.origin b.origin) →
      Locator.ofManifests k.manifests = .embedded k.manifests :=
    fun k hk => congrArg Locator.embedded (List.mergeSort_of_pairwise hk)
  have h := hsorted sinksOfOneOrigin (by decide +kernel)
  have hr := hsorted sinksOfOneOriginReversed (by decide +kernel)
  simp only [keyedClasses, sinkBuild, h, hr]
  exact ⟨(List.reverse_perm _).symm, by decide +kernel, by decide +kernel, by decide +kernel,
    by decide +kernel, by decide +kernel⟩

end Linked

end ProviderRegistry
