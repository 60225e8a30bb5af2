import ProviderRegistry.Proofs.AcyclicNeeds

/-! Which lookups finish. What a lookup comes to is told without a bound on the nesting and without regard
to the factories that are running. A lookup finishes in this sense unless it nests one for the key of a
factory that is running, and then the factories need each other in a ring, so that it never returns. The
fault that stands for such a lookup is met in no other, and what the rest come to is the contract of a
lookup. -/

namespace ProviderRegistry

open Store

namespace Store

variable {s t : Store} {r : RegistryId} {key : Option String}

/-- A lookup finishes if the lookup that its factory makes finishes, when it makes one. The nesting has no
bound here, and no factory is known to be running. -/
inductive Finishes : Store → RegistryId → Option String → Reply (Except LookupFault InstanceId) → Prop
  | intro {s : Store} {r : RegistryId} {key : Option String}
      (nested : Store → RegistryId → Option String → Reply (Except LookupFault InstanceId))
      (h : ∀ point k p q need r', s.settle [] r key = .due point k p → p.factory = .needs q need →
        ((s.start r k p).registry home q).result = .ok r' →
          Finishes ((s.start r k p).registry home q).store r' need
            (nested ((s.start r k p).registry home q).store r' need)) :
      Finishes s r key (lookupWith (needWith fun _ => nested) [] s r key)

theorem lookupWith_congr
    {lookup lookup' : Pending → Store → RegistryId → Option String → Reply (Except LookupFault InstanceId)}
    {pending pending' : Pending} (hs : s.settle pending r key = s.settle pending' r key)
    (h : ∀ point k p q need r', s.settle pending' r key = .due point k p → p.factory = .needs q need →
      ((s.start r k p).registry home q).result = .ok r' →
        lookup ((r, k) :: pending) ((s.start r k p).registry home q).store r' need =
          lookup' ((r, k) :: pending') ((s.start r k p).registry home q).store r' need) :
    lookupWith (needWith lookup) pending s r key = lookupWith (needWith lookup') pending' s r key := by
  unfold lookupWith
  rw [hs]
  cases hset : s.settle pending' r key with
  | refused | cached => rfl
  | due point k p =>
    have hmade : runFactory (needWith lookup ((r, k) :: pending)) s r point k p =
        runFactory (needWith lookup' ((r, k) :: pending')) s r point k p := by
      unfold runFactory
      cases hf : p.factory with
      | makes | makesOther | fails => rfl
      | needs q need =>
        have hneed : needWith lookup ((r, k) :: pending) (s.start r k p) q need =
            needWith lookup' ((r, k) :: pending') (s.start r k p) q need := by
          unfold needWith
          dsimp only
          cases hres : ((s.start r k p).registry home q).result with
          | error => rfl
          | ok r' => simp only [h point k p q need r' hset hf hres]
        simp only [hneed]
    simp only [hmade]

theorem Finishes.unique {a b : Reply (Except LookupFault InstanceId)} (ha : Finishes s r key a) :
    Finishes s r key b → a = b := by
  induction ha generalizing b with
  | intro nested _ ih =>
    rintro ⟨nested', h'⟩
    apply lookupWith_congr rfl
    intro point k p q need r' hs hf hr
    exact ih point k p q need r' hs hf hr (h' point k p q need r' hs hf hr)

/-- Which factories are running matters only to a lookup that would run one of them. -/
theorem settle_cases (s : Store) (pending : Pending) (r : RegistryId) (key : Option String) :
    s.settle pending r key = s.settle [] r key ∨ ∃ point k p, s.settle [] r key = .due point k p ∧
      (r, k) ∈ pending ∧ s.settle pending r key = .refused (.unending point k) := by
  unfold settle
  cases s.registries[r]? with
  | none => exact .inl rfl
  | some reg =>
    dsimp only
    cases reg.effectiveKey key with
    | none => exact .inl rfl
    | some k =>
      dsimp only
      cases reg.instance? k with
      | some i => exact .inl rfl
      | none =>
        dsimp only
        cases reg.index.get? k with
        | none => exact .inl rfl
        | some p =>
          by_cases hp : (r, k) ∈ pending
          · exact .inr ⟨reg.point.name, k, p, by simp, hp, by simp [hp]⟩
          · exact .inl (by simp [hp])

theorem settle_of_due {pending : Pending} {point k : String} {p : ProviderClass}
    (h : s.settle pending r key = .due point k p) : s.settle [] r key = .due point k p := by
  rcases s.settle_cases pending r key with hs | ⟨_, _, _, -, -, hs⟩
  · exact hs ▸ h
  · rw [h] at hs
    cases hs

theorem settle_eq_due {k : String} {p : ProviderClass} (hk : s.effectiveKey r key = some k)
    (hi : s.instance? r k = none) (hp : s.class? r k = some p) :
    ∃ point, s.settle [] r key = .due point k p := by
  obtain ⟨reg, hreg, hk⟩ := Option.bind_eq_some_iff.1 hk
  simp only [Store.instance?, Store.class?, hreg, Option.bind_some] at hi hp
  exact ⟨reg.point.name, by simp [settle, hreg, hk, hi, hp]⟩

/-- There is no instance under the one key yet, and the factory of its class looks up the other, on a
registry that the home loader keeps. -/
inductive LeadsTo (s : Store) : RegistryId × String → RegistryId × String → Prop
  | intro {r r' : RegistryId} {k k' : String} {p : ProviderClass} {q : ExtensionPoint} {need : Option String}
      (hi : s.instance? r k = none) (hp : s.class? r k = some p) (hf : p.factory = .needs q need)
      (hv : q.invalid? = none) (hb : s.built? home q.typeId = some r') (hk : s.effectiveKey r' need = some k') :
      LeadsTo s (r, k) (r', k')

theorem leadsTo_le (hg : Grows s t) (hi : ∀ r k, t.instance? r k = s.instance? r k) : s.LeadsTo ≤ t.LeadsTo := by
  rintro _ _ ⟨hn, hp, hf, hv, hb, hk⟩
  exact .intro ((hi _ _).trans hn) (hg.class? hp) hf hv (hg.kept _ _ _ hb) (hg.effectiveKey hk)

/-- No lookup finishes that is for a key of a ring: each of the lookups inside it is for the next one. -/
theorem Finishes.not_ring {a : Reply (Except LookupFault InstanceId)} (h : Finishes s r key a) :
    Coherent s → ∀ k, s.effectiveKey r key = some k → ¬Relation.TransGen s.LeadsTo (r, k) (r, k) := by
  induction h with
  | @intro s r key nested _ ih =>
    intro hc k hk hring
    obtain ⟨y, hstep, hback⟩ := Relation.TransGen.head'_iff.1 hring
    obtain @⟨_, r', _, k', p, q, need, hi, hp, hf, hv, hb, hk'⟩ := hstep
    obtain ⟨point, hdue⟩ := settle_eq_due hk hi hp
    have hg : Grows s (s.start r k p) := grows_start hi p
    have hstart : Coherent (s.start r k p) := hc.start hi p
    have hreply : (s.start r k p).registry home q = ⟨s.start r k p, [], .ok r'⟩ :=
      RegistryCall.reply_of_built (c := ⟨s.start r k p, home, q⟩) hstart hv hb
    have hagain : Relation.TransGen (s.start r k p).LeadsTo (r', k') (r', k') :=
      Relation.TransGen.mono (leadsTo_le hg fun j l => instance?_start s r j k l p) _ _
        (.tail' hback (.intro hi hp hf hv hb hk'))
    have hnot := ih point k p q need r' hdue hf (by rw [hreply])
    rw [hreply] at hnot
    exact hnot hstart k' (hg.effectiveKey hk') hagain

end Store

namespace LookupCall

variable {w : World} {c d : LookupCall}

/-- No lookup inside it, nor itself, is for the key of a factory that is running. -/
def Returns (c : LookupCall) : Prop := ∀ d ∈ c.chain, ¬d.Circular

/-- The factories that are running look up, directly or through each other, what the lookup is for. -/
def Sought (c : LookupCall) : Prop :=
  ∀ x ∈ c.pending, ∀ k, c.effectiveKey = some k → Relation.TransGen c.store.LeadsTo x (c.registry, k)

theorem sought_lookup (s : Store) (r : RegistryId) (key : Option String) : (s.lookup r key).Sought := by
  intro x hx
  cases hx

theorem settled_eq (h : 0 < c.depth) : c.settled = c.store.settle c.pending c.registry c.key := by
  obtain ⟨n, hn⟩ := Nat.exists_eq_add_one.2 h
  simp only [settled, hn]

theorem circular_spec (hc : c.Circular) (h : 0 < c.depth) :
    ∃ k, c.effectiveKey = some k ∧ (c.registry, k) ∈ c.pending := by
  obtain ⟨point, k, hs⟩ := hc
  rw [settled_eq h] at hs
  rcases c.store.settle_cases c.pending c.registry c.key with he | ⟨_, k, _, hdue, hk, -⟩
  · exact absurd ⟨point, k, he.symm.trans hs⟩ (c.store.not_circular_lookup c.registry c.key)
  · exact ⟨k, (settle_due hdue).1, hk⟩

theorem settle_of_not_circular (hc : ¬c.Circular) (h : 0 < c.depth) :
    c.store.settle c.pending c.registry c.key = c.store.settle [] c.registry c.key := by
  rcases c.store.settle_cases c.pending c.registry c.key with he | ⟨point, k, _, -, -, hs⟩
  · exact he
  · exact absurd ⟨point, k, (settled_eq h).trans hs⟩ hc

namespace Within

variable {point k : String} {p : ProviderClass} {q : ExtensionPoint}

theorem leadsTo (hw : Within c d point k p q) (h : Coherent c.store) {k' : String}
    (hk : d.effectiveKey = some k') : d.store.LeadsTo (c.registry, k) (d.registry, k') := by
  obtain ⟨-, hi, hp, -⟩ := settled_due hw.due
  obtain ⟨-, hg, hins⟩ := needed_steady h hw.needed
  rw [← hw.store] at hg hins
  have hv : q.invalid? = none := RegistryCall.valid_of_ok hw.given
  exact .intro ((hins _ _).trans hi) (((grows_started c).trans hg).class? hp) hw.needs hv (hw.kept h) hk

end Within

theorem Sought.inner (hs : c.Sought) (h : Coherent c.store) (hi : c.inner? = some d) : d.Sought := by
  obtain ⟨point, k, p, q, hw⟩ := within_inner hi
  obtain ⟨hk, -, -, -⟩ := settled_due hw.due
  obtain ⟨-, hg, hins⟩ := needed_steady h hw.needed
  rw [← hw.store] at hg hins
  intro x hx k' hk'
  rw [hw.pending] at hx
  have hlast := hw.leadsTo h hk'
  rcases List.mem_cons.1 hx with rfl | hx
  · exact .single hlast
  · have hto := Relation.TransGen.mono (leadsTo_le ((grows_started c).trans hg) hins) _ _ (hs x hx k hk)
    exact hto.tail hlast

theorem Returns.not_circular (h : c.Returns) : ¬c.Circular :=
  h c (by rw [chain_eq]; exact List.mem_cons_self)

theorem Returns.inner (h : c.Returns) (hi : c.inner? = some d) : d.Returns := by
  intro e he
  refine h e ?_
  rw [chain_eq, hi]
  exact List.mem_cons_of_mem c he

theorem returns_of_inner (hc : ¬c.Circular) (h : ∀ d, c.inner? = some d → d.Returns) : c.Returns := by
  intro d hd
  rw [chain_eq] at hd
  rcases List.mem_cons.1 hd with rfl | hd
  · exact hc
  · cases hi : c.inner? with
    | none => simp [hi] at hd
    | some e => exact h e hi d (by simpa [hi] using hd)

theorem not_circular_of_due {point k : String} {p : ProviderClass} (hs : c.settled = .due point k p) :
    ¬c.Circular := by
  rintro ⟨_, _, hs'⟩
  cases hs.symm.trans hs'

theorem settled_unending {f : LookupFault} (h : c.settled = .refused f) (hf : f.isUnending = true) :
    c.Circular := by
  cases hd : c.depth with
  | zero => exact ⟨_, _, by simp only [settled, hd]; rfl⟩
  | succ n =>
    rw [settled_eq (by omega)] at h
    rcases c.store.settle_cases c.pending c.registry c.key with he | ⟨point, k, _, -, -, hs⟩
    · rw [settle_refused (he.symm.trans h)] at hf
      cases hf
    · exact ⟨point, k, (settled_eq (by omega)).trans hs⟩

/-- The fault that stands for a lookup that does not return is met by no other. -/
theorem returns_iff (c : LookupCall) :
    c.Returns ↔ ∀ f, c.reply.result = .error f → f.isUnending = false := by
  induction c using nested_induction with
  | step c ih =>
    have hc := c.course
    generalize c.reply = a at hc
    cases hc with
    | refused hs =>
      obtain ⟨-, -, hi, -⟩ := idle (c := c) (by simp [hs])
      constructor
      · intro h f hf
        cases hf
        exact Bool.eq_false_iff.2 fun hf => h.not_circular (settled_unending hs hf)
      · intro h
        refine returns_of_inner ?_ (by simp [hi])
        rintro ⟨point, k, hs'⟩
        cases hs.symm.trans hs'
        exact absurd (h _ rfl) (by simp [LookupFault.isUnending])
    | cached hs =>
      obtain ⟨-, -, hi, -⟩ := idle (c := c) (by simp [hs])
      refine ⟨fun _ _ hf => (by cases hf), fun _ => returns_of_inner ?_ (by simp [hi])⟩
      rintro ⟨point, k, hs'⟩
      cases hs.symm.trans hs'
    | fails hs hf =>
      have hn := not_circular_of_due hs
      cases hf with
      | otherType hf | failed hf =>
        have hi := (needs_nothing hs (by simp [hf])).2.1
        exact ⟨fun _ f hf => by cases hf; rfl, fun _ => returns_of_inner hn (by simp [hi])⟩
      | ungiven hneed hr =>
        refine ⟨fun _ f hf => by cases hf; rfl, fun _ => returns_of_inner hn fun d hi => ?_⟩
        obtain ⟨_, _, _, _, hw⟩ := within_inner hi
        cases hneed.symm.trans hw.needed
        cases hr.symm.trans hw.given
      | @missed d f hi hr =>
        constructor
        · intro h g hg
          cases hg
          exact (ih d hi).1 (h.inner hi) f hr
        · intro h
          refine returns_of_inner hn fun d' hi' => ?_
          cases hi.symm.trans hi'
          refine (ih d hi).2 fun g hg => ?_
          rw [hr] at hg
          cases hg
          exact h (.needMissed _ _ f) rfl
    | makes hs hf =>
      refine ⟨fun _ _ hf => (by cases hf), fun _ => returns_of_inner (not_circular_of_due hs) fun d hi => ?_⟩
      exact (ih d hi).2 fun g hg => absurd (.missed hi hg) (hf _)

theorem inner?_of_due {n : Nat} {point k : String} {p : ProviderClass} {q : ExtensionPoint}
    {need : Option String} {r : RegistryId} (hn : c.depth = n + 1) (hs : c.settled = .due point k p)
    (hf : p.factory = .needs q need) (hr : ((c.store.start c.registry k p).registry home q).result = .ok r) :
    c.inner? = some ⟨n, (c.registry, k) :: c.pending, ((c.store.start c.registry k p).registry home q).store,
      r, need⟩ := by
  have hneed : c.needed? = some (⟨c.store.start c.registry k p, home, q⟩, need) := by
    simp only [needed?, hs, hf, started_of_due hs]
  have hr : (RegistryCall.mk (c.store.start c.registry k p) home q).reply.result = .ok r := hr
  simp only [inner?, hs, hneed, hr, hn, Nat.add_sub_cancel]
  rfl

/-- A lookup finishes with what it comes to in the bound, unless it nests one for the key of a running factory. -/
theorem Placed.finishes (c : LookupCall) :
    c.Placed → c.Returns → Finishes c.store c.registry c.key c.reply := by
  induction c using nested_induction with
  | step c ih =>
    intro h hret
    obtain ⟨n, hn⟩ := Nat.exists_eq_add_one.2 h.depth_pos
    have hset := settle_of_not_circular hret.not_circular h.depth_pos
    have hsettled : c.settled = c.store.settle [] c.registry c.key := (settled_eq h.depth_pos).trans hset
    -- the lookup inside, made in the bound that is left and among the factories that run then
    let nested := lookupFuel n ((c.registry, c.effectiveKey.getD "") :: c.pending)
    have hkey : ∀ {point k p}, c.settled = .due point k p → c.effectiveKey.getD "" = k := by
      intro point k p hs
      simp [(settled_due hs).1]
    have hreply : c.reply = lookupWith (needWith fun _ => nested) [] c.store c.registry c.key := by
      have hfuel : c.reply = lookupWith (needWith (lookupFuel n)) c.pending c.store c.registry c.key := by
        simp only [reply, hn, lookupFuel]
      rw [hfuel]
      apply lookupWith_congr hset
      intro point k p q need r' hs _ _
      rw [← hsettled] at hs
      simp only [nested, hkey hs]
    rw [hreply]
    apply Finishes.intro
    intro point k p q need r' hs hf hr
    rw [← hsettled] at hs
    have hi := inner?_of_due hn hs hf hr
    have hfin := ih _ hi (h.inner hi) (hret.inner hi)
    simp only [nested, hkey hs]
    exact hfin

theorem finishes_inner {a : Reply (Except LookupFault InstanceId)} (h : c.Placed)
    (ha : Finishes c.store c.registry c.key a) (hi : c.inner? = some d) :
    ∃ b, Finishes d.store d.registry d.key b := by
  obtain ⟨point, k, p, q, hw⟩ := within_inner hi
  have hdue := hw.due
  rw [settled_eq h.depth_pos] at hdue
  have hgiven := hw.given
  have hstore := hw.store
  rw [started_of_due hw.due] at hgiven hstore
  cases ha with
  | intro nested hn =>
    rw [hstore]
    exact ⟨_, hn point k p q d.key d.registry (settle_of_due hdue) hw.needs hgiven⟩

theorem returns_of_finishes (c : LookupCall) : c.Placed → c.Sought →
    ∀ a, Finishes c.store c.registry c.key a → c.Returns := by
  induction c using nested_induction with
  | step c ih =>
    intro h hs a ha
    refine returns_of_inner ?_ ?_
    · intro hc
      obtain ⟨k, hk, hx⟩ := circular_spec hc h.depth_pos
      exact ha.not_ring h.coherent k hk (hs _ hx k hk)
    · intro d hi
      obtain ⟨b, hb⟩ := finishes_inner h ha hi
      exact ih d hi (h.inner hi) (hs.inner h.coherent hi) b hb

theorem finishes_iff (h : c.Placed) (hs : c.Sought) {a : Reply (Except LookupFault InstanceId)} :
    Finishes c.store c.registry c.key a ↔ a = c.reply ∧ c.Returns := by
  constructor
  · intro ha
    have hret := returns_of_finishes c h hs a ha
    exact ⟨ha.unique (Placed.finishes c h hret), hret⟩
  · rintro ⟨rfl, hret⟩
    exact Placed.finishes c h hret

/-- Of a codec and a sink that need each other neither lookup finishes. -/
example :
    let needy : ProviderClass := { fileClass with factory := .needs codec (some "zip") }
    let s := (empty (.ofCwd [])).after
      [.addLoader (.memory codecManifests) (.ofClasses [zipClass, needy]), .registry 0 codec]
    ¬∃ a, Finishes s 0 (some "zip") a := by
  rintro needy s ⟨a, ha⟩
  have hplaced : (s.lookup 0 (some "zip")).Placed := placed_lookup ((coherent_empty _).after _)
    (invariant_stocked.after (stocked_empty _) _) 0 (some "zip")
  obtain ⟨-, hret⟩ := (finishes_iff hplaced (sought_lookup s 0 (some "zip"))).1 ha
  have hr : (s.lookup 0 (some "zip")).reply.result =
      .error (.needMissed "Codec" "zip" (.needMissed "Sink" "file" (.unending "Codec" "zip"))) := by
    decide +kernel
  exact absurd ((s.lookup 0 (some "zip")).returns_iff.1 hret _ hr) (by decide)

theorem Led.returns (h : c.Led w) (hw : w.Acyclic) : c.Returns := by
  intro d hd hc
  have hled := h.chain d hd
  obtain ⟨k, hk, hx⟩ := circular_spec hc hled.placed.depth_pos
  exact hled.not_pending hw hk hx

theorem Led.finishes (h : c.Led w) (hw : w.Acyclic) : Finishes c.store c.registry c.key c.reply :=
  Placed.finishes c h.placed (h.returns hw)

/-- The lookup is for a key whose factory is running, and this factory needs the key itself, directly or
through the others. -/
def InRing (c : LookupCall) : Prop :=
  ∃ k, c.effectiveKey = some k ∧ (c.registry, k) ∈ c.pending ∧
    Relation.TransGen c.store.LeadsTo (c.registry, k) (c.registry, k)

/-- What becomes of a lookup on a registry. What it finishes with is what it comes to in the bound, and the
contract holds of that. It does not finish just when there is a lookup inside it that closes a ring, so if
it comes to no factory that needs a provider, it finishes. -/
structure Fate (c : LookupCall) (reg : Registry) : Prop where
  finished : ∀ a, Finishes c.store c.registry c.key a →
    a = c.reply ∧ (∀ f, a.result = .error f → f.isUnending = false) ∧ c.Contract reg
  endless : (¬∃ a, Finishes c.store c.registry c.key a) ↔ ∃ d ∈ c.chain, d.InRing
  alone : (∀ k p q need, reg.effectiveKey c.key = some k → reg.index.get? k = some p →
    reg.instance? k = none → p.factory ≠ .needs q need) → ∃ a, Finishes c.store c.registry c.key a

theorem Placed.chain (h : c.Placed) (hs : c.Sought) : ∀ d ∈ c.chain, d.Placed ∧ d.Sought :=
  chain_forall (P := fun c => c.Placed ∧ c.Sought)
    (fun _ _ hi hc => ⟨hc.1.inner hi, hc.2.inner hc.1.coherent hi⟩) ⟨h, hs⟩

theorem endless_iff (h : c.Placed) (hs : c.Sought) :
    (¬∃ a, Finishes c.store c.registry c.key a) ↔ ∃ d ∈ c.chain, d.InRing := by
  constructor
  · intro hn
    have hret : ¬c.Returns := fun hret => hn ⟨_, Placed.finishes c h hret⟩
    rw [Returns] at hret
    push Not at hret
    obtain ⟨d, hd, hcirc⟩ := hret
    obtain ⟨hplaced, hsought⟩ := h.chain hs d hd
    obtain ⟨k, hk, hx⟩ := circular_spec hcirc hplaced.depth_pos
    exact ⟨d, hd, k, hk, hx, hsought _ hx k hk⟩
  · rintro ⟨d, hd, k, hk, -, hring⟩ ⟨a, ha⟩
    obtain ⟨hplaced, b, hb⟩ := chain_forall
      (P := fun c => c.Placed ∧ ∃ a, Finishes c.store c.registry c.key a)
      (fun _ _ hi hc => ⟨hc.1.inner hi, finishes_inner hc.1 hc.2.choose_spec hi⟩) ⟨h, a, ha⟩ d hd
    exact hb.not_ring hplaced.coherent k hk hring

/-- A lookup that runs no factory with needs nests none, and it closes no ring, since its key is in none. -/
theorem returns_alone (h : c.Placed) (hs : c.Sought) (hneeds : ∀ k p q need, c.effectiveKey = some k →
      c.store.class? c.registry k = some p → c.store.instance? c.registry k = none →
        p.factory ≠ .needs q need) : c.Returns := by
  apply returns_of_inner
  · intro hcirc
    obtain ⟨k, hk, hx⟩ := circular_spec hcirc h.depth_pos
    obtain ⟨_, hstep, -⟩ := Relation.TransGen.head'_iff.1 (hs _ hx k hk)
    obtain ⟨hi, hp, hf, -, -, -⟩ := hstep
    exact hneeds k _ _ _ hk hp hi hf
  · intro d hi
    obtain ⟨_, k, p, q, hw⟩ := within_inner hi
    obtain ⟨hk, hn, hp, -⟩ := settled_due hw.due
    exact absurd hw.needs (hneeds k p q d.key hk hp hn)

theorem fate (h : c.Placed) (hs : c.Sought) {reg : Registry} (hr : c.store.registries[c.registry]? = some reg) :
    c.Fate reg := by
  refine ⟨?_, endless_iff h hs, ?_⟩
  · intro a ha
    obtain ⟨rfl, hret⟩ := (finishes_iff h hs).1 ha
    exact ⟨rfl, c.returns_iff.1 hret, contract h.coherent hret.not_circular hr⟩
  · intro halone
    refine ⟨_, Placed.finishes c h (returns_alone h hs ?_)⟩
    simpa only [effectiveKey, Store.effectiveKey, Store.class?, Store.instance?, hr, Option.bind_some]
      using halone

end LookupCall

namespace Store

theorem sought_lookups {s : Store} (h : Coherent s) (hs : s.Stocked) (qs : List Request) :
    ∀ c ∈ s.lookups qs, c.Placed ∧ c.Sought := by
  refine lookups_forall (P := fun s => Coherent s ∧ s.Stocked) ?_ ?_ ?_ ⟨h, hs⟩ qs
  · exact fun s q hs => ⟨hs.1.step q, invariant_stocked.step hs.2 q⟩
  · exact fun s r key hs => ⟨LookupCall.placed_lookup hs.1 hs.2 r key, LookupCall.sought_lookup s r key⟩
  · exact fun c d hi hc => ⟨hc.1.inner hi, hc.2.inner hc.1.coherent hi⟩

/-- In every state that a run can come to it is settled which lookups on a registry finish and how, and
so for the lookups that factories make; in a world without cycles all of them finish. An optional lookup
that finishes does what the plain one does, and reports the fault once instead of returning it. -/
theorem lookup_outcome (files : FileTree) (qs : List Request) :
    let s := (empty files).after qs
    (∀ r reg, s.registries[r]? = some reg → ∀ key,
      (s.lookup r key).Fate reg ∧
      (∀ w : World, w.Acyclic → w.Later s → ∃ a, Finishes s r key a) ∧
      (∀ a, Finishes s r key a → a = s.provider r key ∧
        s.optionalProvider r key = ⟨a.store, a.events ++ match a.result with
          | .ok _ => []
          | .error f => [.lookupFailed reg.point.name f.fault], a.result.toOption⟩) ∧
      ∀ q, s.optionalProviderByKeyClass r q = s.optionalProvider r (reg.index.keyForClass q)) ∧
    ∀ c ∈ (empty files).lookups qs, ∀ reg, c.store.registries[c.registry]? = some reg → c.Fate reg := by
  intro s
  have h : Coherent s := (coherent_empty files).after qs
  have hstocked : s.Stocked := invariant_stocked.after (stocked_empty files) qs
  refine ⟨?_, ?_⟩
  · intro r reg hr key
    have hfate : (s.lookup r key).Fate reg :=
      LookupCall.fate (LookupCall.placed_lookup h hstocked r key) (LookupCall.sought_lookup s r key) hr
    refine ⟨hfate, ?_, ?_, fun q => ?_⟩
    · intro w hw hlater
      exact ⟨_, (LookupCall.led_lookup hlater r key).finishes hw⟩
    · intro a ha
      obtain ⟨rfl, -, -⟩ := hfate.finished a ha
      have hp : s.pointName r = reg.point.name := by simp [pointName, hr]
      refine ⟨rfl, ?_⟩
      rw [optionalProvider, optionally_eq, hp]
      rfl
    · have hq : s.keyForClass r q = reg.index.keyForClass q := by simp [keyForClass, hr]
      rw [optionalProviderByKeyClass, providerByKeyClass, hq]
      rfl
  · intro c hc reg hr
    obtain ⟨hplaced, hsought⟩ := sought_lookups (coherent_empty files) (stocked_empty files) qs c hc
    exact LookupCall.fate hplaced hsought hr

/-- The lookup fails with the fault of the one inside it and leaves its key empty, though the other
registry was built meanwhile; the same lookup made again succeeds. -/
theorem lookup_outcome_full_disk :
    let s := (empty (.ofCwd [])).after fullDiskRun
    let c := s.lookup 0 (some "zip")
    c.reply.result = .error (.needMissed "Codec" "zip" (.failed "Sink" "file" "disk full")) ∧
    Finishes s 0 (some "zip") c.reply ∧
    (s.registries.length = 1 ∧ c.reply.store.registries.length = 2) ∧
    (∃ reg k p, s.registries[0]? = some reg ∧ c.Contract reg ∧ reg.effectiveKey (some "zip") = some k ∧
      c.Leaves k p) ∧
    (c.reply.store.provider 0 (some "zip")).result = .ok 1 ∧
    ∃ outer inner reg, (empty (.ofCwd [])).lookups (fullDiskRun ++ [.provider 0 (some "zip")]) =
        [outer, inner] ∧ inner.reply.result = .error (.failed "Sink" "file" "disk full") ∧
      inner.Fate reg := by
  intro s c
  have hfail : c.reply.result =
      .error (.needMissed "Codec" "zip" (.failed "Sink" "file" "disk full")) := by decide +kernel
  obtain ⟨reg, hreg⟩ : ∃ reg, s.registries[0]? = some reg := Option.isSome_iff_exists.1 (by decide +kernel)
  have hplaced : c.Placed := LookupCall.placed_lookup ((coherent_empty _).after fullDiskRun)
    (invariant_stocked.after (stocked_empty _) fullDiskRun) 0 (some "zip")
  have hfinishes : Finishes s 0 (some "zip") c.reply := by
    refine LookupCall.Placed.finishes c hplaced (c.returns_iff.2 fun f hf => ?_)
    rw [hfail] at hf
    cases hf
    rfl
  obtain ⟨hfate, -, -, -⟩ := (lookup_outcome (.ofCwd []) fullDiskRun).1 0 reg hreg (some "zip")
  obtain ⟨-, -, hc⟩ := hfate.finished _ hfinishes
  obtain ⟨k, p, hk, -, hl⟩ := hc.leaves _ hfail rfl
  obtain ⟨outer, inner, hos⟩ : ∃ outer inner,
      (empty (.ofCwd [])).lookups (fullDiskRun ++ [.provider 0 (some "zip")]) = [outer, inner] :=
    List.length_eq_two.1 (by decide +kernel)
  have hres : ((empty (.ofCwd [])).lookups (fullDiskRun ++ [.provider 0 (some "zip")])).map
      (fun d => (d.reply.result, (d.store.registries[d.registry]?).isSome)) =
        [(.error (.needMissed "Codec" "zip" (.failed "Sink" "file" "disk full")), true),
          (.error (.failed "Sink" "file" "disk full"), true)] := by decide +kernel
  rw [hos] at hres
  simp only [List.map_cons, List.map_nil, List.cons.injEq, Prod.mk.injEq, and_true] at hres
  obtain ⟨-, hinner, hsome⟩ := hres
  obtain ⟨reg', hreg'⟩ := Option.isSome_iff_exists.1 hsome
  have hin := (lookup_outcome (.ofCwd []) (fullDiskRun ++ [.provider 0 (some "zip")])).2 inner
    (by simp [hos]) reg' hreg'
  exact ⟨hfail, hfinishes, ⟨by decide +kernel, by decide +kernel⟩, ⟨reg, k, p, hreg, hc, hk, hl⟩,
    by decide +kernel, outer, inner, reg', hos, hinner, hin⟩

end Store

end ProviderRegistry
