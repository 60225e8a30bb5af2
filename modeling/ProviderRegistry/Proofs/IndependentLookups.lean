import ProviderRegistry.Proofs.Renumbering

/-! Lookups in another order. Two lookups are independent if they are for different keys and for different
classes. What one of them comes to is then settled by nothing that the other one changes, so that they can
be made in either order: each is answered as before, and the states after them differ only in that two new
instances may have exchanged their numbers. From two lookups it carries over to a list of them in any order. -/

namespace ProviderRegistry

open Store

theorem ProviderClass.sameAs_comm (a b : ProviderClass) : a.sameAs b = b.sameAs a := Bool.beq_comm

theorem Outcome.renumbered_eq {σ : Equiv.Perm InstanceId} {o : Outcome}
    (h : ∀ i, o.instance? = some i → σ i = i) : o.renumbered σ = o := by
  cases o with
  | loader | registry => rfl
  | provider result =>
    cases result with
    | error => rfl
    | ok i => simp [renumbered, Except.map, h i rfl]
  | optional result =>
    cases result with
    | none => rfl
    | some i => simp [renumbered, h i rfl]

theorem Outcome.instance?_renumbered (σ : Equiv.Perm InstanceId) (o : Outcome) :
    (o.renumbered σ).instance? = o.instance?.map σ := by
  cases o with
  | loader | registry | optional => rfl
  | provider result => cases result <;> rfl

structure Answer where
  request : Request
  events : List Event
  outcome : Outcome

def Answer.renumbered (σ : Equiv.Perm InstanceId) (a : Answer) : Answer :=
  { a with outcome := a.outcome.renumbered σ }

theorem Answer.renumbered_mul (a : Answer) (τ σ : Equiv.Perm InstanceId) :
    (a.renumbered σ).renumbered τ = a.renumbered (τ * σ) := by
  obtain ⟨q, events, outcome⟩ := a
  cases outcome with
  | loader | registry => rfl
  | provider result => cases result <;> rfl
  | optional result => cases result <;> rfl

namespace Store

def answer (s : Store) (q : Request) : Answer := ⟨q, (s.step q).events, (s.step q).result⟩

def answers (s : Store) (qs : List Request) : List Answer :=
  List.zipWith (fun q a => ⟨q, a.events, a.result⟩) qs (s.replies qs)

@[simp] theorem answers_cons (s : Store) (q : Request) (qs : List Request) :
    s.answers (q :: qs) = s.answer q :: (s.step q).store.answers qs := rfl

end Store

namespace Request

variable {s t : Store} {q q' : Request} {σ : Equiv.Perm InstanceId}

def asked? (s : Store) (q : Request) : Option (RegistryId × Option String) :=
  (q.lookup? s).map fun c => (c.registry, c.key)

def place? (s : Store) (q : Request) : Option (RegistryId × String) :=
  (q.asked? s).bind fun e => (s.effectiveKey e.1 e.2).map fun k => (e.1, k)

def class? (s : Store) (q : Request) : Option ProviderClass :=
  (q.place? s).bind fun e => s.class? e.1 e.2

/-- Whether a request is a lookup that makes no other. -/
structure Plain (s : Store) (q : Request) : Prop where
  lookup : (q.lookup? s).isSome
  alone : ∀ p, q.class? s = some p → p.factory.need? = none

/-- Whether two lookups are neither for the same key of the same registry nor for the same class. -/
structure Independent (s : Store) (q q' : Request) : Prop where
  places : ∀ e, q.place? s = some e → q'.place? s ≠ some e
  classes : ∀ p p', q.class? s = some p → q'.class? s = some p' → ¬p.sameAs p'

theorem plain_iff : q.Plain s ↔
    (q.lookup? s).isSome ∧ ∀ p ∈ q.class? s, p.factory.need? = none :=
  ⟨fun h => ⟨h.lookup, h.alone⟩, fun h => ⟨h.1, h.2⟩⟩

theorem independent_iff : q.Independent s q' ↔
    (∀ e ∈ q.place? s, q'.place? s ≠ some e) ∧ ∀ p ∈ q.class? s, ∀ p' ∈ q'.class? s, ¬p.sameAs p' :=
  ⟨fun h => ⟨h.places, fun p hp p' hp' => h.classes p p' hp hp'⟩,
    fun h => ⟨h.1, fun p p' hp hp' => h.2 p hp p' hp'⟩⟩

instance (s : Store) (q : Request) : Decidable (q.Plain s) := decidable_of_iff' _ plain_iff

instance (s : Store) (q q' : Request) : Decidable (q.Independent s q') := decidable_of_iff' _ independent_iff

theorem Independent.symm (h : Independent s q q') : Independent s q' q := by
  refine ⟨fun e he' he => h.places e he he', fun p' p hp' hp => ?_⟩
  rw [p'.sameAs_comm]
  exact h.classes p p' hp hp'

def pointName (s : Store) (q : Request) : String := ((q.asked? s).map fun e => s.pointName e.1).getD ""

def plan (s : Store) (q : Request) : Plan :=
  match q.asked? s with
  | some e => s.plan e.1 e.2
  | none => .answer (.error .noRegistry)

def told (q : Request) (point : String) (a : Reply (Except LookupFault InstanceId)) : Reply Outcome :=
  match q with
  | .optionalProvider _ _ | .optionalProviderByKeyClass _ _ =>
    ⟨a.store, a.events ++ match a.result with
      | .ok _ => []
      | .error f => [.lookupFailed point f.fault], .optional a.result.toOption⟩
  | _ => a.map .provider

@[simp] theorem store_told (q : Request) (point : String) (a : Reply (Except LookupFault InstanceId)) :
    (q.told point a).store = a.store := by
  cases q <;> rfl

@[simp] theorem instance?_told (q : Request) (point : String) (a : Reply (Except LookupFault InstanceId)) :
    (q.told point a).result.instance? = a.result.toOption := by
  cases q <;> rfl

theorem told_renumbered {a b : Reply (Except LookupFault InstanceId)} (he : b.events = a.events)
    (hr : b.result = a.result.map σ) (q : Request) (point : String) :
    (q.told point b).events = (q.told point a).events ∧
      (q.told point b).result = (q.told point a).result.renumbered σ := by
  cases ha : a.result <;> cases q <;>
    simp [told, Reply.map, Outcome.renumbered, he, hr, ha, Except.map, Except.toOption]

theorem step_asked {r : RegistryId} {key : Option String} (h : q.asked? s = some (r, key)) :
    s.step q = q.told (s.pointName r) (s.provider r key) := by
  cases q with
  | addLoader | registry | detachedRegistry => cases h
  | provider | providerOrDefault | providerByKeyClass => cases h; rfl
  | optionalProvider | optionalProviderByKeyClass =>
    cases h
    exact congrArg (Reply.map Outcome.optional) (optionally_eq ..)

theorem Plain.asked (h : q.Plain s) : ∃ r key, q.asked? s = some (r, key) := by
  obtain ⟨c, hc⟩ := Option.isSome_iff_exists.1 h.lookup
  exact ⟨c.registry, c.key, by rw [asked?, hc]; rfl⟩

theorem Plain.step_eq (h : q.Plain s) : s.step q = q.told (q.pointName s) ((q.plan s).carriedOut s) := by
  obtain ⟨r, key, hq⟩ := h.asked
  have halone : ∀ k p, s.effectiveKey r key = some k → s.class? r k = some p → p.factory.need? = none := by
    intro k p hk hp
    exact h.alone p (by simp [class?, place?, hq, hk, hp])
  rw [step_asked hq, provider_eq_plan halone, plan, pointName, hq]
  rfl

theorem plan_run {point : String} {x : FactoryRun} {fault : Option LookupFault}
    (h : q.plan s = .run point x fault) : q.place? s = some (x.registry, x.key) ∧
      q.class? s = some x.provider ∧ s.class? x.registry x.key = some x.provider := by
  unfold plan at h
  split at h
  · rename_i e he
    obtain ⟨hr, hk, hc, -⟩ := Store.plan_run h
    have hplace : q.place? s = some (x.registry, x.key) := by simp [place?, he, hk, hr]
    exact ⟨hplace, by simp [class?, hplace, hr, hc], hr ▸ hc⟩
  · cases h

theorem plan_answer {i : InstanceId} (h : q.plan s = .answer (.ok i)) : ∃ r k, s.instance? r k = some i := by
  unfold plan at h
  split at h
  · exact ⟨_, Store.plan_answer h⟩
  · cases h

section Bare

variable (hb : t.registries.map Registry.bare = s.registries.map Registry.bare)
include hb

theorem asked?_of_bare (q : Request) : q.asked? t = q.asked? s := by
  have hkey : ∀ r k, t.keyForClass r k = s.keyForClass r k := by
    intro r k
    have hreg := congrArg (·.bind (·.index.keyForClass k)) (getElem?_bare hb r)
    rw [Option.bind_map, Option.bind_map] at hreg
    exact hreg
  cases q with
  | providerByKeyClass | optionalProviderByKeyClass => simp [asked?, lookup?, hkey]
  | _ => rfl

theorem pointName_of_bare (q : Request) : q.pointName t = q.pointName s := by
  have hname : ∀ r, t.pointName r = s.pointName r := by
    intro r
    have hreg := congrArg (·.map (·.point.name)) (getElem?_bare hb r)
    simp only [Option.map_map] at hreg
    exact congrArg (·.getD "") hreg
  simp only [pointName, asked?_of_bare hb, hname]

theorem place?_of_bare (q : Request) : q.place? t = q.place? s := by
  simp only [place?, asked?_of_bare hb, effectiveKey_eq_bare, getElem?_bare hb]

theorem class?_of_bare (q : Request) : q.class? t = q.class? s := by
  simp only [class?, place?_of_bare hb, class?_eq_bare, getElem?_bare hb]

theorem Plain.of_bare (h : q.Plain s) : q.Plain t := by
  refine ⟨?_, fun p hp => h.alone p (class?_of_bare hb q ▸ hp)⟩
  have hasked := congrArg Option.isSome (asked?_of_bare hb q)
  simpa [asked?, h.lookup] using hasked

theorem Independent.of_bare (h : Independent s q q') : Independent t q q' := by
  refine ⟨fun e he => ?_, fun p p' hp hp' => ?_⟩
  · rw [place?_of_bare hb] at he ⊢
    exact h.places e he
  · rw [class?_of_bare hb] at hp hp'
    exact h.classes p p' hp hp'

/-- A lookup is planned alike where the holder of its key holds the same but for the number, and the factory
of its class was run as often. -/
theorem plan_eq (hi : ∀ e, q.place? s = some e → t.instance? e.1 e.2 = (s.instance? e.1 e.2).map σ)
    (hr : ∀ p, q.class? s = some p → t.runsOf p = s.runsOf p) : q.plan t = (q.plan s).renumbered σ := by
  unfold plan
  rw [asked?_of_bare hb]
  cases he : q.asked? s with
  | none => rfl
  | some e =>
    refine Store.plan_eq hb (fun k hk => hi (e.1, k) ?_) fun k p hk hp => hr p ?_
    · simp [place?, he, hk]
    · simp [class?, place?, he, hk, hp]

end Bare

end Request

namespace Plan

theorem map_one (result : Except LookupFault InstanceId) : result.map (1 : Equiv.Perm InstanceId) = result := by
  cases result <;> rfl

theorem renumbered_one (plan : Plan) : plan.renumbered 1 = plan := by
  cases plan with
  | answer result => exact congrArg answer (map_one result)
  | run => rfl

theorem result_of_makes {plan : Plan} (h : plan.makes) (s : Store) :
    (plan.carriedOut s).result = .ok s.instances.length := by
  cases plan with
  | answer => cases h
  | run point x fault =>
    cases fault with
    | some => cases h
    | none => rfl

theorem bare_carriedOut (plan : Plan) (s : Store) :
    (plan.carriedOut s).store.registries.map Registry.bare = s.registries.map Registry.bare := by
  cases plan with
  | answer => rfl
  | run => exact bare_attempt ..

theorem length_carriedOut (plan : Plan) (s : Store) :
    (plan.carriedOut s).store.instances.length = s.instances.length + plan.makes.toNat := by
  cases plan with
  | answer => rfl
  | run => exact length_instances_attempt ..

theorem carriedOut_renumbered {σ : Equiv.Perm InstanceId} {s t : Store} (h : Renumbered σ s t) (plan : Plan) :
    Renumbered σ (plan.carriedOut s).store ((plan.renumbered σ).carriedOut t).store ∧
      ((plan.renumbered σ).carriedOut t).events = (plan.carriedOut s).events ∧
      ((plan.renumbered σ).carriedOut t).result = (plan.carriedOut s).result.map σ := by
  cases plan with
  | answer result => exact ⟨h, rfl, rfl⟩
  | run point x fault =>
    refine ⟨h.attempt x fault.isNone, rfl, ?_⟩
    cases fault with
    | some f => rfl
    | none => exact congrArg Except.ok (h.count.trans (h.fresh _ le_rfl).symm)

end Plan

namespace Store

variable {s t : Store} {q q' : Request} {σ : Equiv.Perm InstanceId}

theorem Renumbered.runsOf (h : Renumbered σ s t) (p : ProviderClass) : t.runsOf p = s.runsOf p :=
  h.runs.countP_eq _

theorem bare_step (h : q.Plain s) :
    (s.step q).store.registries.map Registry.bare = s.registries.map Registry.bare := by
  rw [h.step_eq, Request.store_told, Plan.bare_carriedOut]

theorem Renumbered.step (h : Renumbered σ s t) (hq : q.Plain s) :
    Renumbered σ (s.step q).store (t.step q).store ∧ t.answer q = (s.answer q).renumbered σ := by
  have hplan : q.plan t = (q.plan s).renumbered σ :=
    Request.plan_eq h.bare (fun e _ => h.instance? e.1 e.2) fun p _ => h.runsOf p
  obtain ⟨hstore, he, hr⟩ := Plan.carriedOut_renumbered h (q.plan s)
  obtain ⟨hevents, hresult⟩ := Request.told_renumbered he hr q (q.pointName s)
  rw [answer, answer, hq.step_eq, (hq.of_bare h.bare).step_eq, hplan, Request.pointName_of_bare h.bare]
  refine ⟨by simpa using hstore, ?_⟩
  rw [Answer.renumbered, hevents, hresult]

theorem Renumbered.answers (h : Renumbered σ s t) {qs : List Request} (hqs : ∀ q ∈ qs, q.Plain s) :
    Renumbered σ (s.after qs) (t.after qs) ∧ t.answers qs = (s.answers qs).map (·.renumbered σ) := by
  induction qs generalizing s t with
  | nil => exact ⟨h, rfl⟩
  | cons q qs ih =>
    obtain ⟨hq, hqs⟩ := List.forall_mem_cons.1 hqs
    obtain ⟨hstep, hanswer⟩ := h.step hq
    obtain ⟨hafter, hanswers⟩ := ih hstep fun q' hq' => (hqs q' hq').of_bare (bare_step hq)
    exact ⟨hafter, by rw [answers_cons, answers_cons, List.map_cons, hanswer, hanswers]⟩

/-- What a lookup comes to is settled by nothing that one independent of it changes. -/
theorem plan_step (hq : q.Plain s) (h : q.Independent s q') : q'.plan (s.step q).store = q'.plan s := by
  rw [← (q'.plan s).renumbered_one]
  refine Request.plan_eq (bare_step hq) (fun e he => ?_) fun p hp => ?_
  · rw [hq.step_eq, Request.store_told]
    cases hplan : q.plan s with
    | answer => simp [Plan.carriedOut]
    | run point x fault =>
      obtain ⟨hplace, -, hx⟩ := Request.plan_run hplan
      have hne : ¬(x.registry = e.1 ∧ x.key = e.2) := by
        rintro ⟨hr, hk⟩
        exact h.places e (hplace.trans (congrArg some (Prod.ext hr hk))) he
      simp [Plan.carriedOut, instance?_attempt hx _ hne]
  · rw [hq.step_eq, Request.store_told]
    cases hplan : q.plan s with
    | answer => rfl
    | run point x fault =>
      obtain ⟨-, hclass, -⟩ := Request.plan_run hplan
      rw [Plan.carriedOut, runsOf_attempt, if_neg (h.classes x.provider p hclass hp), Nat.add_zero]

/-- Plans of independent lookups can be carried out in either order, each with the same reply but for the
number of a new instance. -/
theorem carriedOut_comm (h : Coherent s) (ht : s.Tracked) (hi : q.Independent s q') :
    let σ := exchange s.instances.length (q.plan s).makes (q'.plan s).makes
    let a := (q.plan s).carriedOut s
    let b := (q'.plan s).carriedOut a.store
    let b' := (q'.plan s).carriedOut s
    let a' := (q.plan s).carriedOut b'.store
    Renumbered σ b.store a'.store ∧ a'.events = a.events ∧ b'.events = b.events ∧
      a'.result = a.result.map σ ∧ b'.result = b.result.map σ := by
  cases hp : q.plan s with
  | answer result => exact ⟨.refl _, rfl, rfl, (Plan.map_one _).symm, (Plan.map_one _).symm⟩
  | run point x fault =>
    cases hp' : q'.plan s with
    | answer result' =>
      dsimp only [Plan.makes]
      rw [exchange_false]
      exact ⟨.refl _, rfl, rfl, (Plan.map_one _).symm, (Plan.map_one _).symm⟩
    | run point' x' fault' =>
      obtain ⟨hplace, -, hx⟩ := Request.plan_run hp
      obtain ⟨hplace', -, hx'⟩ := Request.plan_run hp'
      have hne : ¬(x.registry = x'.registry ∧ x.key = x'.key) := by
        rintro ⟨hr, hk⟩
        exact hi.places _ hplace (hplace'.trans (congrArg some (Prod.ext hr.symm hk.symm)))
      refine ⟨attempt_comm hx hx' hne _ _ h ht, rfl, rfl, ?_, ?_⟩
      · cases fault with
        | some f => rfl
        | none => simp [Plan.carriedOut, Plan.makes, Except.map, length_instances_attempt, exchange_first]
      · cases fault' with
        | some f => rfl
        | none => simp [Plan.carriedOut, Plan.makes, Except.map, length_instances_attempt, exchange_second]

theorem step_step (hq : q.Plain s) (hq' : q'.Plain s) (hi : q.Independent s q') : (s.step q).store.step q' =
    q'.told (q'.pointName s) ((q'.plan s).carriedOut ((q.plan s).carriedOut s).store) := by
  have hb := bare_step hq
  rw [(hq'.of_bare hb).step_eq, plan_step hq hi, Request.pointName_of_bare hb, hq.step_eq, Request.store_told]

theorem step_comm (h : Coherent s) (ht : s.Tracked) (hq : q.Plain s) (hq' : q'.Plain s)
    (hi : q.Independent s q') :
    let σ := exchange s.instances.length (q.plan s).makes (q'.plan s).makes
    Renumbered σ ((s.step q).store.step q').store ((s.step q').store.step q).store ∧
      (s.step q').store.answer q = (s.answer q).renumbered σ ∧
      s.answer q' = ((s.step q).store.answer q').renumbered σ := by
  obtain ⟨hstore, he, he', hr, hr'⟩ := carriedOut_comm h ht hi
  obtain ⟨hevents, hresult⟩ := Request.told_renumbered he hr q (q.pointName s)
  obtain ⟨hevents', hresult'⟩ := Request.told_renumbered he' hr' q' (q'.pointName s)
  simp only [answer, step_step hq hq' hi, step_step hq' hq hi.symm]
  rw [hq.step_eq, hq'.step_eq, Request.store_told, Request.store_told]
  refine ⟨hstore, ?_, ?_⟩
  · rw [hevents, hresult, Answer.renumbered]
  · rw [hevents', hresult', Answer.renumbered]

theorem answered_lt (h : Coherent s) (hq : q.Plain s) {i : InstanceId}
    (hi : (s.step q).result.instance? = some i) : i < (s.step q).store.instances.length := by
  rw [hq.step_eq, Request.instance?_told] at hi
  rw [hq.step_eq, Request.store_told]
  cases hp : q.plan s with
  | answer result =>
    rw [hp] at hi
    cases result with
    | error => cases hi
    | ok j =>
      cases hi
      obtain ⟨r, k, hk⟩ := Request.plan_answer hp
      exact h.instance_lt hk
  | run point x fault =>
    rw [hp] at hi
    cases fault with
    | some => cases hi
    | none =>
      cases hi
      rw [Plan.length_carriedOut]
      exact Nat.lt_succ_self _

theorem answer_renumbered_eq (h : Coherent s) (hq : q.Plain s)
    (hσ : ∀ i < (s.step q).store.instances.length, σ i = i) : (s.answer q).renumbered σ = s.answer q := by
  have houtcome : (s.step q).result.renumbered σ = (s.step q).result :=
    Outcome.renumbered_eq fun i hi => hσ i (answered_lt h hq hi)
  rw [Answer.renumbered, answer, houtcome]

/-- Lookups that are independent of each other are answered alike in any order. -/
theorem answers_perm {qs qs' : List Request} (hp : qs.Perm qs') (h : Coherent s) (ht : s.Tracked)
    (hqs : ∀ q ∈ qs, q.Plain s) (hi : qs.Pairwise (Request.Independent s)) :
    ∃ σ : Equiv.Perm InstanceId, (∀ i < s.instances.length, σ i = i) ∧
      (s.answers qs').Perm ((s.answers qs).map (·.renumbered σ)) ∧ Renumbered σ (s.after qs) (s.after qs') := by
  induction hp generalizing s with
  | nil => exact ⟨1, fun _ _ => rfl, .refl _, .refl s⟩
  | cons q _ ih =>
    obtain ⟨hq, hqs⟩ := List.forall_mem_cons.1 hqs
    have hb := bare_step hq
    obtain ⟨σ, hσ, hanswers, hafter⟩ := ih (h.step q) (abiding_tracked.step h ht q)
      (fun q' hq' => (hqs q' hq').of_bare hb) (hi.tail.imp fun hi => hi.of_bare hb)
    refine ⟨σ, fun i hlt => hσ i (Nat.lt_of_lt_of_le hlt (grows_step h q).instances.length_le), ?_, hafter⟩
    rw [answers_cons, answers_cons, List.map_cons, answer_renumbered_eq h hq hσ]
    exact hanswers.cons _
  | swap q q' qs =>
    obtain ⟨hq', hqs⟩ := List.forall_mem_cons.1 hqs
    obtain ⟨hq, hqs⟩ := List.forall_mem_cons.1 hqs
    have hind : Request.Independent s q' q := (List.pairwise_cons.1 hi).1 q List.mem_cons_self
    obtain ⟨hstore, hanswer, hanswer'⟩ := step_comm h ht hq' hq hind
    have hb := (bare_step (hq.of_bare (bare_step hq'))).trans (bare_step hq')
    obtain ⟨hafter, hanswers⟩ := hstore.answers fun p hp => (hqs p hp).of_bare hb
    refine ⟨_, fun i => exchange_of_lt, ?_, hafter⟩
    simp only [answers_cons, List.map_cons]
    rw [hanswer, hanswer', hanswers]
    exact List.Perm.swap ..
  | trans hp hp' ih ih' =>
    obtain ⟨σ, hσ, hanswers, hafter⟩ := ih h ht hqs hi
    obtain ⟨τ, hτ, hanswers', hafter'⟩ := ih' h ht (fun q hq => hqs q (hp.mem_iff.2 hq))
      ((hp.pairwise_iff fun hi => hi.symm).1 hi)
    refine ⟨τ * σ, fun i hlt => ?_, ?_, hafter.trans hafter'⟩
    · rw [Equiv.Perm.mul_apply, hσ i hlt, hτ i hlt]
    · have hmap := hanswers.map (·.renumbered τ)
      rw [List.map_map] at hmap
      refine hanswers'.trans (hmap.trans (List.Perm.of_eq (List.map_congr_left fun a _ => ?_)))
      exact a.renumbered_mul τ σ

/-- In every state that a run can come to, two plain lookups for different keys and different classes are
answered alike in either order, and leave the same state, but that two new instances exchange their numbers;
and a list of such lookups is answered alike in any order, up to the numbers of new instances, and leaves
instances under the same keys. -/
theorem independent_lookups_commute (files : FileTree) (qs : List Request) :
    ∀ m ∈ (empty files).moments qs,
      (∀ q q', q.Plain m → q'.Plain m → q.Independent m q' → ∃ σ : Equiv.Perm InstanceId,
        (σ = 1 ∨ σ = Equiv.swap m.instances.length (m.instances.length + 1) ∧
          (m.answer q).outcome.instance? = some m.instances.length ∧
          ((m.step q).store.answer q').outcome.instance? = some (m.instances.length + 1)) ∧
        (m.step q').store.answer q = (m.answer q).renumbered σ ∧
        m.answer q' = ((m.step q).store.answer q').renumbered σ ∧
        Renumbered σ (m.after [q, q']) (m.after [q', q])) ∧
      ∀ l l' : List Request, l.Perm l' → (∀ q ∈ l, q.Plain m) → l.Pairwise (Request.Independent m) →
        ∃ σ : Equiv.Perm InstanceId, (∀ i < m.instances.length, σ i = i) ∧
          (m.answers l').Perm ((m.answers l).map (·.renumbered σ)) ∧
          Renumbered σ (m.after l) (m.after l') ∧
          ∀ r k, ((m.after l').instance? r k).isSome = ((m.after l).instance? r k).isSome := by
  intro m hm
  have h : Coherent m := coherent_moments (coherent_empty files) hm
  have ht : m.Tracked := abiding_tracked.moments (coherent_empty files) (tracked_empty files) qs m hm
  refine ⟨fun q q' hq hq' hi => ?_, fun l l' hp hl hi => ?_⟩
  · obtain ⟨hstore, hanswer, hanswer'⟩ := step_comm h ht hq hq' hi
    refine ⟨_, ?_, hanswer, hanswer', hstore⟩
    by_cases hboth : (q.plan m).makes ∧ (q'.plan m).makes
    · refine .inr ⟨by rw [hboth.1, hboth.2]; rfl, ?_, ?_⟩
      · rw [answer, hq.step_eq, Request.instance?_told, Plan.result_of_makes hboth.1, Except.toOption]
      · rw [answer, step_step hq hq' hi, Request.instance?_told, Plan.result_of_makes hboth.2, Except.toOption,
          Plan.length_carriedOut, hboth.1]
        rfl
    · exact .inl (if_neg fun hand => hboth (Bool.and_eq_true_iff.1 hand))
  · obtain ⟨σ, hσ, hanswers, hafter⟩ := answers_perm hp h ht hl hi
    refine ⟨σ, hσ, hanswers, hafter, fun r k => ?_⟩
    rw [hafter.instance?, Option.isSome_map]

def spoolClass : ProviderClass := ⟨2, "Spool", sink, some ⟨"spool", none⟩, .makes⟩

def spoolRun : List Request :=
  [.addLoader (.memory [⟨"extensions/Sink", "s", "File\nSpool"⟩]) (.ofClasses [fileClass, spoolClass]),
    .registry 0 sink]

/-- The two instances exchange their numbers with the places of their lookups, and with a third lookup that
fails the three are answered alike from the last to the first. -/
theorem independent_lookups_spool :
    let s := (empty (.ofCwd [])).after spoolRun
    let file := Request.provider 0 (some "file")
    let spool := Request.optionalProvider 0 (some "spool")
    let tape := Request.provider 0 (some "tape")
    (∃ σ : Equiv.Perm InstanceId, σ 0 = 1 ∧ σ 1 = 0 ∧
      Renumbered σ (s.after [file, spool]) (s.after [spool, file])) ∧
    ∃ σ : Equiv.Perm InstanceId,
      (s.answers [tape, spool, file]).Perm ((s.answers [file, spool, tape]).map (·.renumbered σ)) := by
  intro s file spool tape
  obtain ⟨pairs, lists⟩ := independent_lookups_commute (.ofCwd []) spoolRun s (after_mem_moments ..)
  obtain ⟨σ, -, hfile, hspool, hafter⟩ := pairs file spool (by decide +kernel) (by decide +kernel)
    (by decide +kernel)
  obtain ⟨τ, -, hanswers, -⟩ := lists [file, spool, tape] [tape, spool, file] (List.reverse_perm _).symm
    (by decide +kernel) (by decide +kernel)
  refine ⟨⟨σ, ?_, ?_, hafter⟩, τ, hanswers⟩
  · have hinstance := congrArg (·.outcome.instance?) hfile
    simp only [Answer.renumbered, Outcome.instance?_renumbered] at hinstance
    have hbefore : (s.answer file).outcome.instance? = some 0 := by decide +kernel
    have hbehind : ((s.step spool).store.answer file).outcome.instance? = some 1 := by decide +kernel
    rw [hbefore, hbehind] at hinstance
    exact (Option.some.inj hinstance).symm
  · have hinstance := congrArg (·.outcome.instance?) hspool
    simp only [Answer.renumbered, Outcome.instance?_renumbered] at hinstance
    have hbefore : (s.answer spool).outcome.instance? = some 0 := by decide +kernel
    have hbehind : ((s.step file).store.answer spool).outcome.instance? = some 1 := by decide +kernel
    rw [hbefore, hbehind] at hinstance
    exact (Option.some.inj hinstance).symm

end Store

end ProviderRegistry
