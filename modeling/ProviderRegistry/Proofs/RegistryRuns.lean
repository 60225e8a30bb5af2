import ProviderRegistry.Proofs.RunCalls

/-! The requests for registries of a run, in the order they are made, direct ones and those of
factories alike. Between two of them no loader's registries change, and unless a registry is built
past the loaders, no loader changes at all. So what the loaders keep at any moment of a run is
settled by the requests before it. -/

namespace ProviderRegistry

open Store

theorem LookupCall.requests_eq (c : LookupCall) :
    c.requests = (c.needed?.map (·.1)).toList ++ c.inner?.elim [] requests := by
  unfold requests
  rw [chain_eq, List.filterMap_cons]
  cases c.needed? <;> cases c.inner? <;> simp

def Request.registryCalls (s : Store) (q : Request) : List RegistryCall :=
  match q with
  | .registry l p => [⟨s, l, p⟩]
  | q => (q.lookup? s).elim [] LookupCall.requests

def Request.loads : Request → Prop
  | .detachedRegistry _ _ => False
  | _ => True

def Store.registryCalls (s : Store) : List Request → List RegistryCall
  | [] => []
  | q :: qs => q.registryCalls s ++ (s.step q).store.registryCalls qs

/-- What happens between two requests for registries; `loads` says that loaders build them all. -/
structure Quiet (loads : Prop) (s t : Store) : Prop where
  coherent : Coherent t
  grows : Grows s t
  built? : ∀ l ty, t.built? l ty = s.built? l ty
  loaders : loads → ∀ (j : LoaderId) (l : Loader), s.loaders[j]? = some l → t.loaders[j]? = some l

variable {loads : Prop} {s t u : Store}

theorem Quiet.refl (h : Coherent s) : Quiet loads s s :=
  ⟨h, Grows.refl s, fun _ _ => rfl, fun _ _ _ h => h⟩

theorem Quiet.trans (h : Quiet loads s t) (h' : Quiet loads t u) : Quiet loads s u :=
  ⟨h'.coherent, h.grows.trans h'.grows, fun l ty => (h'.built? l ty).trans (h.built? l ty),
    fun hl j l hj => h'.loaders hl j l (h.loaders hl j l hj)⟩

theorem Quiet.of_loaders (h : Coherent t) (hg : Grows s t) (hl : t.loaders = s.loaders) :
    Quiet loads s t :=
  ⟨h, hg, fun l ty => by rw [Store.built?, hl, Store.built?], fun _ j l hj => by rw [hl, hj]⟩

/-- From one state to another by the requests for registries listed, and nothing but quiet between. -/
inductive Follows (loads : Prop) : Store → List RegistryCall → Store → Prop
  | nil {s t : Store} (h : Quiet loads s t) : Follows loads s [] t
  | cons {s t : Store} {c : RegistryCall} {cs : List RegistryCall} (h : Quiet loads s c.store)
      (hr : Follows loads c.reply.store cs t) : Follows loads s (c :: cs) t

namespace Follows

variable {a b : List RegistryCall} {c : RegistryCall}

theorem quiet_left (h : Quiet loads s t) (hf : Follows loads t a u) : Follows loads s a u := by
  cases hf with
  | nil h' => exact .nil (h.trans h')
  | cons h' hr => exact .cons (h.trans h') hr

theorem append (h : Follows loads s a t) (h' : Follows loads t b u) : Follows loads s (a ++ b) u := by
  induction h with
  | nil hq => exact quiet_left hq h'
  | cons hq _ ih => exact .cons hq (ih h')

theorem single (h : Coherent c.store) : Follows loads c.store [c] c.reply.store :=
  .cons (.refl h) (.nil (.refl (RegistryCall.coherent_reply h)))

theorem coherent (h : Follows loads s a t) : Coherent t := by
  induction h with
  | nil hq => exact hq.coherent
  | cons _ _ ih => exact ih

theorem grows (h : Follows loads s a t) : Grows s t := by
  induction h with
  | nil hq => exact hq.grows
  | @cons _ _ c _ hq _ ih => exact (hq.grows.trans c.grows_reply).trans ih

theorem split (h : Follows loads s (a ++ c :: b) t) :
    Follows loads s a c.store ∧ Follows loads c.reply.store b t := by
  induction a generalizing s with
  | nil => cases h with | cons hq hr => exact ⟨.nil hq, hr⟩
  | cons d a ih =>
    cases h with
    | cons hq hr => obtain ⟨h1, h2⟩ := ih hr; exact ⟨.cons hq h1, h2⟩

/-- What the first successful request for a type returned. -/
def first? (calls : List RegistryCall) (j : LoaderId) (ty : Nat) : Option RegistryId :=
  calls.findSome? fun c =>
    if c.loader = j ∧ c.point.typeId = ty then c.reply.result.toOption else none

/-- What a loader keeps is what it kept, else what the first successful request since returned. -/
theorem built? (hs : Coherent s) (h : Follows loads s a t) (j : LoaderId) (ty : Nat) :
    t.built? j ty = (s.built? j ty).or (first? a j ty) := by
  induction h with
  | nil hq => simp [hq.built?, first?]
  | @cons s t c cs hq _ ih =>
    rw [ih (RegistryCall.coherent_reply hq.coherent), RegistryCall.built?_reply hq.coherent,
      first?, first?, List.findSome?_cons]
    split
    · rename_i hj
      obtain ⟨rfl, rfl⟩ := hj
      rw [RegistryCall.kept_first hq.coherent, hq.built?, Option.or_assoc]
      cases c.reply.result.toOption <;> rfl
    · rw [hq.built?]

end Follows

/-- A state between the requests for registries: some lie before it, the others behind it. -/
def Divides (loads : Prop) (s : Store) (calls : List RegistryCall) (t m : Store) : Prop :=
  ∃ pre post, calls = pre ++ post ∧ Follows loads s pre m ∧ Follows loads m post t

namespace Divides

variable {a b : List RegistryCall} {m : Store}

theorem first (hs : Coherent s) (h : Follows loads s a t) : Divides loads s a t s :=
  ⟨[], a, rfl, .nil (.refl hs), h⟩

theorem last (h : Follows loads s a t) : Divides loads s a t t :=
  ⟨a, [], by simp, h, .nil (.refl h.coherent)⟩

theorem behind (h : Follows loads s a t) (hm : Divides loads t b u m) :
    Divides loads s (a ++ b) u m := by
  obtain ⟨pre, post, rfl, h1, h2⟩ := hm
  exact ⟨a ++ pre, post, by simp, h.append h1, h2⟩

theorem before (hm : Divides loads s a t m) (h : Follows loads t b u) :
    Divides loads s (a ++ b) u m := by
  obtain ⟨pre, post, rfl, h1, h2⟩ := hm
  exact ⟨pre, post ++ b, by simp, h1, h2.append h⟩

end Divides

namespace LookupCall

variable {c : LookupCall}

theorem quiet_started (h : Coherent c.store) : Quiet loads c.store c.started :=
  .of_loaders (coherent_started h) (grows_started c) c.loaders_started

theorem quiet_ends (h : Coherent c.store) : Quiet loads c.worked c.reply.store :=
  .of_loaders (c.coherent_reply h) (c.steady h).ends c.loaders_reply

theorem follows_needed (h : Coherent c.store) {n : RegistryCall × Option String}
    (hn : c.needed? = some n) : Follows loads c.started [n.1] n.1.reply.store := by
  have hst := needed_store hn
  exact hst ▸ Follows.single (hst ▸ coherent_started h)

theorem follows_worked (h : Coherent c.store)
    (ih : ∀ d, c.inner? = some d → Coherent d.store → Follows loads d.store d.requests d.reply.store) :
    Follows loads c.started c.requests c.worked := by
  rw [requests_eq]
  cases c.work with
  | alone hn hi hw =>
    rw [hn, hi, hw]
    exact .nil (.refl (coherent_started h))
  | ungiven hn hi hw =>
    rw [hn, hi, hw]
    exact follows_needed h hn
  | @nested n d hn hi hd hw =>
    have hin := ih d hi (hd ▸ (needed_steady h hn).1)
    rw [hn, hi, hw]
    exact (follows_needed h hn).append (hd ▸ hin)

theorem follows (c : LookupCall) :
    Coherent c.store → Follows loads c.store c.requests c.reply.store := by
  induction c using nested_induction with
  | step c ih =>
    intro h
    have hw : Follows loads c.started (c.requests ++ []) c.reply.store :=
      (follows_worked h ih).append (.nil (quiet_ends h))
    rw [List.append_nil] at hw
    exact Follows.quiet_left (quiet_started h) hw

theorem divides_worked (h : Coherent c.store)
    (ih : ∀ d, c.inner? = some d → Coherent d.store →
      ∀ m ∈ d.moments, Divides loads d.store d.requests d.reply.store m) {m : Store}
    (hm : m ∈ (c.needed?.map (·.1.reply.store)).toList ++ c.inner?.elim [] moments) :
    Divides loads c.started c.requests c.worked m := by
  rw [requests_eq]
  cases c.work with
  | alone hn hi _ => simp [hi, hn] at hm
  | ungiven hn hi hw =>
    rw [hn, hi] at hm ⊢
    obtain rfl := List.mem_singleton.1 hm
    rw [hw]
    exact .last (follows_needed h hn)
  | @nested n d hn hi hd hw =>
    have hdc : Coherent d.store := hd ▸ (needed_steady h hn).1
    have hin : Divides loads d.store d.requests d.reply.store m := by
      rcases List.mem_append.1 hm with hm | hm
      · obtain rfl : m = d.store := by simpa [hn, hd] using hm
        exact .first hdc (d.follows hdc)
      · exact ih d hi hdc m (by simpa [hi] using hm)
    rw [hn, hi, hw]
    exact .behind (follows_needed h hn) (hd ▸ hin)

theorem divides (c : LookupCall) :
    Coherent c.store → ∀ m ∈ c.moments, Divides loads c.store c.requests c.reply.store m := by
  induction c using nested_induction with
  | step c ih =>
    intro h m hm
    have hin : ∀ m, Divides loads c.started c.requests c.worked m →
        Divides loads c.store c.requests c.reply.store m := fun m hd => by
      have := Divides.behind (.nil (quiet_started h)) (hd.before (.nil (quiet_ends h)))
      rwa [List.append_nil] at this
    rw [moments_eq, List.mem_cons, List.mem_cons, List.mem_append, List.mem_singleton] at hm
    rcases hm with rfl | rfl | hm | rfl
    · exact .first h (c.follows h)
    · exact hin _ (.first (coherent_started h) (follows_worked h fun d _ => d.follows))
    · exact hin m (divides_worked h ih hm)
    · exact .last (c.follows h)

end LookupCall

namespace Store

theorem quiet_addLoader (h : Coherent s) (locator : Locator) (catalog : Catalog) :
    Quiet loads s (s.addLoader (.new locator catalog)).1 := by
  refine ⟨h.addLoader locator catalog, grows_addLoader s locator catalog,
    built?_addLoader s locator catalog, fun _ j l hj => ?_⟩
  exact getElem?_of_prefix (List.prefix_append _ _) hj

/-- A registry that is built past a loader is kept by none, but the loader's locator is asked. -/
theorem quiet_detachedRegistry (h : Coherent s) (l : LoaderId) (p : ExtensionPoint)
    (hl : ¬loads) : Quiet loads s (s.detachedRegistry l p).store := by
  refine ⟨h.detachedRegistry l p, grows_detachedRegistry s l p, fun j ty => ?_, fun h => absurd h hl⟩
  unfold detachedRegistry
  split
  · rfl
  · dsimp only
    split
    · exact built?_setLocator ..
    · exact built?_setLocator ..

theorem registryCalls_lookup {q : Request} {c : LookupCall} (hc : q.lookup? s = some c) :
    q.registryCalls s = c.requests := by
  cases q <;> cases hc <;> rfl

theorem follows_lookup (h : Coherent s) {q : Request} {c : LookupCall} (hc : q.lookup? s = some c) :
    Follows loads s (q.registryCalls s) (s.step q).store := by
  rw [registryCalls_lookup hc, (step_lookup hc).1]
  obtain rfl := store_lookup? hc
  exact c.follows h

theorem follows_step (h : Coherent s) {q : Request} (hq : loads → q.loads) :
    Follows loads s (q.registryCalls s) (s.step q).store := by
  cases q with
  | addLoader locator catalog => exact .nil (quiet_addLoader h locator catalog)
  | registry l p => exact Follows.single (c := ⟨s, l, p⟩) h
  | detachedRegistry l p => exact .nil (quiet_detachedRegistry h l p hq)
  | provider | providerOrDefault | providerByKeyClass | optionalProvider
  | optionalProviderByKeyClass => exact follows_lookup h rfl

theorem follows_run (h : Coherent s) {qs : List Request} (hq : loads → ∀ q ∈ qs, q.loads) :
    Follows loads s (s.registryCalls qs) (s.after qs) := by
  induction qs generalizing s with
  | nil => exact .nil (.refl h)
  | cons q qs ih =>
    have hstep := follows_step h fun hl => hq hl q List.mem_cons_self
    exact hstep.append (ih (h.step q) fun hl p hp => hq hl p (List.mem_cons_of_mem q hp))

/-- Every moment of a run lies between the requests for registries before it and those after. -/
theorem divides_run (h : Coherent s) {qs : List Request} (hq : loads → ∀ q ∈ qs, q.loads) {m : Store}
    (hm : m ∈ s.moments qs) : Divides loads s (s.registryCalls qs) (s.after qs) m := by
  induction qs generalizing s with
  | nil =>
    obtain rfl : m = s := by simpa [moments] using hm
    exact .first h (.nil (.refl h))
  | cons q qs ih =>
    have hqs : loads → ∀ p ∈ qs, p.loads := fun hl p hp => hq hl p (List.mem_cons_of_mem q hp)
    have hstep := follows_step h fun hl => hq hl q List.mem_cons_self
    have hrest := follows_run (h.step q) hqs
    rw [moments, List.mem_cons, List.mem_append] at hm
    rcases hm with rfl | hm | hm
    · exact .before (.first h hstep) hrest
    · cases hc : q.lookup? s with
      | none => simp [hc] at hm
      | some c =>
        have hcs := store_lookup? hc
        have hd : Divides loads c.store c.requests c.reply.store m :=
          c.divides (hcs ▸ h) m (by simpa [hc] using hm)
        rw [hcs, ← registryCalls_lookup hc, ← (step_lookup hc).1] at hd
        exact hd.before hrest
    · exact .behind hstep (ih (h.step q) hqs hm)

end Store

end ProviderRegistry
