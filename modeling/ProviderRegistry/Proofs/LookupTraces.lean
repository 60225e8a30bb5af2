import ProviderRegistry.Proofs.FinishedLookups

/-! How lookups go on in a world without cycles. A lookup asks the holder of its key, whose initialiser is
the factory, and the factory asks the holder of the registry that it needs before it makes a lookup of its
own. All of these lookups finish, and no holder that is asked on the way has an initialiser that is running. -/

namespace ProviderRegistry

open Store

/-- What is made at most once: the registry of a type on a loader, the provider of a key of a registry. -/
inductive Cell
  | registry (loader : LoaderId) (typeId : Nat)
  | provider (registry : RegistryId) (key : String)
  deriving DecidableEq

/-- What happens to a holder: it is asked for what it holds, its initialiser starts, its initialiser ends. -/
inductive Touch
  | asked (cell : Cell)
  | entered (cell : Cell)
  | left (cell : Cell)
  deriving DecidableEq

def Touch.factory? : Touch → Option Cell
  | .entered (.provider r k) => some (.provider r k)
  | _ => none

def FactoryRun.cell (x : FactoryRun) : Cell := .provider x.registry x.key

/-- Whether the initialiser of a holder was started and has not ended. -/
def Running (ts : List Touch) (x : Cell) : Prop := ts.count (.left x) < ts.count (.entered x)

/-- Whether none of the holders asked has an initialiser that is running, those of `xs` running at first. -/
def Untangled : List Cell → List Touch → Prop
  | _, [] => True
  | xs, .asked x :: ts => x ∉ xs ∧ Untangled xs ts
  | xs, .entered x :: ts => Untangled (x :: xs) ts
  | xs, .left x :: ts => Untangled (xs.erase x) ts

theorem Untangled.count_le {before after : List Touch} {x : Cell} {xs : List Cell}
    (h : Untangled xs (before ++ .asked x :: after)) :
    xs.count x + before.count (.entered x) ≤ before.count (.left x) := by
  induction before generalizing xs with
  | nil =>
    have hx : x ∉ xs := h.1
    simp [List.count_eq_zero.2 hx]
  | cons t before ih =>
    rcases t with y | y | y
    · have hrest := ih h.2
      simpa using hrest
    · have hin : Untangled (y :: xs) (before ++ .asked x :: after) := h
      have hrest := ih hin
      rw [List.count_cons] at hrest
      simp only [List.count_cons]
      by_cases hy : y = x <;> simp [hy] at hrest ⊢ <;> omega
    · have hin : Untangled (xs.erase y) (before ++ .asked x :: after) := h
      have hrest := ih hin
      rw [List.count_erase] at hrest
      simp only [List.count_cons]
      by_cases hy : y = x <;> simp [hy] at hrest ⊢ <;> omega

theorem Untangled.not_running {ts before after : List Touch} {x : Cell} (h : Untangled [] ts)
    (hts : ts = before ++ .asked x :: after) : ¬Running before x := by
  subst hts
  have hle := h.count_le
  rw [Running]
  omega

namespace RegistryCall

def cell (c : RegistryCall) : Cell := .registry c.loader c.point.typeId

/-- What a request for a registry does to holders: a valid one asks the holder of the type, and the build
is its initialiser. -/
def touches (c : RegistryCall) : List Touch :=
  match c.point.invalid?, c.store.loaders[c.loader]? with
  | none, some l =>
    if (l.built? c.point.typeId).isSome then [.asked c.cell] else [.asked c.cell, .entered c.cell, .left c.cell]
  | _, _ => []

theorem untangled (c : RegistryCall) {xs : List Cell} (hx : c.cell ∉ xs) {ts : List Touch}
    (h : Untangled xs ts) : Untangled xs (c.touches ++ ts) := by
  unfold touches
  split
  · split
    · exact ⟨hx, h⟩
    · refine ⟨hx, ?_⟩
      change Untangled ((c.cell :: xs).erase c.cell) ts
      rwa [List.erase_cons_head]
  · exact h

theorem factory_touches (c : RegistryCall) : c.touches.filterMap Touch.factory? = [] := by
  unfold touches
  split
  · split <;> rfl
  · rfl

theorem runs_reply (c : RegistryCall) : c.reply.store.runs = c.store.runs := by
  have hc := c.course
  generalize c.reply = a at hc
  cases hc <;> rfl

end RegistryCall

namespace LookupCall

variable {w : World} {c d : LookupCall}

def enters? (c : LookupCall) : Option Cell :=
  match c.settled with
  | .due _ k _ => some (.provider c.registry k)
  | _ => none

def asking (c : LookupCall) : List Touch := (c.effectiveKey.map fun k => .asked (.provider c.registry k)).toList

def starting (c : LookupCall) : List Touch :=
  (c.enters?.map .entered).toList ++ (c.needed?.map (·.1.touches)).getD []

def leaving (c : LookupCall) : List Touch := (c.enters?.map .left).toList

/-- What a lookup and those inside it do to holders. -/
def touches (c : LookupCall) : List Touch :=
  c.chain.flatMap (fun d => d.asking ++ d.starting) ++ c.chain.reverse.flatMap leaving

theorem touches_eq (c : LookupCall) :
    c.touches = c.asking ++ (c.starting ++ (c.inner?.elim [] touches ++ c.leaving)) := by
  rw [touches, chain_eq]
  cases c.inner? with
  | none => simp
  | some d => simp [touches]

def running (c : LookupCall) : List Cell := c.pending.map fun x => .provider x.1 x.2

theorem runs_started (c : LookupCall) : c.started.runs.map FactoryRun.cell =
    c.store.runs.map FactoryRun.cell ++ c.enters?.toList := by
  cases hs : c.settled <;> simp [started, enters?, hs, start, FactoryRun.cell]

theorem factory_starting (c : LookupCall) : c.starting.filterMap Touch.factory? = c.enters?.toList := by
  have henters : ((c.enters?.map .entered).toList).filterMap Touch.factory? = c.enters?.toList := by
    unfold enters?
    split <;> rfl
  rw [starting, List.filterMap_append, henters]
  cases c.needed? with
  | none => exact List.append_nil _
  | some n => simp [n.1.factory_touches]

theorem factory_leaving (c : LookupCall) : c.leaving.filterMap Touch.factory? = [] := by
  rw [leaving]
  cases c.enters? <;> rfl

theorem runs_touches (c : LookupCall) : c.reply.store.runs.map FactoryRun.cell =
    c.store.runs.map FactoryRun.cell ++ c.touches.filterMap Touch.factory? := by
  induction c using nested_induction with
  | step c ih =>
    have hasking : c.asking.filterMap Touch.factory? = [] := by
      rw [asking]
      cases c.effectiveKey <;> rfl
    have hneeded : ∀ n, c.needed? = some n → n.1.reply.store.runs = c.started.runs := fun n hn =>
      (n.1.runs_reply).trans (by rw [needed_store hn])
    rw [touches_eq, List.filterMap_append, List.filterMap_append, List.filterMap_append, hasking,
      factory_starting, factory_leaving, List.nil_append, List.append_nil, runs_reply, ← List.append_assoc,
      ← runs_started]
    cases c.work with
    | alone hn hi hw => simp [hi, hw]
    | ungiven hn hi hw => simp [hi, hw, hneeded _ hn]
    | @nested n d hn hi hd hw =>
      rw [hi, hw, Option.elim_some, ih d hi, hd, hneeded n hn]

section

variable {point k : String} {p : ProviderClass} {xs : List Cell} {ts : List Touch}

theorem enters_of_due (hs : c.settled = .due point k p) : c.enters? = some (.provider c.registry k) := by
  simp only [enters?, hs]

theorem untangled_starting (hs : c.settled = .due point k p)
    (h : Untangled (.provider c.registry k :: c.running) ts) : Untangled c.running (c.starting ++ ts) := by
  rw [starting, enters_of_due hs]
  cases c.needed? with
  | none => exact h
  | some n => exact n.1.untangled (by simp [RegistryCall.cell, running]) h

theorem untangled_leaving (hs : c.settled = .due point k p) (h : Untangled xs ts) :
    Untangled (.provider c.registry k :: xs) (c.leaving ++ ts) := by
  rw [leaving, enters_of_due hs]
  change Untangled (List.erase _ _) ts
  rwa [List.erase_cons_head]

theorem touches_of_idle (h : ∀ point k p, c.settled ≠ .due point k p) : c.touches = c.asking := by
  obtain ⟨-, hn, hi, -⟩ := idle h
  have henters : c.enters? = none := by
    unfold enters?
    split
    · rename_i hs
      exact absurd hs (h _ _ _)
    · rfl
  rw [touches_eq, starting, leaving, henters, hn, hi]
  exact List.append_nil _

theorem Led.untangled_asking (hw : w.Acyclic) (h : c.Led w) (hts : Untangled c.running ts) :
    Untangled c.running (c.asking ++ ts) := by
  rw [asking]
  cases hk : c.effectiveKey with
  | none => exact hts
  | some k =>
    refine ⟨?_, hts⟩
    intro hx
    obtain ⟨⟨r, k'⟩, hpending, he⟩ := List.mem_map.1 hx
    cases he
    exact h.not_pending hw hk hpending

end

theorem Led.untangled (hw : w.Acyclic) (c : LookupCall) : c.Led w → ∀ ts,
    Untangled c.running ts → Untangled c.running (c.touches ++ ts) := by
  induction c using nested_induction with
  | step c ih =>
    intro h ts hts
    by_cases hdue : ∃ point k p, c.settled = .due point k p
    · obtain ⟨point, k, p, hs⟩ := hdue
      have hinner : Untangled (.provider c.registry k :: c.running)
          (c.inner?.elim [] touches ++ (c.leaving ++ ts)) := by
        cases hi : c.inner? with
        | none => exact untangled_leaving hs hts
        | some d =>
          obtain ⟨_, _, _, _, hwithin⟩ := within_inner hi
          cases hs.symm.trans hwithin.due
          have hin := ih d hi (h.inner hi) (c.leaving ++ ts)
          rw [running, hwithin.pending] at hin
          exact hin (untangled_leaving hs hts)
      rw [touches_eq]
      simp only [List.append_assoc]
      exact h.untangled_asking hw (untangled_starting hs hinner)
    · rw [touches_of_idle fun point k p hs => hdue ⟨point, k, p, hs⟩]
      exact h.untangled_asking hw hts

end LookupCall

namespace World

open Store LookupCall

variable {w : World}

/-- In a world without cycles, in every state that a program comes to there and for every lookup on a
registry of whatever loader: the lookup finishes, with what the bounded one comes to and with nothing
else; the lookups inside it are at most one more than the pairs, and so are they together with it if all of
them are for classes; the factories that it starts are those of the holders that it enters, and no holder
is asked while its initialiser is running. -/
theorem lookups_finish {files : FileTree} {setup qs : List Request} (hw : w.store = (empty files).after setup)
    (hacyclic : w.Acyclic) (hqs : ∀ q ∈ qs, w.Admits q) (r : RegistryId) (key : Option String) :
    let s := w.store.after qs
    let c := s.lookup r key
    (∀ a, Finishes s r key a ↔ a = s.provider r key) ∧
    (c.chain.tail.length ≤ w.pairs.dedup.length + 1 ∧
      ((∀ d ∈ c.chain, d.Indexed) → c.chain.length ≤ w.pairs.dedup.length + 1)) ∧
    c.reply.store.runs.map FactoryRun.cell = s.runs.map FactoryRun.cell ++ c.touches.filterMap Touch.factory? ∧
    ∀ before x after, c.touches = before ++ .asked x :: after → ¬Running before x := by
  intro s c
  have hlater : w.Later s := by
    have hcoherent : Coherent w.store := hw ▸ (coherent_empty files).after setup
    have hstocked : w.store.Stocked := hw ▸ invariant_stocked.after (stocked_empty files) setup
    exact (Later.refl hcoherent hstocked).after hqs
  have hled : c.Led w := led_lookup hlater r key
  have hfinishes : Finishes s r key (s.provider r key) := hled.finishes hacyclic
  refine ⟨?_, ?_, c.runs_touches, ?_⟩
  · intro a
    constructor
    · intro ha
      exact ha.unique hfinishes
    · rintro rfl
      exact hfinishes
  · obtain ⟨d, hd, hlen⟩ := c.innermost
    have hlen : c.chain.length = d.pending.length + 1 := by
      rw [← hlen]
      exact (Nat.zero_add _).symm
    refine ⟨?_, ?_⟩
    · rw [List.length_tail, hlen]
      exact (hled.chain d hd).pending_le
    · intro hall
      rw [hlen]
      exact Nat.succ_le_succ ((hled.chain d hd).pending_le_of_indexed hacyclic (hall d hd))
  · intro before x after hts
    have huntangled := hled.untangled hacyclic c [] trivial
    rw [List.append_nil] at huntangled
    exact huntangled.not_running hts

def twoLoaders : List Request :=
  [codecLoader, .addLoader (.memory [⟨"extensions/Archive", "a", "Pack"⟩]) (.ofClasses [packClass])]

def archives : World :=
  ⟨(empty (.ofCwd [])).after twoLoaders, [codec, sink, archive], by decide +kernel⟩

/-- The lookup on the other loader takes both pairs of the home loader, so the bound is met. -/
theorem lookups_finish_archives :
    let s := archives.store.after [.registry 1 archive]
    let c := s.lookup 0 (some "pack")
    archives.pairs = [(0, "zip"), (1, "file")] ∧ c.chain.length = archives.pairs.dedup.length + 1 ∧
    c.reply.result = .ok 2 ∧ Finishes s 0 (some "pack") c.reply ∧
    c.chain.tail.length ≤ archives.pairs.dedup.length + 1 ∧
    ∀ before x after, c.touches = before ++ .asked x :: after → ¬Running before x := by
  intro s c
  have hacyclic : archives.Acyclic :=
    acyclic_of_rank (fun x => if x.1 = 0 then 1 else 0) (by decide +kernel)
  have hadmits : ∀ q ∈ [Request.registry 1 archive], archives.Admits q := by
    intro q hq
    obtain rfl := List.mem_singleton.1 hq
    exact List.mem_cons_of_mem _ (List.mem_cons_of_mem _ (List.mem_singleton_self archive))
  have hstore : archives.store = (empty (.ofCwd [])).after twoLoaders := rfl
  obtain ⟨finishes, ⟨nested, -⟩, -, asked⟩ := lookups_finish hstore hacyclic hadmits 0 (some "pack")
  exact ⟨by decide +kernel, by decide +kernel, by decide +kernel, (finishes _).2 rfl, nested, asked⟩

end World

end ProviderRegistry
