import ProviderRegistry.Proofs.LookupTraces
import ProviderRegistry.Proofs.NeedSupply

/-! The causes behind an error. What is made of an error has a text that ends in the text of the error and
its whole chain behind it. So whatever goes wrong in a locator, a resource or a factory stands unchanged at
the end of the chain of every error that comes of it, and each of the lookups that were nested around it has
put one link in front. -/

namespace ProviderRegistry

open Store

/-- Whether a link is made of another: a context and then the text of that one. -/
def Cause.EndsIn (x y : Cause) : Prop := ∃ kind context, x = .fault kind (context ++ ": " ++ y.shown)

/-- Links in front of a chain, each of which is made of the one behind it. -/
def Cause.Chained (links base : List Cause) : Prop := (links ++ base.take 1).IsChain Cause.EndsIn

namespace Fault

/-- Whether a fault of a kind is made of the error with the given chain. -/
def Onto (f : Fault) (kind : FaultKind) (source : List Cause) : Prop :=
  ∃ context cause rest, source = cause :: rest ∧ f = within kind context cause rest

theorem onto_within (kind : FaultKind) (context : String) (cause : Cause) (rest : List Cause) :
    (within kind context cause rest).Onto kind (cause :: rest) := ⟨context, cause, rest, rfl, rfl⟩

theorem onto_wrap (f : Fault) (kind : FaultKind) (context : String) :
    (f.wrap kind context).Onto kind f.chain :=
  onto_within ..

variable {f : Fault} {kind : FaultKind} {source links base : List Cause}

theorem Onto.causes_eq (h : f.Onto kind source) : f.causes = source := by
  obtain ⟨context, cause, rest, rfl, rfl⟩ := h
  rfl

theorem Onto.chained (h : f.Onto kind source) (hs : source = links ++ base) (hl : Cause.Chained links base) :
    Cause.Chained (f.asCause :: links) base := by
  obtain ⟨context, cause, rest, rfl, rfl⟩ := h
  refine List.isChain_cons.2 ⟨fun y hy => ?_, hl⟩
  have hhead : (links ++ base.take 1).head? = (links ++ base).head? := by
    cases links <;> cases base <;> rfl
  have hy : y ∈ (links ++ base.take 1).head? := hy
  rw [hhead, ← hs, List.head?_cons, Option.mem_some_iff] at hy
  exact ⟨kind, context, by rw [← hy]; rfl⟩

/-- Whether the links of a fault are each made of the one behind it, down to an error from outside, if there
is one. -/
def Traced (outside : List Cause → Prop) (f : Fault) : Prop :=
  ∃ links base, f.causes = links ++ base ∧ Cause.Chained (f.asCause :: links) base ∧ (base = [] ∨ outside base)

section Traced

variable {outside outside' : List Cause → Prop} {g : Fault}

theorem Traced.mono (h : f.Traced outside) (hmono : ∀ base, outside base → outside' base) :
    f.Traced outside' := by
  obtain ⟨links, base, hs, hl, hb⟩ := h
  exact ⟨links, base, hs, hl, hb.imp_right (hmono base)⟩

theorem traced_of_causes_nil (h : f.causes = []) : f.Traced outside :=
  ⟨[], [], h, List.isChain_singleton _, .inl rfl⟩

theorem Onto.traced_outside (h : f.Onto kind source) (hs : outside source) : f.Traced outside := by
  refine ⟨[], source, h.causes_eq, h.chained rfl ?_, .inr hs⟩
  cases source with
  | nil => exact List.isChain_nil
  | cons x r => exact List.isChain_singleton x

theorem Onto.traced (h : f.Onto kind g.chain) (hg : g.Traced outside) : f.Traced outside := by
  obtain ⟨links, base, hs, hl, hb⟩ := hg
  have hchain : g.chain = (g.asCause :: links) ++ base := by rw [chain, hs, List.cons_append]
  exact ⟨g.asCause :: links, base, h.causes_eq.trans hchain, h.chained hchain hl, hb⟩

end Traced

def inContexts (cause : Cause) (rest : List Cause) (steps : List (ContextMethod × String)) :
    Cause × List Cause :=
  steps.foldl (fun e step =>
    let f := inContext step.1 step.2 e.1 e.2
    (f.asCause, f.causes)) (cause, rest)

/-- Every context is one more link in front of the error, which stays as it was; the text of the link is the
context and then the text of the link behind it. -/
theorem inContexts_links (cause : Cause) (rest : List Cause) (steps : List (ContextMethod × String)) :
    ∃ links, (inContexts cause rest steps).1 :: (inContexts cause rest steps).2 = links ++ cause :: rest ∧
      List.Forall₂ (fun step p => p.1 = .fault step.1.kind (step.2 ++ ": " ++ Cause.shown p.2)) steps.reverse
        (links.zip (links.tail ++ [cause])) := by
  induction steps using List.reverseRecOn with
  | nil => exact ⟨[], rfl, .nil⟩
  | append_singleton steps step ih =>
    obtain ⟨links, hchain, hsteps⟩ := ih
    set e := inContexts cause rest steps with he
    have hadded : inContexts cause rest (steps ++ [step]) =
        ((inContext step.1 step.2 e.1 e.2).asCause, e.1 :: e.2) := by
      rw [inContexts, List.foldl_append]
      rfl
    refine ⟨(inContext step.1 step.2 e.1 e.2).asCause :: links, ?_, ?_⟩
    · rw [hadded, hchain, List.cons_append]
    · rw [List.reverse_append, List.reverse_singleton, List.singleton_append, List.tail_cons]
      cases links with
      | nil =>
        obtain ⟨hhead, -⟩ := List.cons.inj hchain
        exact .cons (by rw [hhead]; rfl) hsteps
      | cons x links =>
        obtain ⟨hhead, -⟩ := List.cons.inj hchain
        exact .cons (by rw [hhead]; rfl) hsteps

end Fault

namespace RegistryCall

variable {c : RegistryCall} {l : Loader} {source : List Cause}

structure Scans (c : RegistryCall) (l : Loader) : Prop where
  valid : c.point.invalid? = none
  loader : c.store.loaders[c.loader]? = some l
  unbuilt : l.built? c.point.typeId = none

def located (c : RegistryCall) (l : Loader) : Except Fault (List Resource) :=
  (l.locator.locate c.store.files (QualifiedName.resourceName c.point.name)).result

/-- The errors that a request meets while the registry is built: that of the locator, or that of the first
resource that does not open or can not be read to the end, unless something else is wrong before it. -/
inductive Met (c : RegistryCall) : List Cause → Prop
  | locating {l : Loader} {e : Fault} (ha : c.Scans l) (hl : c.located l = .error e) : c.Met e.chain
  | opening {l : Loader} {rs : List Resource} {pre post : List ReadPoint} {origin : String} {e : OsError}
      (ha : c.Scans l) (hl : c.located l = .ok rs)
      (hps : rs.flatMap (·.points c.store.files) = pre ++ .refused origin e :: post)
      (hpre : ∀ q ∈ pre, ∃ o, q.Gives (acceptanceFor c.point l.catalog) (.ok o)) : c.Met [.note e.shown]
  | reading {l : Loader} {rs : List Resource} {pre post : List ReadPoint} {origin : String} {e : ReadFault}
      (ha : c.Scans l) (hl : c.located l = .ok rs)
      (hps : rs.flatMap (·.points c.store.files) = pre ++ .unread origin e :: post)
      (hpre : ∀ q ∈ pre, ∃ o, q.Gives (acceptanceFor c.point l.catalog) (.ok o)) : c.Met [.note e.shown]

theorem build_error_iff {f : ScanFault} : (c.build l).result = .error f ↔
    (scan c.store.files c.point.name l.locator (acceptanceFor c.point l.catalog)).result = .error f := by
  rw [build, Registry.build_result]
  cases (scan c.store.files c.point.name l.locator (acceptanceFor c.point l.catalog)).result <;>
    simp [Except.map]

theorem Scans.reply_error (h : c.Scans l) {f : ScanFault}
    (hf : (scan c.store.files c.point.name l.locator (acceptanceFor c.point l.catalog)).result = .error f) :
    c.reply.result = .error (.scan c.point.name f) := by
  rw [c.reply_of_unbuilt h.valid h.loader h.unbuilt, build_error_iff.2 hf]

theorem Met.reply_error (h : c.Met source) :
    ∃ b, c.reply.result = .error b ∧ b.fault.Onto .configuration source := by
  cases h with
  | locating ha hl => exact ⟨_, ha.reply_error (scan_of_unlocated hl), Fault.onto_wrap ..⟩
  | opening ha hl hps hpre =>
    have hscan := scan_error_iff.2 (.inr ⟨_, _, _, _, hl, hps, hpre, .refused⟩)
    exact ⟨_, ha.reply_error hscan, Fault.onto_within ..⟩
  | reading ha hl hps hpre =>
    have hscan := scan_error_iff.2 (.inr ⟨_, _, _, _, hl, hps, hpre, .unread⟩)
    exact ⟨_, ha.reply_error hscan, Fault.onto_within ..⟩

theorem met_of_error {b : BuildFault} (h : c.reply.result = .error b) :
    b.fault.causes = [] ∨ c.Met b.fault.causes := by
  have hc := c.course
  generalize c.reply = a at hc h
  cases hc with
  | invalid | absent =>
    cases h
    exact .inl rfl
  | cached =>
    unfold Store.typed at h
    split at h
    · cases h
    · cases h
      exact .inl rfl
  | @failed l f hv hl hn hb =>
    cases h
    have ha : c.Scans l := ⟨hv, hl, hn⟩
    rcases scan_error_iff.1 (build_error_iff.1 hb) with
      ⟨e, hlocated, rfl⟩ | ⟨rs, pre, p, post, hlocated, hps, hpre, hp⟩
    · exact .inr (.locating ha hlocated)
    · cases hp with
      | refused => exact .inr (.opening ha hlocated hps hpre)
      | unread => exact .inr (.reading ha hlocated hps hpre)
      | wrong => exact .inl rfl
  | built => cases h

theorem traced_of_error {b : BuildFault} (h : c.reply.result = .error b) : b.fault.Traced c.Met := by
  rcases met_of_error h with hnone | hmet
  · exact Fault.traced_of_causes_nil hnone
  · obtain ⟨b', hb', honto⟩ := hmet.reply_error
    obtain rfl : b = b' := Except.error.inj (h.symm.trans hb')
    exact honto.traced_outside hmet

end RegistryCall

namespace LookupCall

variable {c d : LookupCall} {source : List Cause}

inductive Breaks (c : LookupCall) (message : String) : Prop
  | intro {point k : String} {p : ProviderClass} {times : Option Nat} (hs : c.settled = .due point k p)
      (hf : p.factory = .fails message times) (ht : c.started.stillFails p times)

inductive Met (c : LookupCall) : List Cause → Prop
  | own {message : String} (h : c.Breaks message) : c.Met [.note message]
  | ungiven {f : Fault} (h : c.Ungiven f) : c.Met f.chain

def context (c : LookupCall) : String :=
  match c.settled with
  | .due point k _ => LookupFault.notMade point k
  | _ => ""

theorem reply_of_fails {point k : String} {p : ProviderClass} {g : LookupFault}
    (hs : c.settled = .due point k p) (hg : c.Fails point k p g) (hunique : ∀ g', c.Fails point k p g' → g' = g) :
    c.reply.result = .error g := by
  have hc := c.course
  generalize c.reply = a at hc
  cases hc with
  | refused hs' | cached hs' => cases hs.symm.trans hs'
  | fails hs' hf =>
    cases hs.symm.trans hs'
    rw [hunique _ hf]
  | makes hs' hf =>
    cases hs.symm.trans hs'
    exact absurd hg (hf g)

theorem Breaks.reply_error {message : String} (h : c.Breaks message) :
    ∃ f, c.reply.result = .error f ∧ f.fault = .within .state c.context (.note message) [] := by
  obtain @⟨point, k, p, times, hs, hf, ht⟩ := h
  have hcontext : c.context = LookupFault.notMade point k := by rw [context, hs]
  refine ⟨_, reply_of_fails hs (.failed hf ht) fun g' hg' => ?_, by rw [hcontext]; rfl⟩
  cases hg' with
  | otherType hf' => cases hf.symm.trans hf'
  | failed hf' => cases hf.symm.trans hf'; rfl
  | ungiven hn =>
    obtain ⟨_, _, _, hs', hf', -⟩ := needed_spec hn
    cases hs.symm.trans hs'
    cases hf.symm.trans hf'
  | missed hi =>
    obtain ⟨_, _, _, _, hw⟩ := within_inner hi
    cases hs.symm.trans hw.due
    cases hf.symm.trans hw.needs

theorem Ungiven.reply_error {f : Fault} (h : c.Ungiven f) :
    ∃ g, c.reply.result = .error g ∧ g.fault = f.wrap .state c.context := by
  obtain ⟨point, k, p, _, _, g, hs, -, hg, hfault, hunique⟩ := h.need
  have hcontext : c.context = LookupFault.notMade point k := by rw [context, hs]
  exact ⟨g, reply_of_fails hs hg hunique, by rw [hfault, hcontext]⟩

theorem Met.reply_error (h : c.Met source) : ∃ f, c.reply.result = .error f ∧ f.fault.Onto .state source := by
  cases h with
  | own h =>
    obtain ⟨f, hr, hf⟩ := h.reply_error
    exact ⟨f, hr, hf ▸ Fault.onto_within ..⟩
  | ungiven h =>
    obtain ⟨g, hr, hg⟩ := h.reply_error
    exact ⟨g, hr, hg ▸ Fault.onto_wrap ..⟩

theorem causes_of_refused {f : LookupFault} (h : c.settled = .refused f) : f.fault.causes = [] := by
  unfold settled settle at h
  split at h
  · cases h
    rfl
  · split at h
    · cases h
      rfl
    · split at h
      · cases h
        rfl
      · split at h
        · cases h
        · split at h
          · cases h
            rfl
          · split at h <;> cases h
            rfl

theorem met_of_error {f : LookupFault} (h : c.reply.result = .error f) :
    f.fault.causes = [] ∨ c.Met f.fault.causes := by
  have hc := c.course
  generalize c.reply = a at hc h
  cases hc with
  | refused hs =>
    cases h
    exact .inl (causes_of_refused hs)
  | fails hs hf =>
    cases h
    cases hf with
    | otherType => exact .inl rfl
    | failed hf ht => exact .inr (.own ⟨hs, hf, ht⟩)
    | ungiven hn hr => exact .inr (.ungiven (.registry hn hr))
    | missed hi hr => exact .inr (.ungiven (.provider hi hr))
  | cached | makes => cases h

/-- The errors from outside that the lookups met which are nested in one: of a factory, or of what a registry
is built of. -/
inductive Outside (c : LookupCall) : List Cause → Prop
  | factory {d : LookupCall} {message : String} (hd : d ∈ c.chain) (h : d.Breaks message) :
      c.Outside [.note message]
  | build {n : RegistryCall} {source : List Cause} (hn : n ∈ c.requests) (h : n.Met source) : c.Outside source

theorem Outside.of_inner (hi : c.inner? = some d) (h : d.Outside source) : c.Outside source := by
  cases h with
  | factory hd h =>
    refine .factory ?_ h
    rw [chain_eq, hi]
    exact List.mem_cons_of_mem c hd
  | build hn h =>
    refine .build ?_ h
    rw [requests_eq, hi]
    exact List.mem_append_right _ hn

/-- The links of an error are each made of the one behind it, down to an error from outside. -/
theorem traced_of_error (c : LookupCall) : ∀ f, c.reply.result = .error f → f.fault.Traced c.Outside := by
  induction c using nested_induction with
  | step c ih =>
    intro f hf
    rcases met_of_error hf with hnone | hmet
    · exact Fault.traced_of_causes_nil hnone
    · obtain ⟨f', hf', honto⟩ := hmet.reply_error
      obtain rfl : f = f' := Except.error.inj (hf.symm.trans hf')
      generalize f.fault.causes = source at hmet honto
      cases hmet with
      | own h => exact honto.traced_outside (.factory (by simp [chain_eq c]) h)
      | ungiven h =>
        refine honto.traced ?_
        cases h with
        | registry hn hr =>
          refine (RegistryCall.traced_of_error hr).mono fun base hb => .build ?_ hb
          simp [requests_eq c, hn]
        | provider hi hr => exact (ih _ hi _ hr).mono fun base hb => hb.of_inner hi

/-- Around a lookup that fails, every lookup fails and puts one link in front. -/
theorem chain_of_error {e : LookupCall} {outer deeper : List LookupCall} {g : LookupFault}
    (hc : c.chain = outer ++ e :: deeper) (he : e.reply.result = .error g) :
    ∃ fs : List LookupFault,
      List.Forall₂ (fun d f => d.reply.result = .error f ∧ f.fault.kind = .state) outer fs ∧
      ∃ f, c.reply.result = .error f ∧ f.fault.chain = fs.map (·.fault.asCause) ++ g.fault.chain ∧
        f.fault.shown = outer.foldr (fun d text => FaultKind.state.label ++ ": " ++ d.context ++ ": " ++ text)
          g.fault.shown := by
  induction outer generalizing c with
  | nil =>
    rw [chain_eq, List.nil_append] at hc
    obtain ⟨rfl, -⟩ := List.cons.inj hc
    exact ⟨[], .nil, g, he, rfl, rfl⟩
  | cons d outer ih =>
    rw [chain_eq, List.cons_append] at hc
    obtain ⟨rfl, htail⟩ := List.cons.inj hc
    cases hi : c.inner? with
    | none => simp [hi] at htail
    | some d =>
      rw [hi] at htail
      obtain ⟨fs, hfs, f, hf, hchain, hshown⟩ := ih htail
      obtain ⟨f', hf', hfault⟩ := Ungiven.reply_error (.provider hi hf)
      refine ⟨f' :: fs, .cons ⟨hf', by rw [hfault]; rfl⟩ hfs, f', hf', ?_, ?_⟩
      · rw [List.map_cons, List.cons_append, ← hchain, hfault]
        rfl
      · rw [List.foldr_cons, ← hshown, hfault, String.append_assoc, String.append_assoc]
        simp only [Fault.shown, Fault.wrap, Fault.within, Fault.asCause, Cause.shown, String.append_assoc]

theorem Outside.kept {base : List Cause} (h : c.Outside base) :
    ∃ f, c.reply.result = .error f ∧ base <:+ f.fault.chain := by
  obtain ⟨d, hd, g, hg, hbase⟩ : ∃ d ∈ c.chain, ∃ g, d.reply.result = .error g ∧ base <:+ g.fault.chain := by
    cases h with
    | factory hd h =>
      obtain ⟨g, hg, hfault⟩ := h.reply_error
      exact ⟨_, hd, g, hg, hfault ▸ List.suffix_cons ..⟩
    | build hn h =>
      obtain ⟨d, hd, hrequest⟩ := List.mem_filterMap.1 hn
      obtain ⟨n, hneeded, rfl⟩ := Option.map_eq_some_iff.1 hrequest
      obtain ⟨b, hb, honto⟩ := h.reply_error
      obtain ⟨g, hg, hfault⟩ := Ungiven.reply_error (.registry hneeded hb)
      refine ⟨d, hd, g, hg, ?_⟩
      have hcauses : g.fault.causes = b.fault.asCause :: base := by
        rw [hfault, Fault.chain_wrap, Fault.chain, honto.causes_eq]
      rw [Fault.chain, hcauses]
      exact (List.suffix_cons _ _).trans (List.suffix_cons _ _)
  obtain ⟨outer, deeper, hchain⟩ := List.append_of_mem hd
  obtain ⟨fs, -, f, hf, hfault, -⟩ := chain_of_error hchain hg
  exact ⟨f, hf, hfault ▸ hbase.trans (List.suffix_append _ _)⟩

end LookupCall

namespace Store

/-- In every run an error of a request for a registry or of a lookup has as its causes just what was met, and
whatever is met becomes such an error; so what goes wrong outside stands unchanged at the end of the chain,
and each link before it ends in the text of the one behind it. A lookup that fails makes all those around it
fail, with one link of state for each. A context is one more link in front of any error. -/
theorem error_chains_kept (files : FileTree) (qs : List Request) :
    (∀ c ∈ (empty files).registryCalls qs,
      (∀ source, c.Met source → ∃ b, c.reply.result = .error b ∧ b.fault.Onto .configuration source) ∧
      ∀ b, c.reply.result = .error b → b.fault.causes = [] ∨ c.Met b.fault.causes) ∧
    (∀ c ∈ (empty files).lookups qs,
      (∀ source, c.Met source → ∃ f, c.reply.result = .error f ∧ f.fault.Onto .state source) ∧
      (∀ f, c.reply.result = .error f →
        (f.fault.causes = [] ∨ c.Met f.fault.causes) ∧ f.fault.Traced c.Outside) ∧
      (∀ base, c.Outside base → ∃ f, c.reply.result = .error f ∧ base <:+ f.fault.chain) ∧
      ∀ outer e deeper g, c.chain = outer ++ e :: deeper → e.reply.result = .error g →
        ∃ fs : List LookupFault,
          List.Forall₂ (fun d f => d.reply.result = .error f ∧ f.fault.kind = .state) outer fs ∧
          ∃ f, c.reply.result = .error f ∧ f.fault.chain = fs.map (·.fault.asCause) ++ g.fault.chain ∧
            f.fault.shown = outer.foldr (fun d text => FaultKind.state.label ++ ": " ++ d.context ++ ": " ++ text)
              g.fault.shown) ∧
    ∀ cause rest steps, ∃ links,
      (Fault.inContexts cause rest steps).1 :: (Fault.inContexts cause rest steps).2 = links ++ cause :: rest ∧
      List.Forall₂ (fun step p => p.1 = .fault step.1.kind (step.2 ++ ": " ++ Cause.shown p.2)) steps.reverse
        (links.zip (links.tail ++ [cause])) := by
  refine ⟨?_, ?_, Fault.inContexts_links⟩
  · intro c _
    exact ⟨fun _ h => h.reply_error, fun _ => RegistryCall.met_of_error⟩
  · intro c _
    refine ⟨fun _ h => h.reply_error, fun f hf => ⟨LookupCall.met_of_error hf, c.traced_of_error f hf⟩,
      fun _ h => h.kept, fun outer e deeper g => LookupCall.chain_of_error⟩

def linkDown : Fault := .ofIo .other "link down"

def linkDownRun : List Request :=
  [.addLoader (.unreliable 0 (fun asked => if asked = 2 then some linkDown else none)
      (.memory [⟨"extensions/Archive", "a", "Pack"⟩, ⟨"extensions/Codec", "c", "Zip"⟩]))
      (.ofClasses [packClass, zipClass, fileClass]),
    .registry 0 archive]

/-- The error of the outer lookup tells of the one inside it, of the registry that this one needs and of the
locator, and all of these stand behind it. -/
theorem error_chains_kept_link_down :
    let c := ((empty (.ofCwd [])).after linkDownRun).lookup 0 (some "pack")
    ∃ f, c.reply.result = .error f ∧ linkDown.chain <:+ f.fault.chain ∧
      f.fault.chain.length = 5 ∧
      f.fault.shown = "Illegal state: " ++ LookupFault.notMade "Archive" "pack" ++ ": Illegal state: " ++
        LookupFault.notMade "Codec" "zip" ++
        ": Configuration error: Sink: Error locating discovery resources: I/O error: link down" := by
  intro c
  obtain ⟨-, lookups, -⟩ := error_chains_kept (.ofCwd []) (linkDownRun ++ [.provider 0 (some "pack")])
  obtain ⟨-, -, -, nested⟩ := lookups c (mem_lookups _ linkDownRun (.provider 0 (some "pack")) [] rfl)
  obtain ⟨d, hi⟩ : ∃ d, c.inner? = some d := Option.isSome_iff_exists.1 (by decide +kernel)
  have hr : d.reply.result = .error (.needUnbuilt "Codec" "zip" (.scan "Sink" (.locating linkDown))) := by
    have hmap : c.inner?.map (·.reply.result) =
        some (.error (.needUnbuilt "Codec" "zip" (.scan "Sink" (.locating linkDown)))) := by decide +kernel
    rw [hi] at hmap
    exact Option.some.inj hmap
  have hchain : c.chain = [c] ++ d :: d.inner?.elim [] LookupCall.chain := by
    rw [c.chain_eq, hi, Option.elim_some, d.chain_eq]
    rfl
  obtain ⟨fs, hfs, f, hf, hfault, hshown⟩ := nested _ _ _ _ hchain hr
  refine ⟨f, hf, ?_, ?_, ?_⟩
  · have hinner : linkDown.chain <:+
        (LookupFault.needUnbuilt "Codec" "zip" (.scan "Sink" (.locating linkDown))).fault.chain :=
      List.suffix_append [_, _] linkDown.chain
    rw [hfault]
    exact hinner.trans (List.suffix_append _ _)
  · rw [hfault, List.length_append, List.length_map, ← hfs.length_eq]
    rfl
  · rw [hshown]
    decide +kernel

end Store

end ProviderRegistry
