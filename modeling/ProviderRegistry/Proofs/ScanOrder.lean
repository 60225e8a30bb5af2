import Mathlib.Data.List.ReduceOption
import ProviderRegistry.Proofs.LineVerdict
import ProviderRegistry.Scan

/-! The order of a scan. The resources lie one behind the other as a list of points: a resource that
does not open is one point, any other one point for each line. Each point gives an entry, nothing
or a fault, and the scan is either all the entries or the fault of the first point that gives one. -/

namespace ProviderRegistry

/-- What a line gives: nothing, a class, or what is wrong with it. -/
inductive Acceptance.Reads (a : Acceptance) (line : String) :
    Except LineProblem (Option ProviderClass) → Prop
  | blank (h : Manifest.Says line.toList []) : a.Reads line (.ok none)
  | innerBlank {t : String} (h : Manifest.Says line.toList t.toList)
      (hb : ' ' ∈ t.toList ∨ '\t' ∈ t.toList) : a.Reads line (.error (.malformed (.innerBlank t)))
  | notAName {t : String} (h : Manifest.Says line.toList t.toList) (hn : t ≠ "")
      (hb : ¬(' ' ∈ t.toList ∨ '\t' ∈ t.toList)) (hg : ¬QualifiedName.Grammatical t.toList) :
      a.Reads line (.error (.malformed (.notAName t)))
  | unknown {t : String} (h : Manifest.Says line.toList t.toList)
      (hg : QualifiedName.Grammatical t.toList) (hr : a.resolve t = none) :
      a.Reads line (.error (.notFound t))
  | foreign {t : String} {c : ProviderClass} (h : Manifest.Says line.toList t.toList)
      (hg : QualifiedName.Grammatical t.toList) (hr : a.resolve t = some c)
      (hi : a.implements c = false) : a.Reads line (.error (.notASubtype t))
  | listed {t : String} {c : ProviderClass} (h : Manifest.Says line.toList t.toList)
      (hg : QualifiedName.Grammatical t.toList) (hr : a.resolve t = some c)
      (hi : a.implements c = true) : a.Reads line (.ok (some c))

namespace Acceptance

variable {a : Acceptance}

theorem reads_readLine (a : Acceptance) (line : String) : a.Reads line (a.readLine line) := by
  have hs := Manifest.says_iff.2 (rfl : String.ofList (Manifest.content line.toList) = _)
  set t := String.ofList (Manifest.content line.toList)
  obtain ⟨hnone, hsome, hinner, hother⟩ := Manifest.readLine_cases hs
  cases hr : Manifest.readLine line with
  | error e =>
    have : a.readLine line = .error (.malformed e) := by simp [readLine, hr]
    rw [this]
    cases e with
    | innerBlank u =>
      obtain ⟨rfl, hb⟩ := (hinner u).1 hr
      exact .innerBlank hs (Manifest.hasInnerBlank_iff.1 hb)
    | notAName u =>
      obtain ⟨rfl, hn, hg, hb⟩ := (hother u).1 hr
      exact .notAName hs hn (by rwa [← Manifest.hasInnerBlank_iff]) hg
  | ok o =>
    cases o with
    | none =>
      have : a.readLine line = .ok none := by simp [readLine, hr]
      exact this ▸ .blank (by simpa [hnone.1 hr] using hs)
    | some name =>
      obtain ⟨rfl, hg⟩ := (hsome name).1 hr
      cases hc : a.resolve t with
      | none =>
        have : a.readLine line = .error (.notFound t) := by simp [readLine, hr, hc]
        exact this ▸ .unknown hs hg hc
      | some c =>
        cases hi : a.implements c with
        | false =>
          have : a.readLine line = .error (.notASubtype t) := by simp [readLine, hr, hc, hi]
          exact this ▸ .foreign hs hg hc hi
        | true =>
          have : a.readLine line = .ok (some c) := by simp [readLine, hr, hc, hi]
          exact this ▸ .listed hs hg hc hi

theorem readLine_of_reads {line : String} {v : Except LineProblem (Option ProviderClass)}
    (h : a.Reads line v) : a.readLine line = v := by
  cases h with
  | blank h =>
    have hr := (Manifest.readLine_cases (t := "") h).1.2 rfl
    simp [readLine, hr]
  | @innerBlank t h hb =>
    have hr := ((Manifest.readLine_cases h).2.2.1 t).2 ⟨rfl, Manifest.hasInnerBlank_iff.2 hb⟩
    simp [readLine, hr]
  | @notAName t h hn hb hg =>
    rw [← Manifest.hasInnerBlank_iff] at hb
    have hr := ((Manifest.readLine_cases h).2.2.2 t).2 ⟨rfl, hn, hg, hb⟩
    simp [readLine, hr]
  | unknown h hg hr => simp [readLine, Manifest.readLine_of_grammatical h hg, hr]
  | foreign h hg hr hi | listed h hg hr hi => simp [readLine, Manifest.readLine_of_grammatical h hg, hr, hi]

end Acceptance

inductive ReadPoint
  | refused (origin : String) (error : OsError)
  | unread (origin : String) (fault : ReadFault)
  | line (origin : String) (number : Nat) (text : String)

namespace ReadPoint

inductive Gives (a : Acceptance) : ReadPoint → Except ScanFault (Option Discovered) → Prop
  | refused {origin : String} {e : OsError} : Gives a (.refused origin e) (.error (.opening origin e))
  | unread {origin : String} {f : ReadFault} : Gives a (.unread origin f) (.error (.reading origin f))
  | wrong {origin text : String} {n : Nat} {p : LineProblem} (h : a.Reads text (.error p)) :
      Gives a (.line origin n text) (.error (.line origin n p))
  | blank {origin text : String} {n : Nat} (h : a.Reads text (.ok none)) :
      Gives a (.line origin n text) (.ok none)
  | lists {origin text : String} {n : Nat} {c : ProviderClass} (h : a.Reads text (.ok (some c))) :
      Gives a (.line origin n text) (.ok (some ⟨origin, n, c⟩))

def verdict (a : Acceptance) : ReadPoint → Except ScanFault (Option Discovered)
  | refused origin e => .error (.opening origin e)
  | unread origin f => .error (.reading origin f)
  | line origin n text =>
    match a.readLine text with
    | .error p => .error (.line origin n p)
    | .ok none => .ok none
    | .ok (some c) => .ok (some ⟨origin, n, c⟩)

theorem Gives.verdict_eq {a : Acceptance} {p : ReadPoint} {v : Except ScanFault (Option Discovered)}
    (h : p.Gives a v) : p.verdict a = v := by
  cases h with
  | refused | unread => rfl
  | wrong h | blank h | lists h => simp [verdict, Acceptance.readLine_of_reads h]

theorem Gives.unique {a : Acceptance} {p : ReadPoint} {v w : Except ScanFault (Option Discovered)}
    (h : p.Gives a v) (h' : p.Gives a w) : v = w := h.verdict_eq.symm.trans h'.verdict_eq

def numbered (origin : String) (n : Nat) (ls : List (Except ReadFault String)) : List ReadPoint :=
  (ls.zipIdx n).map fun l =>
    match l.1 with
    | .ok text => .line origin l.2 text
    | .error f => .unread origin f

end ReadPoint

def decoded (l : List UInt8) : Except ReadFault String :=
  match String.fromUTF8? ⟨l.toArray⟩ with
  | none => .error .notUtf8
  | some s => .ok s

/-- The points of a resource; a directory opens and can not be read. -/
def Resource.points (files : FileTree) (r : Resource) : List ReadPoint :=
  match r.content with
  | .text s => ReadPoint.numbered r.origin 1 ((Text.linesOf s).map .ok)
  | .file path =>
    match files.read path with
    | .error e => [.refused r.origin e]
    | .ok .directory => ReadPoint.numbered r.origin 1 [.error (.os .isADirectory)]
    | .ok (.file bytes) => ReadPoint.numbered r.origin 1 ((Text.byteLines bytes).map decoded)

/-- What is found at points one behind the other, up to the first that gives a fault. -/
inductive Findings.Sums (a : Acceptance) : List ReadPoint → Findings → Prop
  | done : Sums a [] .nothing
  | stops {p : ReadPoint} {ps : List ReadPoint} {f : ScanFault} (h : p.Gives a (.error f)) :
      Sums a (p :: ps) (.stopped f)
  | skips {p : ReadPoint} {ps : List ReadPoint} {fs : Findings} (h : p.Gives a (.ok none))
      (hr : Sums a ps fs) : Sums a (p :: ps) fs
  | finds {p : ReadPoint} {ps : List ReadPoint} {fs : Findings} {d : Discovered}
      (h : p.Gives a (.ok (some d))) (hr : Sums a ps fs) : Sums a (p :: ps) ⟨d :: fs.found, fs.fault⟩

namespace Findings

variable {a : Acceptance} {ps qs : List ReadPoint} {fs gs : Findings}

theorem cons_andThen (d : Discovered) (fs gs : Findings) : andThen ⟨d :: fs.found, fs.fault⟩ gs =
    ⟨d :: (fs.andThen gs).found, (fs.andThen gs).fault⟩ := by
  obtain ⟨found, fault⟩ := fs
  cases fault <;> rfl

theorem andThen_assoc (fs gs hs : Findings) : (fs.andThen gs).andThen hs = fs.andThen (gs.andThen hs) := by
  obtain ⟨found, fault⟩ := fs
  cases fault with
  | some f => rfl
  | none =>
    obtain ⟨found', fault'⟩ := gs
    cases fault' with
    | some f => rfl
    | none => simp [andThen]

theorem Sums.append (h : Sums a ps fs) (h' : Sums a qs gs) : Sums a (ps ++ qs) (fs.andThen gs) := by
  induction h with
  | done => exact h'
  | stops h => exact .stops h
  | skips h _ ih => exact .skips h ih
  | finds h _ ih =>
    rw [cons_andThen]
    exact .finds h ih

theorem Sums.resolved (h : Sums a ps fs) :
    ∀ d ∈ fs.found, (∃ t, a.resolve t = some d.found) ∧ a.implements d.found = true := by
  induction h with
  | done | stops => simp [nothing, stopped]
  | skips _ _ ih => exact ih
  | finds h _ ih =>
    cases h with
    | lists h => cases h with | listed _ _ hr hi => exact List.forall_mem_cons.2 ⟨⟨⟨_, hr⟩, hi⟩, ih⟩

/-- Without a fault every point gives an entry or nothing, and the entries are what is found. -/
theorem Sums.entries (h : Sums a ps fs) (hf : fs.fault = none) :
    ∃ os, List.Forall₂ (fun p o => p.Gives a (.ok o)) ps os ∧ fs.found = os.reduceOption := by
  induction h with
  | done => exact ⟨[], .nil, rfl⟩
  | stops => cases hf
  | skips h _ ih =>
    obtain ⟨os, hos, hd⟩ := ih hf
    exact ⟨none :: os, .cons h hos, by rw [List.reduceOption_cons_of_none, hd]⟩
  | @finds p ps fs d h _ ih =>
    obtain ⟨os, hos, hd⟩ := ih hf
    exact ⟨some d :: os, .cons h hos, by rw [List.reduceOption_cons_of_some, hd]⟩

/-- A fault is that of one point, and no point before it gives one. -/
theorem Sums.first_fault (h : Sums a ps fs) {f : ScanFault} (hf : fs.fault = some f) :
    ∃ pre p post, ps = pre ++ p :: post ∧ (∀ q ∈ pre, ∃ o, q.Gives a (.ok o)) ∧
      p.Gives a (.error f) := by
  induction h with
  | done => cases hf
  | @stops p ps g h => cases hf; exact ⟨[], p, ps, rfl, by simp, h⟩
  | @skips q ps fs h _ ih =>
    obtain ⟨pre, p, post, rfl, hpre, hp⟩ := ih hf
    exact ⟨q :: pre, p, post, rfl, List.forall_mem_cons.2 ⟨⟨_, h⟩, hpre⟩, hp⟩
  | @finds q ps fs d h _ ih =>
    obtain ⟨pre, p, post, rfl, hpre, hp⟩ := ih hf
    exact ⟨q :: pre, p, post, rfl, List.forall_mem_cons.2 ⟨⟨_, h⟩, hpre⟩, hp⟩

theorem Sums.found_of_entries (h : Sums a ps fs) {os : List (Option Discovered)}
    (hos : List.Forall₂ (fun p o => p.Gives a (.ok o)) ps os) : fs = ⟨os.reduceOption, none⟩ := by
  induction h generalizing os with
  | done => cases hos; rfl
  | stops h =>
    cases hos with
    | cons ho _ => cases h.unique ho
  | skips h _ ih =>
    cases hos with
    | cons ho hos =>
      cases h.unique ho
      rw [ih hos, List.reduceOption_cons_of_none]
  | finds h _ ih =>
    cases hos with
    | cons ho hos =>
      cases h.unique ho
      rw [ih hos, List.reduceOption_cons_of_some]

theorem Sums.fault_of_first {pre post : List ReadPoint} {p : ReadPoint} {f : ScanFault}
    (h : Sums a (pre ++ p :: post) fs) (hpre : ∀ q ∈ pre, ∃ o, q.Gives a (.ok o))
    (hp : p.Gives a (.error f)) : fs.fault = some f := by
  induction pre generalizing fs with
  | nil =>
    cases h with
    | stops h => cases h.unique hp; rfl
    | skips h | finds h => cases h.unique hp
  | cons q pre ih =>
    obtain ⟨⟨o, ho⟩, hpre⟩ := List.forall_mem_cons.1 hpre
    cases h with
    | stops h => cases h.unique ho
    | skips _ hr | finds _ hr =>
      have hf := ih hr hpre
      exact hf

end Findings

def Readout.of : List (Except ReadFault String) → Readout
  | [] => ⟨[], none⟩
  | .ok s :: r => ⟨s :: (of r).lines, (of r).fault⟩
  | .error f :: _ => ⟨[], some f⟩

theorem Readout.of_map_ok (ls : List String) : Readout.of (ls.map .ok) = ⟨ls, none⟩ := by
  induction ls with
  | nil => rfl
  | cons l r ih => rw [List.map_cons, of, ih]

theorem Readout.ofBytes_eq (ls : List (List UInt8)) : ofBytes ls = of (ls.map decoded) := by
  induction ls with
  | nil => rfl
  | cons l r ih =>
    rw [ofBytes, List.map_cons, decoded]
    cases String.fromUTF8? ⟨l.toArray⟩ with
    | none => rfl
    | some s => simp only [of, ih]

namespace Acceptance

open Findings

variable {a : Acceptance}

theorem sums_numbered (a : Acceptance) (origin : String) (n : Nat) (ls : List (Except ReadFault String)) :
    Sums a (ReadPoint.numbered origin n ls) ((a.readLines origin n (Readout.of ls).lines).andThen
      ⟨[], (Readout.of ls).fault.map (.reading origin)⟩) := by
  induction ls generalizing n with
  | nil => exact .done
  | cons l r ih =>
    cases l with
    | error f => exact .stops .unread
    | ok s =>
      have hs := a.reads_readLine s
      simp only [Readout.of, readLines]
      cases hr : a.readLine s with
      | error p => exact .stops (.wrong (hr ▸ hs))
      | ok o =>
        rw [hr] at hs
        cases o with
        | none => exact .skips (.blank hs) (ih (n + 1))
        | some c =>
          have hd : Sums a _ ⟨⟨origin, n, c⟩ :: _, _⟩ := .finds (.lists hs) (ih (n + 1))
          rw [← cons_andThen] at hd
          exact hd

theorem readResources_cons (a : Acceptance) (files : FileTree) (r : Resource) (rest : List Resource) :
    a.readResources files (r :: rest) =
      (a.readResource files r).andThen (a.readResources files rest) := by
  rw [readResources]
  cases hf : (a.readResource files r).fault <;> simp [andThen, hf]

theorem sums_readResources (a : Acceptance) (files : FileTree) (rs : List Resource) :
    Sums a (rs.flatMap (·.points files)) (a.readResources files rs) := by
  have one : ∀ r : Resource, Sums a (r.points files) (a.readResource files r) := by
    intro r
    unfold Resource.points readResource Resource.read
    cases r.content with
    | text s =>
      have := a.sums_numbered r.origin 1 ((Text.linesOf s).map .ok)
      rwa [Readout.of_map_ok] at this
    | file path =>
      dsimp only
      cases files.read path with
      | error e => exact .stops .refused
      | ok found =>
        cases found with
        | directory => exact .stops .unread
        | file bytes =>
          have := a.sums_numbered r.origin 1 ((Text.byteLines bytes).map decoded)
          rwa [← Readout.ofBytes_eq] at this
  induction rs with
  | nil => exact .done
  | cons r rest ih =>
    rw [readResources_cons]
    exact (one r).append ih

end Acceptance

section

variable {files : FileTree} {point : String} {locator : Locator} {a : Acceptance}

theorem scan_of_unlocated {e : Fault}
    (h : (locator.locate files (QualifiedName.resourceName point)).result = .error e) :
    (scan files point locator a).result = .error (.locating e) := by
  simp only [scan, h]

theorem scan_of_located {rs : List Resource}
    (h : (locator.locate files (QualifiedName.resourceName point)).result = .ok rs) :
    (scan files point locator a).result = match (a.readResources files rs).fault with
      | some f => .error f
      | none => .ok (a.readResources files rs).found := by
  simp only [scan, h]
  cases (a.readResources files rs).fault <;> rfl

theorem readResources_of_scan {ds : List Discovered} (h : (scan files point locator a).result = .ok ds) :
    ∃ rs, (locator.locate files (QualifiedName.resourceName point)).result = .ok rs ∧
      a.readResources files rs = ⟨ds, none⟩ := by
  cases hl : (locator.locate files (QualifiedName.resourceName point)).result with
  | error e => rw [scan_of_unlocated hl] at h; cases h
  | ok rs =>
    rw [scan_of_located hl] at h
    split at h
    · cases h
    · rename_i hf
      cases h
      exact ⟨rs, rfl, congrArg (Findings.mk _) hf⟩

theorem scan_ok_iff {ds : List Discovered} : (scan files point locator a).result = .ok ds ↔
    ∃ rs os, (locator.locate files (QualifiedName.resourceName point)).result = .ok rs ∧
      List.Forall₂ (fun p o => p.Gives a (.ok o)) (rs.flatMap (·.points files)) os ∧
        ds = os.reduceOption := by
  constructor
  · intro h
    obtain ⟨rs, hl, hfound⟩ := readResources_of_scan h
    obtain ⟨os, hos, hd⟩ := (hfound ▸ a.sums_readResources files rs).entries rfl
    exact ⟨rs, os, hl, hos, hd⟩
  · rintro ⟨rs, os, hl, hos, rfl⟩
    rw [scan_of_located hl, (a.sums_readResources files rs).found_of_entries hos]

theorem scan_error_iff {f : ScanFault} : (scan files point locator a).result = .error f ↔
    (∃ e, (locator.locate files (QualifiedName.resourceName point)).result = .error e ∧
      f = .locating e) ∨
    ∃ rs pre p post, (locator.locate files (QualifiedName.resourceName point)).result = .ok rs ∧
      rs.flatMap (·.points files) = pre ++ p :: post ∧ (∀ q ∈ pre, ∃ o, q.Gives a (.ok o)) ∧
        p.Gives a (.error f) := by
  constructor
  · intro h
    cases hl : (locator.locate files (QualifiedName.resourceName point)).result with
    | error e =>
      rw [scan_of_unlocated hl] at h
      cases h
      exact .inl ⟨e, rfl, rfl⟩
    | ok rs =>
      rw [scan_of_located hl] at h
      split at h
      · rename_i hf
        cases h
        obtain ⟨pre, p, post, hps, hpre, hp⟩ := (a.sums_readResources files rs).first_fault hf
        exact .inr ⟨rs, pre, p, post, rfl, hps, hpre, hp⟩
      · cases h
  · rintro (⟨e, hl, rfl⟩ | ⟨rs, pre, p, post, hl, hps, hpre, hp⟩)
    · exact scan_of_unlocated hl
    · have hf := a.sums_readResources files rs
      rw [hps] at hf
      rw [scan_of_located hl, hf.fault_of_first hpre hp]

end

theorem exists_forall₂_iff {α β : Type} {R : α → β → Prop} {l : List α} :
    (∃ m, List.Forall₂ R l m) ↔ ∀ x ∈ l, ∃ y, R x y := by
  induction l with
  | nil => simp
  | cons x l ih =>
    rw [List.forall_mem_cons, ← ih]
    constructor
    · rintro ⟨_, hm⟩
      cases hm with
      | cons h hm => exact ⟨⟨_, h⟩, _, hm⟩
    · rintro ⟨⟨y, h⟩, m, hm⟩
      exact ⟨y :: m, .cons h hm⟩

theorem ReadPoint.gives_ok_iff {a : Acceptance} {p : ReadPoint} : (∃ o, p.Gives a (.ok o)) ↔
    ∃ origin n text, p = .line origin n text ∧ (Manifest.Says text.toList [] ∨
      ∃ t c, Manifest.Says text.toList t.toList ∧ QualifiedName.Grammatical t.toList ∧
        a.resolve t = some c ∧ a.implements c = true) := by
  constructor
  · rintro ⟨o, h⟩
    cases h with
    | blank h => cases h with | blank h => exact ⟨_, _, _, rfl, .inl h⟩
    | lists h => cases h with | listed h hg hr hi => exact ⟨_, _, _, rfl, .inr ⟨_, _, h, hg, hr, hi⟩⟩
  · rintro ⟨origin, n, text, rfl, h | ⟨t, c, h, hg, hr, hi⟩⟩
    · exact ⟨none, .blank (.blank h)⟩
    · exact ⟨some ⟨origin, n, c⟩, .lists (.listed h hg hr hi)⟩

/-- A scan gives what its points give in their order. It succeeds exactly if the locator does and
every point is a line that says nothing or names an accepted class, and then it is the entries of
those lines. Otherwise it fails as the locator does, or with the fault of the first point that gives
one. Every fault is one of configuration; that of a line tells where the line is and what is wrong. -/
theorem scan_in_reading_order (files : FileTree) (point : String) (locator : Locator) (a : Acceptance) :
    let located := (locator.locate files (QualifiedName.resourceName point)).result
    let result := (scan files point locator a).result
    ((∃ ds, result = .ok ds) ↔ ∃ rs, located = .ok rs ∧ ∀ r ∈ rs, ∀ p ∈ r.points files,
      ∃ origin n text, p = .line origin n text ∧ (Manifest.Says text.toList [] ∨
        ∃ t c, Manifest.Says text.toList t.toList ∧ QualifiedName.Grammatical t.toList ∧
          a.resolve t = some c ∧ a.implements c = true)) ∧
    (∀ ds, result = .ok ds ↔ ∃ rs os, located = .ok rs ∧
      List.Forall₂ (fun p o => p.Gives a (.ok o)) (rs.flatMap (·.points files)) os ∧
        ds = os.reduceOption) ∧
    (∀ f, result = .error f ↔ (∃ e, located = .error e ∧ f = .locating e) ∨
      ∃ rs pre p post, located = .ok rs ∧ rs.flatMap (·.points files) = pre ++ p :: post ∧
        (∀ q ∈ pre, ∃ o, q.Gives a (.ok o)) ∧ p.Gives a (.error f)) ∧
    ∀ f : ScanFault, f.fault point = match f with
      | .locating e => ⟨.configuration,
          point ++ ": Error locating discovery resources" ++ ": " ++ e.shown, e.chain⟩
      | .opening origin e => ⟨.configuration,
          point ++ ": " ++ origin ++ ": Error opening discovery resource" ++ ": " ++ e.shown,
          [.note e.shown]⟩
      | .reading origin e => ⟨.configuration,
          point ++ ": " ++ origin ++ ": Error reading discovery resource" ++ ": " ++ e.shown,
          [.note e.shown]⟩
      | .line origin n p => ⟨.configuration,
          point ++ ": " ++ origin ++ ":" ++ toString n ++ ": " ++ p.message, []⟩ := by
  intro located result
  refine ⟨⟨?_, ?_⟩, fun _ => scan_ok_iff, fun _ => scan_error_iff, ?_⟩
  · rintro ⟨ds, h⟩
    obtain ⟨rs, os, hl, hos, -⟩ := scan_ok_iff.1 h
    refine ⟨rs, hl, ?_⟩
    intro r hr p hp
    apply ReadPoint.gives_ok_iff.1
    exact exists_forall₂_iff.1 ⟨os, hos⟩ p (List.mem_flatMap.2 ⟨r, hr, hp⟩)
  · rintro ⟨rs, hl, h⟩
    have hall : ∀ p ∈ rs.flatMap (·.points files), ∃ o, p.Gives a (.ok o) := by
      intro p hp
      obtain ⟨r, hr, hp⟩ := List.mem_flatMap.1 hp
      exact ReadPoint.gives_ok_iff.2 (h r hr p hp)
    obtain ⟨os, hos⟩ := exists_forall₂_iff.2 hall
    exact ⟨_, scan_ok_iff.2 ⟨rs, os, hl, hos, rfl⟩⟩
  · intro f
    cases f <;> rfl

end ProviderRegistry
