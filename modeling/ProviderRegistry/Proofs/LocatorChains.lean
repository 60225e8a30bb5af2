import Mathlib.Tactic
import ProviderRegistry.Locator

/-! Chains of locators, however deep they are nested. A chain answers as the locators in it would, all
of them laid one behind the other: it serves what they serve, or it fails with the first of them that
fails, and those behind that one are left alone. -/

namespace ProviderRegistry

namespace Locator

mutual

/-- The locators that a locator leads to, the chains taken apart. -/
def flat : Locator → List Locator
  | chain links => flatLinks links
  | memory rs => [memory rs]
  | embedded ms => [embedded ms]
  | directories roots => [directories roots]
  | listed rs => [listed rs]
  | unreliable asked failure inner => [unreliable asked failure inner]

def flatLinks : List Locator → List Locator
  | [] => []
  | l :: rest => flat l ++ flatLinks rest

end

variable {files : FileTree} {name : String}

theorem locateLinks_singleton (l : Locator) : locateLinks files name [l] =
    ⟨(l.locate files name).result, [(l.locate files name).next], (l.locate files name).events⟩ := by
  rw [locateLinks]
  cases h : (l.locate files name).result with
  | error f => rfl
  | ok rs => simp [locateLinks, Except.map]

theorem locateLinks_append_of_error {ls : List Locator} {f : Fault}
    (h : (locateLinks files name ls).result = .error f) (ms : List Locator) :
    locateLinks files name (ls ++ ms) =
      ⟨.error f, (locateLinks files name ls).next ++ ms, (locateLinks files name ls).events⟩ := by
  induction ls generalizing f with
  | nil => cases h
  | cons l ls ih =>
    rw [List.cons_append, locateLinks]
    rw [locateLinks] at h ⊢
    cases hl : (l.locate files name).result with
    | error g =>
      simp only [hl, Except.error.injEq] at h ⊢
      rw [h]
      simp
    | ok rs =>
      simp only [hl] at h ⊢
      cases hr : (locateLinks files name ls).result with
      | error g =>
        rw [hr] at h
        cases h
        rw [ih hr]
        simp [Except.map]
      | ok qs =>
        rw [hr] at h
        cases h

theorem locateLinks_append_of_ok {ls : List Locator} {rs : List Resource}
    (h : (locateLinks files name ls).result = .ok rs) (ms : List Locator) :
    locateLinks files name (ls ++ ms) =
      ⟨(locateLinks files name ms).result.map (rs ++ ·),
        (locateLinks files name ls).next ++ (locateLinks files name ms).next,
        (locateLinks files name ls).events ++ (locateLinks files name ms).events⟩ := by
  induction ls generalizing rs with
  | nil =>
    cases h
    cases hm : (locateLinks files name ms).result <;> simp [locateLinks, Except.map, ← hm]
  | cons l ls ih =>
    rw [List.cons_append, locateLinks]
    rw [locateLinks] at h ⊢
    cases hl : (l.locate files name).result with
    | error g =>
      simp only [hl] at h
      cases h
    | ok ps =>
      simp only [hl] at h ⊢
      cases hr : (locateLinks files name ls).result with
      | error g =>
        rw [hr] at h
        cases h
      | ok qs =>
        rw [hr] at h
        cases h
        rw [ih hr]
        cases (locateLinks files name ms).result <;> simp [Except.map]

mutual

theorem locate_flat (files : FileTree) (name : String) : ∀ l : Locator,
    (⟨(l.locate files name).result, (l.locate files name).next.flat, (l.locate files name).events⟩ :
      LocatedLinks) = locateLinks files name l.flat
  | memory rs => by rw [flat, locateLinks_singleton]; rfl
  | embedded ms => by rw [flat, locateLinks_singleton]; rfl
  | directories roots => by rw [flat, locateLinks_singleton]; rfl
  | listed rs => by rw [flat, locateLinks_singleton]; rfl
  | unreliable asked failure inner => by
    rw [flat, locateLinks_singleton, locate]
    cases failure asked <;> rfl
  | chain links => by
    rw [flat, ← locateLinks_flat files name links]
    rfl

theorem locateLinks_flat (files : FileTree) (name : String) : ∀ links : List Locator,
    (⟨(locateLinks files name links).result, flatLinks (locateLinks files name links).next,
      (locateLinks files name links).events⟩ : LocatedLinks) = locateLinks files name (flatLinks links)
  | [] => rfl
  | l :: rest => by
    have hl := locate_flat files name l
    have hrest := locateLinks_flat files name rest
    have hres : (locateLinks files name l.flat).result = (l.locate files name).result := by rw [← hl]
    rw [flatLinks, locateLinks]
    cases hr : (l.locate files name).result with
    | error f =>
      rw [locateLinks_append_of_error (hres.trans hr), ← hl]
      rfl
    | ok rs =>
      rw [locateLinks_append_of_ok (hres.trans hr), ← hl, ← hrest]
      rfl

end

theorem locateLinks_of_served {ls : List Locator}
    (h : ∀ m ∈ ls, ∃ rs, (m.locate files name).result = .ok rs) :
    ∃ rss, List.Forall₂ (fun m rs => (m.locate files name).result = .ok rs) ls rss ∧
      locateLinks files name ls = ⟨.ok rss.flatten, ls.map fun m => (m.locate files name).next,
        ls.flatMap fun m => (m.locate files name).events⟩ := by
  induction ls with
  | nil => exact ⟨[], .nil, rfl⟩
  | cons l ls ih =>
    obtain ⟨⟨rs, hl⟩, hls⟩ := List.forall_mem_cons.1 h
    obtain ⟨rss, hrss, hlinks⟩ := ih hls
    refine ⟨rs :: rss, .cons hl hrss, ?_⟩
    rw [locateLinks, hlinks, hl]
    rfl

/-- Whether all locators in front of one answer, and it fails. -/
structure FailsBehind (files : FileTree) (name : String) (pre : List Locator) (l : Locator) (f : Fault) :
    Prop where
  answered : ∀ m ∈ pre, ∃ rs, (m.locate files name).result = .ok rs
  fails : (l.locate files name).result = .error f

theorem answered_or_failsBehind (files : FileTree) (name : String) (ls : List Locator) :
    (∀ m ∈ ls, ∃ rs, (m.locate files name).result = .ok rs) ∨
    ∃ pre l post f, ls = pre ++ l :: post ∧ FailsBehind files name pre l f := by
  induction ls with
  | nil => exact .inl (by simp)
  | cons l ls ih =>
    cases hl : (l.locate files name).result with
    | error f => exact .inr ⟨[], l, ls, f, rfl, by simp, hl⟩
    | ok rs =>
      rcases ih with ih | ⟨pre, m, post, f, rfl, hpre, hm⟩
      · exact .inl (List.forall_mem_cons.2 ⟨⟨rs, hl⟩, ih⟩)
      · exact .inr ⟨l :: pre, m, post, f, rfl, List.forall_mem_cons.2 ⟨⟨rs, hl⟩, hpre⟩, hm⟩

/-- A locator fails as the first in it that fails; those behind that one stay as they are, and nothing
depends on them. -/
theorem locate_of_failsBehind {pre post : List Locator} {l : Locator} {f : Fault}
    (h : FailsBehind files name pre l f) {locator : Locator} (hflat : locator.flat = pre ++ l :: post) :
    (locator.locate files name).result = .error f ∧
    (locator.locate files name).next.flat =
      pre.map (fun m => (m.locate files name).next) ++ (l.locate files name).next :: post ∧
    (locator.locate files name).events =
      pre.flatMap (fun m => (m.locate files name).events) ++ (l.locate files name).events := by
  obtain ⟨rss, -, hpre⟩ := locateLinks_of_served h.answered
  have hlinks := locate_flat files name locator
  rw [hflat, locateLinks_append_of_ok (by rw [hpre]), hpre, locateLinks, h.fails] at hlinks
  obtain ⟨hr, hn, he⟩ := LocatedLinks.mk.injEq .. ▸ hlinks
  exact ⟨hr, hn, he⟩

end Locator

end ProviderRegistry
