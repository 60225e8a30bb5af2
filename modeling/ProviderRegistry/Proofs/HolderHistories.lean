import ProviderRegistry.Holder

/-! The history of a holder. Whoever asks for the value brings an initialiser, which may read and change
what lies outside the holder, so that one may fail at one time and succeed at another. After any calls the
holder has the first value that an initialiser made, and no initialiser runs once there is one. -/

namespace ProviderRegistry

namespace Holder

variable {σ ε α : Type}

inductive Call (σ ε α : Type)
  | get
  | getOrInit (init : σ → Except ε α × σ)

structure Scene (σ α : Type) where
  holder : Holder α
  outside : σ

/-- A call with what it met and left, whether its initialiser ran, and what it was answered. -/
structure Step (σ ε α : Type) where
  call : Call σ ε α
  before : Scene σ α
  after : Scene σ α
  ran : Bool
  answer : Except ε (Option α)

def Step.given? (t : Step σ ε α) : Option (Except ε α) :=
  match t.call with
  | .get => none
  | .getOrInit init => if t.ran then some (init t.before.outside).1 else none

def Step.made? (t : Step σ ε α) : Option α := t.given?.bind Except.toOption

namespace Scene

def step (x : Scene σ α) : Call σ ε α → Step σ ε α
  | .get => ⟨.get, x, x, false, .ok x.holder.value⟩
  | .getOrInit init =>
    let made := init x.outside
    let access := x.holder.getOrInit fun _ => made.1
    ⟨.getOrInit init, x, ⟨access.holder, if access.ran then made.2 else x.outside⟩, access.ran,
      access.result.map some⟩

def history (x : Scene σ α) : List (Call σ ε α) → List (Step σ ε α)
  | [] => []
  | c :: cs => x.step c :: (x.step c).after.history cs

end Scene

/-- What a step can be. -/
inductive Step.Course : Step σ ε α → Prop
  | filled {x : Scene σ α} {v : α} (c : Call σ ε α) (h : x.holder.value = some v) :
      Course ⟨c, x, x, false, .ok (some v)⟩
  | empty {x : Scene σ α} (h : x.holder.value = none) : Course ⟨.get, x, x, false, .ok none⟩
  | makes {x : Scene σ α} {init : σ → Except ε α × σ} {v : α} (h : x.holder.value = none)
      (hi : (init x.outside).1 = .ok v) :
      Course ⟨.getOrInit init, x, ⟨⟨some v⟩, (init x.outside).2⟩, true, .ok (some v)⟩
  | fails {x : Scene σ α} {init : σ → Except ε α × σ} {e : ε} (h : x.holder.value = none)
      (hi : (init x.outside).1 = .error e) :
      Course ⟨.getOrInit init, x, ⟨x.holder, (init x.outside).2⟩, true, .error e⟩

namespace Scene

variable {x : Scene σ α} {c : Call σ ε α} {cs : List (Call σ ε α)}

@[simp] theorem call_step (x : Scene σ α) (c : Call σ ε α) : (x.step c).call = c := by cases c <;> rfl

@[simp] theorem before_step (x : Scene σ α) (c : Call σ ε α) : (x.step c).before = x := by cases c <;> rfl

theorem step_of_filled {v : α} (h : x.holder.value = some v) (c : Call σ ε α) :
    x.step c = ⟨c, x, x, false, .ok (some v)⟩ := by
  cases c with
  | get => simp only [step, h]
  | getOrInit init => simp [step, getOrInit_of_some h, Except.map]

theorem course (x : Scene σ α) (c : Call σ ε α) : (x.step c).Course := by
  cases h : x.holder.value with
  | some v =>
    rw [step_of_filled h]
    exact .filled c h
  | none =>
    cases c with
    | get =>
      simp only [step, h]
      exact .empty h
    | getOrInit init =>
      cases hi : (init x.outside).1 with
      | ok v =>
        simp only [step, Holder.getOrInit, h, hi, if_true, Except.map]
        exact .makes h hi
      | error e =>
        simp only [step, Holder.getOrInit, h, hi, if_true, Except.map]
        exact .fails h hi

end Scene

namespace Step

variable {t : Step σ ε α}

theorem Course.value_after (h : t.Course) : t.after.holder.value = t.before.holder.value.or t.made? := by
  cases h with
  | filled c h => simp [h]
  | empty h => simp [h, made?, given?]
  | makes h hi => simp [h, made?, given?, hi, Except.toOption]
  | fails h hi => simp [h, made?, given?, hi, Except.toOption]

theorem Course.ran_iff (h : t.Course) :
    t.ran ↔ (∃ init, t.call = .getOrInit init) ∧ t.before.holder.value = none := by
  cases h with
  | filled c h | empty h => simp [h]
  | makes h | fails h => simp [h]

theorem Course.answer_error_iff (h : t.Course) {e : ε} :
    t.answer = .error e ↔ t.given? = some (.error e) := by
  cases h with
  | filled c h => cases c <;> simp [given?]
  | empty h => simp [given?]
  | makes h hi | fails h hi => simp [given?, hi]

theorem Course.empty_of_error (h : t.Course) {e : ε} (he : t.answer = .error e) :
    t.after.holder.value = none := by
  cases h with
  | filled | empty | makes => cases he
  | fails h => exact h

theorem Course.answer_ok (h : t.Course) {o : Option α} (ho : t.answer = .ok o) :
    o = t.after.holder.value := by
  cases h with
  | filled c h | empty h => cases ho; exact h.symm
  | makes => cases ho; rfl
  | fails => cases ho

theorem Course.after_of_not_ran (h : t.Course) (hr : t.ran = false) : t.after = t.before := by
  cases h with
  | filled | empty => rfl
  | makes | fails => cases hr

theorem made?_eq_some_iff {v : α} : t.made? = some v ↔ t.given? = some (.ok v) := by
  rw [made?]
  cases t.given? with
  | none => simp
  | some r => cases r <;> simp [Except.toOption]

end Step

namespace Scene

variable {x : Scene σ α} {cs : List (Call σ ε α)} {past rest : List (Step σ ε α)} {t : Step σ ε α}

theorem calls_history (x : Scene σ α) (cs : List (Call σ ε α)) : (x.history cs).map Step.call = cs := by
  induction cs generalizing x with
  | nil => rfl
  | cons c cs ih => rw [history, List.map_cons, call_step, ih]

/-- A step of a history is that of its call, and it meets the value that was there at the start, or else the
first that was made before it. -/
theorem history_at (h : x.history cs = past ++ t :: rest) : t = t.before.step t.call ∧
    t.before.holder.value = x.holder.value.or (past.findSome? Step.made?) := by
  -- the first of the steps before it leaves the scene that the others start from
  induction past generalizing x cs with
  | nil =>
    cases cs with
    | nil => cases h
    | cons c cs =>
      cases h
      simp
  | cons s past ih =>
    cases cs with
    | nil => cases h
    | cons c cs =>
      rw [history, List.cons_append, List.cons.injEq] at h
      obtain ⟨rfl, h⟩ := h
      obtain ⟨hstep, hvalue⟩ := ih h
      refine ⟨hstep, ?_⟩
      rw [hvalue, (x.course c).value_after, before_step, Option.or_assoc, List.findSome?_cons]
      cases (x.step c).made? <;> rfl

theorem value_at (hx : x.holder.value = none) (h : x.history cs = past ++ t :: rest) :
    t.after.holder.value = (past ++ [t]).findSome? Step.made? := by
  obtain ⟨hstep, hvalue⟩ := history_at h
  have hcourse : t.Course := hstep ▸ t.before.course t.call
  rw [hcourse.value_after, hvalue, hx, Option.none_or, List.findSome?_append]
  cases hm : t.made? <;> simp [hm]

theorem value_kept (hx : x.holder.value = none) (h : x.history cs = past ++ t :: rest) {v : α}
    (hv : t.after.holder.value = some v) {later : Step σ ε α} (hl : later ∈ rest) :
    later.after.holder.value = some v := by
  obtain ⟨between, behind, rfl⟩ := List.append_of_mem hl
  have hlater : x.history cs = (past ++ [t] ++ between) ++ later :: behind := by simpa using h
  rw [value_at hx h] at hv
  rw [value_at hx hlater, List.append_assoc, List.findSome?_append, hv, Option.some_or]

end Scene

/-- A holder that starts empty is written at most once, whatever initialisers it is called with. What it has
before and after each step is the first value made up to there, so it is initialised once some initialiser has
run and succeeded, and keeps that value. An initialiser runs exactly if it meets an empty holder, and where
none runs nothing changes. A step fails exactly if its own initialiser ran and failed, with the error of this
one, and leaves the holder empty; any other is answered with what the holder has after it. Once the holder is
filled, any call at all would be answered with its value and change nothing. -/
theorem keeps_first_made (outside : σ) (calls : List (Call σ ε α)) :
    let steps := (⟨.empty, outside⟩ : Scene σ α).history calls
    steps.map Step.call = calls ∧
    ∀ past t rest, steps = past ++ t :: rest →
      t.before.holder.value = past.findSome? Step.made? ∧
      t.after.holder.value = (past ++ [t]).findSome? Step.made? ∧
      (t.after.holder.isInitialized ↔ ∃ s ∈ past ++ [t], ∃ v, s.given? = some (.ok v)) ∧
      (∀ v, t.after.holder.value = some v → ∀ later ∈ rest, later.after.holder.value = some v) ∧
      (t.ran ↔ (∃ init, t.call = .getOrInit init) ∧ t.before.holder.value = none) ∧
      (t.ran = false → t.after = t.before) ∧
      (∀ e, t.answer = .error e ↔ t.given? = some (.error e)) ∧
      (∀ e, t.answer = .error e → t.after.holder.value = none) ∧
      (∀ o, t.answer = .ok o → o = t.after.holder.value) ∧
      ∀ v, t.before.holder.value = some v → ∀ c : Call σ ε α,
        t.before.step c = ⟨c, t.before, t.before, false, .ok (some v)⟩ := by
  intro steps
  refine ⟨Scene.calls_history _ calls, ?_⟩
  intro past t rest h
  obtain ⟨hstep, hbefore⟩ := Scene.history_at h
  have hcourse : t.Course := hstep ▸ t.before.course t.call
  have hafter := Scene.value_at rfl h
  refine ⟨hbefore, hafter, ?_, fun v hv later => Scene.value_kept rfl h hv, hcourse.ran_iff,
    hcourse.after_of_not_ran, fun e => hcourse.answer_error_iff, fun e => hcourse.empty_of_error,
    fun o => hcourse.answer_ok, fun v hv => Scene.step_of_filled hv⟩
  rw [isInitialized, hafter, List.isSome_findSome?]
  simp [List.any_eq_true, Option.isSome_iff_exists, Step.made?_eq_some_iff]

/-- Calls with an initialiser that fails the first time it runs, and one that never runs. -/
def flakyCalls : List (Call Nat String String) :=
  let flaky runs := (if runs = 0 then .error "not yet" else .ok "made", runs + 1)
  [.get, .getOrInit flaky, .getOrInit flaky, .getOrInit fun runs => (.error "no more", runs + 1), .get]

/-- The second run makes the value that is found from then on. -/
theorem keeps_first_made_flaky :
    let steps := (⟨.empty, 0⟩ : Scene Nat String).history flakyCalls
    steps.map Step.ran = [false, true, true, false, false] ∧
    ∃ t, steps = steps.take 2 ++ t :: steps.drop 3 ∧ t.after.holder.value = some "made" ∧
      t.after.outside = 2 ∧ ∀ later ∈ steps.drop 3, later.after.holder.value = some "made" := by
  intro steps
  obtain ⟨-, hsteps⟩ := keeps_first_made 0 flakyCalls
  obtain ⟨-, -, -, hkept, -⟩ := hsteps (steps.take 2) _ (steps.drop 3) rfl
  exact ⟨by decide, _, rfl, rfl, rfl, hkept _ rfl⟩

end Holder

end ProviderRegistry
