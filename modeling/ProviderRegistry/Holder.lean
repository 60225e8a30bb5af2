import ProviderRegistry.Text.Inspect

/-!
A cell that is written at most once. The first initialiser that succeeds fills it; one that fails
leaves it empty, so that the next request runs its own; once it is filled no initialiser runs.
-/

namespace ProviderRegistry

structure Holder (α : Type) where
  value : Option α
  deriving DecidableEq, Repr

namespace Holder

variable {α ε : Type}

def empty : Holder α := ⟨none⟩

def isInitialized (h : Holder α) : Bool := h.value.isSome

/-- What a request on a holder comes to. -/
structure Access (α ε : Type) where
  holder : Holder α
  result : Except ε α
  ran : Bool

/-- The value, made by the initialiser if there is none yet. -/
def getOrInit (h : Holder α) (init : Unit → Except ε α) : Access α ε :=
  match h.value with
  | some v => ⟨h, .ok v, false⟩
  | none =>
    match init () with
    | .ok v => ⟨⟨some v⟩, .ok v, true⟩
    | .error e => ⟨h, .error e, true⟩

theorem getOrInit_of_some {h : Holder α} {v : α} (hv : h.value = some v)
    (init : Unit → Except ε α) : h.getOrInit init = ⟨h, .ok v, false⟩ := by
  simp [getOrInit, hv]

def inspect (shown : α → String) (h : Holder α) : String :=
  Text.Inspect.record "Holder" [("value", Text.Inspect.optional (h.value.map shown))] false

end Holder

end ProviderRegistry
