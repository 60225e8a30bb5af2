import ProviderRegistry.Text.Inspect

/-!
Key-classes, the types a provider can be looked up by. A key-class carries the key-classes it
extends, so a family of them can not be circular. Identity is the number, never the name.
-/

namespace ProviderRegistry

inductive KeyClass
  | mk (id : Nat) (name : String) (supertypes : List KeyClass)

namespace KeyClass

def id : KeyClass → Nat
  | mk i _ _ => i

def name : KeyClass → String
  | mk _ n _ => n

def supertypes : KeyClass → List KeyClass
  | mk _ _ s => s

def sameAs (a b : KeyClass) : Bool := a.id == b.id

mutual

/-- Whether `b` is the key-class with identity `i` or extends it, directly or not. -/
def reaches (i : Nat) : KeyClass → Bool
  | mk j _ supers => i == j || reachesAny i supers

def reachesAny (i : Nat) : List KeyClass → Bool
  | [] => false
  | k :: r => reaches i k || reachesAny i r

end

/-- Whether an `a` is wanted where a `b` is given: `b` is `a` or extends it. -/
def isAssignableFrom (a b : KeyClass) : Bool := b.reaches a.id

theorem reachesAny_eq_any (i : Nat) (l : List KeyClass) :
    reachesAny i l = l.any (reaches i) := by
  induction l with
  | nil => simp [reachesAny]
  | cons k r ih => simp [reachesAny, ih]

open Text in
def inspect (k : KeyClass) : String :=
  Inspect.record "KeyClass"
    [("name", quoted k.name),
      ("supertypes", Inspect.list (k.supertypes.map fun s => quoted s.name))] false

end KeyClass

end ProviderRegistry
