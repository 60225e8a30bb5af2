import ProviderRegistry.Text.Order

/-!
Tables keyed by text, held in the order of their keys. Writing under a key replaces what stood
there. Main statement: reading after a write gives the written value under its key and the old
one under every other, in any table whatever.
-/

namespace ProviderRegistry.Keyed

variable {β : Type}

def get? (k : String) : List (String × β) → Option β
  | [] => none
  | e :: r => if e.1 = k then some e.2 else get? k r

def put (k : String) (v : β) : List (String × β) → List (String × β)
  | [] => [(k, v)]
  | e :: r =>
    if e.1 = k then (k, v) :: r
    else if Text.precedes k e.1 then (k, v) :: e :: r
    else e :: put k v r

def keys (t : List (String × β)) : List String := t.map (·.1)

theorem get?_put_self (k : String) (v : β) (t : List (String × β)) :
    get? k (put k v t) = some v := by
  induction t with
  | nil => simp [put, get?]
  | cons e r ih => simp only [put]; split <;> (try split) <;> simp_all [get?]

theorem get?_put_ne {k j : String} (h : k ≠ j) (v : β) (t : List (String × β)) :
    get? j (put k v t) = get? j t := by
  induction t with
  | nil => simp [put, get?, h]
  | cons e r ih => simp only [put]; split <;> (try split) <;> simp_all [get?]

end ProviderRegistry.Keyed
