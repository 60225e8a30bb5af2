/-!
Sets of code points as lists of closed ranges, the form in which character properties are
tabulated.
-/

namespace ProviderRegistry.Text

def covers (table : List (Nat × Nat)) (n : Nat) : Bool :=
  table.any fun r => r.1 ≤ n && n ≤ r.2

end ProviderRegistry.Text
