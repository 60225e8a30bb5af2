import ProviderRegistry.Number.Binary64

/-!
The values of a TOML document. A date or a time is kept as nothing but that: no setting is one.
-/

namespace ProviderRegistry.Toml

inductive Value
  | text (s : String)
  | integer (n : Int)
  | real (x : Binary64)
  | flag (b : Bool)
  | date
  | list (items : List Value)
  | table (entries : List (String × Value))

/-- A reader takes what it reads off the front of the text, or refuses it. -/
abbrev Reader (α : Type) := List Char → Option (α × List Char)

end ProviderRegistry.Toml
