import ProviderRegistry.Text.Quoted

/-!
The one-line inspection form of values: `Name { field: value, .. }` for a record, where the two
dots stand for fields that are not shown, `[a, b]` for a list and `Some(x)` or `None` for an
optional value.
-/

namespace ProviderRegistry.Text.Inspect

def list (items : List String) : String :=
  "[" ++ String.intercalate ", " items ++ "]"

def tuple (items : List String) : String :=
  "(" ++ String.intercalate ", " items ++ ")"

def optional : Option String → String
  | none => "None"
  | some s => "Some(" ++ s ++ ")"

def record (name : String) (fields : List (String × String)) (abridged : Bool) : String :=
  let shown := fields.map (fun f => f.1 ++ ": " ++ f.2) ++ if abridged then [".."] else []
  name ++ " \x7b " ++ String.intercalate ", " shown ++ " \x7d"

end ProviderRegistry.Text.Inspect
