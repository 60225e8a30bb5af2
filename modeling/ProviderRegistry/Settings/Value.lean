import ProviderRegistry.Keyed
import ProviderRegistry.Text.Quoted
import ProviderRegistry.Number.Shortest
import ProviderRegistry.Toml.Value

/-!
Values of settings as the sources give them, each with the source it comes from. Tables are
merged key by key; anything else from a later source replaces what an earlier one gave, whole
lists included. A table inside a document may wrap another value, which it then stands for, but
may not say which source that value comes from: the document is the source.
-/

namespace ProviderRegistry

/-- Where a value comes from: a file, or the environment variables with a prefix. -/
inductive Origin
  | file (name : String)
  | environment (keyPrefix : String)
  deriving DecidableEq, Repr

/-- A key and its source, as a message names them. -/
def Origin.place (path : List String) : Origin → String
  | file name =>
    "for key \"" ++ String.intercalate "." ("default" :: path) ++ "\" in " ++ name ++
      " TOML file"
  | environment keyPrefix =>
    "for key \"" ++ String.intercalate "." (path.map fun k => k.map Char.toUpper) ++ "\" in `" ++
      keyPrefix.map Char.toUpper ++ "` environment variable(s)"

inductive Scalar
  | text (s : String)
  | flag (b : Bool)
  | signed (n : Int)
  | unsigned (n : Nat)
  | real (x : Binary64)
  deriving DecidableEq, Repr

def Scalar.shown : Scalar → String
  | text s => "string " ++ Text.quoted s
  | flag b => "bool " ++ if b then "true" else "false"
  | signed n => "signed int `" ++ toString n ++ "`"
  | unsigned n => "unsigned int `" ++ toString n ++ "`"
  | real x => "float `" ++ x.shown ++ "`"

inductive SettingValue
  | scalar (origin : Origin) (s : Scalar)
  | list (origin : Origin) (items : List SettingValue)
  | table (origin : Origin) (entries : List (String × SettingValue))

namespace SettingValue

def origin : SettingValue → Origin
  | scalar o _ => o
  | list o _ => o
  | table o _ => o

def shown : SettingValue → String
  | scalar _ s => s.shown
  | list _ _ => "sequence"
  | table _ _ => "map"

/-- The key under which a table holds the value that it wraps. -/
def wrappedKey : String := "___figment_value_value"

/-- The key that would say where a value comes from. -/
def sourceKey : String := "___figment_value_id"

/-- What a table inside a document stands for: the value that it wraps, whatever else it holds, or
itself when it wraps none. One that names a source of its own is refused. -/
def ofTable? (o : Origin) (entries : List (String × SettingValue)) : Option SettingValue :=
  if (Keyed.get? sourceKey entries).isSome then none
  else some ((Keyed.get? wrappedKey entries).getD (table o entries))

mutual

/-- A value of a document; a date is a table that holds no setting. -/
def ofToml? (o : Origin) : Toml.Value → Option SettingValue
  | .text s => some (scalar o (.text s))
  | .integer n => some (scalar o (.signed n))
  | .real x => some (scalar o (.real x))
  | .flag b => some (scalar o (.flag b))
  | .date => some (table o [])
  | .list items => (ofItems? o items).map (list o)
  | .table entries => (ofEntries? o entries).bind (ofTable? o)

def ofItems? (o : Origin) : List Toml.Value → Option (List SettingValue)
  | [] => some []
  | v :: r =>
    match ofToml? o v, ofItems? o r with
    | some v, some vs => some (v :: vs)
    | _, _ => none

def ofEntries? (o : Origin) :
    List (String × Toml.Value) → Option (List (String × SettingValue))
  | [] => some []
  | (k, v) :: r =>
    match ofToml? o v, ofEntries? o r with
    | some v, some es => some (Keyed.put k v es)
    | _, _ => none

end

mutual

/-- The later value over the earlier one. -/
def mergedOver (earlier : SettingValue) : SettingValue → SettingValue
  | scalar o s => scalar o s
  | list o items => list o items
  | table o entries =>
    match earlier with
    | table _ es => table o (entriesOver es entries)
    | _ => table o entries

def entriesOver (earlier : List (String × SettingValue)) :
    List (String × SettingValue) → List (String × SettingValue)
  | [] => earlier
  | (k, v) :: r =>
    let merged :=
      match Keyed.get? k earlier with
      | some old => mergedOver old v
      | none => v
    entriesOver (Keyed.put k merged earlier) r

end

end SettingValue

abbrev SettingTable := List (String × SettingValue)

end ProviderRegistry
