import ProviderRegistry.Settings.Basic
import ProviderRegistry.Settings.Value

/-!
Settings read out of the merged values. A field that is not given keeps its default, and a key
that names no field is ignored. A section may be given as a list too, its fields in the order of
their declaration. The first fault in the order of the keys is reported with the place of the
value.
-/

namespace ProviderRegistry

inductive DecodeProblem
  | wrongType (found expected : String)
  | wrongValue (found expected : String)
  deriving DecidableEq, Repr

structure DecodeFault where
  problem : DecodeProblem
  path : List String
  origin : Origin
  deriving DecidableEq, Repr

def DecodeFault.message (f : DecodeFault) : String :=
  let what := match f.problem with
    | .wrongType found expected => "invalid type: found " ++ found ++ ", expected " ++ expected
    | .wrongValue found expected => "invalid value " ++ found ++ ", expected " ++ expected
  what ++ " " ++ f.origin.place f.path

abbrev Decoder (α : Type) := List String → SettingValue → Except DecodeFault α

namespace Decoder

def refuse {α : Type} (expected : String) : Decoder α := fun path v =>
  .error ⟨.wrongType v.shown expected, path, v.origin⟩

def text (expected : String) : Decoder String := fun path v =>
  match v with
  | .scalar _ (.text s) => .ok s
  | v => refuse expected path v

def flag : Decoder Bool := fun path v =>
  match v with
  | .scalar _ (.flag b) => .ok b
  | v => refuse "a boolean" path v

def count : Decoder Nat := fun path v =>
  match v with
  | .scalar _ (.unsigned n) => .ok n
  | .scalar o (.signed n) =>
    if 0 ≤ n then .ok n.toNat
    else .error ⟨.wrongValue (Scalar.signed n).shown "usize", path, o⟩
  | v => refuse "usize" path v

def itemsFrom {α : Type} (d : Decoder α) (path : List String) (n : Nat) :
    List SettingValue → Except DecodeFault (List α)
  | [] => .ok []
  | v :: r =>
    match d (path ++ [toString n]) v with
    | .error f => .error f
    | .ok a => (itemsFrom d path (n + 1) r).map (a :: ·)

def list {α : Type} (d : Decoder α) : Decoder (List α) := fun path v =>
  match v with
  | .list _ items => itemsFrom d path 0 items
  | v => refuse "a sequence" path v

/-- A field of a section, by name; what is not given keeps its default. -/
def field {α : Type} (d : Decoder α) (name : String) (default : α) (path : List String)
    (entries : SettingTable) : Except DecodeFault α :=
  match Keyed.get? name entries with
  | none => .ok default
  | some v => d (path ++ [name]) v

/-- A field of a section given as a list, by position. -/
def position {α : Type} (d : Decoder α) (n : Nat) (default : α) (path : List String)
    (items : List SettingValue) : Except DecodeFault α :=
  match items[n]? with
  | none => .ok default
  | some v => d (path ++ [toString n]) v

def path : Decoder String := text "path string"

def logging : Decoder LoggingSettings := fun place v =>
  let d := LoggingSettings.default
  match v with
  | .table _ es => do
    let fileOutput ← field (fun p v => (path p v).map some) "file_output" d.fileOutput place es
    let jsonFormat ← field flag "json_format" d.jsonFormat place es
    let level ← field (text "a string") "level" d.level place es
    let maxFiles ← field count "max_files" d.maxFiles place es
    return ⟨level, jsonFormat, fileOutput, maxFiles⟩
  | .list _ items => do
    let level ← position (text "a string") 0 d.level place items
    let jsonFormat ← position flag 1 d.jsonFormat place items
    let fileOutput ← position (fun p v => (path p v).map some) 2 d.fileOutput place items
    let maxFiles ← position count 3 d.maxFiles place items
    return ⟨level, jsonFormat, fileOutput, maxFiles⟩
  | v => refuse "struct LoggingConfig" place v

def discovery : Decoder DiscoverySettings := fun place v =>
  let d := DiscoverySettings.default
  match v with
  | .table _ es => do
    let embedded ← field flag "embedded" d.embedded place es
    let searchPaths ← field (list path) "search_paths" d.searchPaths place es
    return ⟨embedded, searchPaths⟩
  | .list _ items => do
    let embedded ← position flag 0 d.embedded place items
    let searchPaths ← position (list path) 1 d.searchPaths place items
    return ⟨embedded, searchPaths⟩
  | v => refuse "struct DiscoveryConfig" place v

end Decoder

def Settings.decode (entries : SettingTable) : Except DecodeFault Settings := do
  let discovery ← Decoder.field Decoder.discovery "discovery" .default [] entries
  let logging ← Decoder.field Decoder.logging "logging" .default [] entries
  return ⟨logging, discovery⟩

end ProviderRegistry
