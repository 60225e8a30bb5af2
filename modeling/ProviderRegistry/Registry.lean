import ProviderRegistry.Holder
import ProviderRegistry.KeyIndex

/-!
The registry of one extension point: its key index, fixed when it is built, and one holder for
every key whose factory was ever started. A lookup without a key, or with an empty one, is for
the declared default key.
-/

namespace ProviderRegistry

abbrev InstanceId := Nat

structure Registry where
  point : ExtensionPoint
  index : KeyIndex
  cells : List (String × Holder InstanceId)

namespace Registry

def defaultKey (r : Registry) : Option String := r.point.defaultKey

/-- The key a lookup is for: the one it names, if that is not empty, else the default. -/
def effectiveKey (r : Registry) (key : Option String) : Option String :=
  (key.filter (· ≠ "")).or r.defaultKey

def instance? (r : Registry) (key : String) : Option InstanceId :=
  (Keyed.get? key r.cells).bind (·.value)

/-- The registry with a holder under the key, an empty one if there was none. -/
def touch (r : Registry) (key : String) : Registry :=
  match Keyed.get? key r.cells with
  | some _ => r
  | none => { r with cells := Keyed.put key .empty r.cells }

def fill (r : Registry) (key : String) (i : InstanceId) : Registry :=
  { r with cells := Keyed.put key ⟨some i⟩ r.cells }

/-- How many keys had their factory started. -/
def started (r : Registry) : Nat := r.cells.length

open Text in
def inspect (r : Registry) : String :=
  Inspect.record "Registry"
    [("extension_point", quoted r.point.name),
      ("default_key", Inspect.optional (r.defaultKey.map quoted)),
      ("keys", Inspect.list (r.index.keys.map quoted)),
      ("key_classes", Inspect.list (r.index.keyClasses.map fun e =>
        Inspect.tuple [quoted e.1.name, quoted e.2])),
      ("instances", toString r.started)] false

end Registry

/-- A registry as it was built, or why it was not; the locator after that, and the reports. -/
structure Build where
  result : Except ScanFault Registry
  next : Locator
  events : List Event

/-- Which classes the registry of an extension point takes: those of the very same point. -/
def acceptanceFor (point : ExtensionPoint) (catalog : Catalog) : Acceptance :=
  ⟨catalog.resolve, fun c => c.point.sameAs point⟩

/-- Scans the resources of an extension point and indexes what they list. -/
def Registry.build (files : FileTree) (point : ExtensionPoint) (locator : Locator)
    (catalog : Catalog) : Build :=
  let s := scan files point.name locator (acceptanceFor point catalog)
  match s.result with
  | .error f => ⟨.error f, s.next, s.events⟩
  | .ok found =>
    let ix := KeyIndex.build found
    ⟨.ok ⟨point, ix, []⟩, s.next,
      s.events ++ KeyIndex.buildEvents point.name found ++
        [.built point.name ix.size ix.keyClasses.length point.defaultKey]⟩

theorem Registry.build_result (files : FileTree) (point : ExtensionPoint) (locator : Locator)
    (catalog : Catalog) : (Registry.build files point locator catalog).result =
      (scan files point.name locator (acceptanceFor point catalog)).result.map
        fun ds => ⟨point, KeyIndex.build ds, []⟩ := by
  unfold Registry.build
  dsimp only
  split
  · rename_i h
    rw [h]
    rfl
  · rename_i h
    rw [h]
    rfl

end ProviderRegistry
