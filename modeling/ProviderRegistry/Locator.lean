import ProviderRegistry.Event
import ProviderRegistry.ExtensionPoint
import ProviderRegistry.QualifiedName
import ProviderRegistry.Resource
import ProviderRegistry.Text.Order

/-!
Locators answer which resources bear a name. One serves texts held in memory in the order they
were added, one the manifests linked into the program in the order of their origins, one the
files below its search paths, and a chain what its links serve, one after the other. A chain
fails with its first link that fails and asks none behind it. Asking may change a locator, as an
unreliable one counts how often it was asked.
-/

namespace ProviderRegistry

structure MemoryResource where
  name : String
  origin : String
  text : String
  deriving DecidableEq, Repr

structure EmbeddedManifest where
  origin : String
  point : ExtensionPoint
  text : String
  deriving DecidableEq, Repr

open Text in
def EmbeddedManifest.inspect (m : EmbeddedManifest) : String :=
  Inspect.record "ServiceManifest"
    [("origin", quoted m.origin), ("extension_point", quoted m.point.name)] true

inductive Locator
  | memory (resources : List MemoryResource)
  | embedded (manifests : List EmbeddedManifest)
  | directories (searchPaths : List String)
  | chain (links : List Locator)
  | listed (resources : List (String × String))
  | unreliable (asked : Nat) (failure : Nat → Option Fault) (inner : Locator)

/-- What a locator answers, the locator as it is after that, and what it reported. -/
structure Located where
  result : Except Fault (List Resource)
  next : Locator
  events : List Event

structure LocatedLinks where
  result : Except Fault (List Resource)
  next : List Locator
  events : List Event

namespace Locator

def empty : Locator := memory []

/-- The locator of linked manifests, whatever the order they come in. -/
def ofManifests (ms : List EmbeddedManifest) : Locator :=
  embedded (ms.mergeSort fun a b => Text.precedes a.origin b.origin)

def ofMemory (name : String) (rs : List MemoryResource) : List Resource :=
  (rs.filter fun r => r.name = name).map fun r => .ofText r.origin r.text

def ofEmbedded (name : String) (ms : List EmbeddedManifest) : List Resource :=
  (ms.filter fun m => QualifiedName.resourceName m.point.name = name).map fun m =>
    .ofText m.origin m.text

def inSearchPath (files : FileTree) (name root : String) : Except Event Resource :=
  match Path.candidate root name with
  | none => .error (.nameSkipped name)
  | some path => if files.isFile path then .ok (.ofFile path) else .error (.resourceMissing path)

def inSearchPaths (files : FileTree) (name : String) (roots : List String) : List Resource :=
  roots.filterMap fun r => (inSearchPath files name r).toOption

def missesInSearchPaths (files : FileTree) (name : String) (roots : List String) : List Event :=
  roots.filterMap fun r =>
    match inSearchPath files name r with
    | .error e => some e
    | .ok _ => none

mutual

def locate (files : FileTree) (name : String) : Locator → Located
  | memory rs => ⟨.ok (ofMemory name rs), memory rs, []⟩
  | embedded ms => ⟨.ok (ofEmbedded name ms), embedded ms, []⟩
  | directories roots =>
    ⟨.ok (inSearchPaths files name roots), directories roots,
      missesInSearchPaths files name roots⟩
  | chain links =>
    let r := locateLinks files name links
    ⟨r.result, chain r.next, r.events⟩
  | listed rs =>
    ⟨.ok ((rs.filter fun r => r.1 = name).map fun r => .ofFile r.2), listed rs, []⟩
  | unreliable asked failure inner =>
    match failure asked with
    | some f => ⟨.error f, unreliable (asked + 1) failure inner, []⟩
    | none =>
      let r := locate files name inner
      ⟨r.result, unreliable (asked + 1) failure r.next, r.events⟩

def locateLinks (files : FileTree) (name : String) : List Locator → LocatedLinks
  | [] => ⟨.ok [], [], []⟩
  | l :: rest =>
    let a := locate files name l
    match a.result with
    | .error f => ⟨.error f, a.next :: rest, a.events⟩
    | .ok rs =>
      let b := locateLinks files name rest
      ⟨b.result.map (rs ++ ·), a.next :: b.next, a.events ++ b.events⟩

end

/-- An unreliable locator that fails the first `times` times, or always. -/
def failing (times : Option Nat) (fault : Fault) (inner : Locator) : Locator :=
  unreliable 0
    (fun asked =>
      match times with
      | none => some fault
      | some n => if asked < n then some fault else none)
    inner

open Text in
/-- The inspection form; the locators that serve unchecked or unreliable resources have none. -/
def inspect : Locator → String
  | memory rs =>
    Inspect.record "MemoryResourceLocator"
      [("resources", Inspect.list (rs.map fun r =>
        Inspect.tuple [quoted r.name, quoted r.origin, quoted r.text]))] false
  | embedded ms =>
    Inspect.record "EmbeddedResourceLocator"
      [("manifests", Inspect.list (ms.map EmbeddedManifest.inspect))] false
  | directories roots =>
    Inspect.record "DirectoryResourceLocator"
      [("search_paths", Inspect.list (roots.map quoted))] false
  | chain links =>
    Inspect.record "ChainedResourceLocator" [("locators", toString links.length)] false
  | listed _ | unreliable _ _ _ => ""

end Locator

end ProviderRegistry
