import ProviderRegistry.Bootstrap
import ProviderRegistry.CommandLine.Arguments
import ProviderRegistry.Text.Json

/-!
What the commands write. One lists the linked classes, one the origins of the resources of an
extension point, and one checks those resources: it scans them as a loader would and shows the
key index, or says what is wrong. The check knows an extension point by its name only.
-/

namespace ProviderRegistry

/-- The lines a command writes, and whether it found all well. -/
structure Output where
  lines : List String
  succeeded : Bool
  deriving DecidableEq, Repr

namespace Output

def text (o : Output) : String := String.join (o.lines.map (· ++ "\n"))

def exitCode (o : Output) : Nat := if o.succeeded then 0 else 1

end Output

/-- What running a command comes to, and what was reported on the way. -/
structure Report where
  result : Except Fault Output
  events : List Event

namespace ProviderClass

def row (c : ProviderClass) : String :=
  "\t".intercalate [c.name, c.point.name, c.key, (c.keyClass.map KeyClass.name).getD "-"]

open Text in
def objectLines (c : ProviderClass) : List String :=
  Json.objectLines
    [("name", Json.text c.name), ("extension_point", Json.text c.point.name),
      ("key", Json.text c.key), ("key_class", Json.optionalText (c.keyClass.map KeyClass.name))]

end ProviderClass

namespace KeyIndex

def keyLines (ix : KeyIndex) : List String := ix.classes.map fun e => e.1 ++ "\t" ++ e.2.name

def keyClassLines (ix : KeyIndex) : List String :=
  ix.keyClasses.map fun e => e.1.name ++ "\t-> " ++ e.2

def lines (ix : KeyIndex) (listed : Nat) : List String :=
  ix.keyLines ++ ix.keyClassLines ++
    ["ok: " ++ toString ix.size ++ " key(s), " ++ toString listed ++ " listed class(es)"]

end KeyIndex

namespace Linked

/-- The linked classes, as a table or as JSON. -/
def listProviders (k : Linked) (json : Bool) : Report :=
  let classes := k.catalog.classes
  let lines :=
    if json then Text.Json.listLines (classes.map ProviderClass.objectLines)
    else classes.map ProviderClass.row
  ⟨.ok ⟨lines, true⟩, Catalog.eventsOf k.classes⟩

/-- The origins of the resources of an extension point. -/
def listManifests (k : Linked) (files : FileTree) (d : DiscoverySettings) (point : String) :
    Report :=
  let located := (k.locator d).locate files (QualifiedName.resourceName point)
  let result := match located.result with
    | .error f => .error ((ScanFault.locating f).fault point)
    | .ok rs => .ok ⟨rs.map Resource.origin, true⟩
  ⟨result, d.events ++ located.events⟩

/-- The scan that checks the resources of an extension point: every class belongs that is linked
to an extension point of that name. -/
def scanByName (k : Linked) (files : FileTree) (d : DiscoverySettings) (point : String) : Scan :=
  scan files point (k.locator d) ⟨k.catalog.resolve, fun c => c.point.name == point⟩

/-- The check of the resources of an extension point. -/
def validate (k : Linked) (files : FileTree) (d : DiscoverySettings) (point : String) : Report :=
  let scanned := k.scanByName files d point
  let events := d.events ++ Catalog.eventsOf k.classes ++ scanned.events
  match scanned.result with
  | .error f => ⟨.ok ⟨["invalid: " ++ (f.fault point).shown], false⟩, events⟩
  | .ok found =>
    ⟨.ok ⟨(KeyIndex.build found).lines found.length, true⟩,
      events ++ KeyIndex.buildEvents point found⟩

end Linked

def Command.run (c : Command) (k : Linked) (files : FileTree) (settings : Settings) : Report :=
  match c with
  | .providers json => k.listProviders json
  | .manifests point => k.listManifests files settings.discovery point
  | .validate point => k.validate files settings.discovery point

end ProviderRegistry
