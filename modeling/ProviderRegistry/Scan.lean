import ProviderRegistry.Catalog
import ProviderRegistry.Locator
import ProviderRegistry.Manifest.Line

/-!
A scan reads every resource of an extension point and resolves every class listed there. The
entries come in the order of the resources and then of the lines; the first thing wrong, be it a
resource that does not open, a line that can not be read, a malformed name, an unknown class or a
class of another extension point, ends the scan.
-/

namespace ProviderRegistry

/-- A listed class with the place that lists it; lines count from one. -/
structure Discovered where
  origin : String
  line : Nat
  found : ProviderClass

open Text in
def Discovered.inspect (d : Discovered) : String :=
  Inspect.record "DiscoveredClass"
    [("origin", quoted d.origin), ("line", toString d.line), ("class", d.found.inspect)] false

inductive LineProblem
  | malformed (fault : Manifest.LineFault)
  | notFound (className : String)
  | notASubtype (className : String)
  deriving DecidableEq, Repr

def LineProblem.message : LineProblem → String
  | malformed f => f.message
  | notFound c => "Provider " ++ c ++ " not found"
  | notASubtype c => "Provider " ++ c ++ " not a subtype"

inductive ScanFault
  | locating (fault : Fault)
  | opening (origin : String) (error : OsError)
  | reading (origin : String) (fault : ReadFault)
  | line (origin : String) (number : Nat) (problem : LineProblem)
  deriving DecidableEq, Repr

/-- The fault a caller sees, for the extension point of the given name. -/
def ScanFault.fault (point : String) : ScanFault → Fault
  | locating f => f.wrap .configuration (point ++ ": Error locating discovery resources")
  | opening origin e =>
    .within .configuration (point ++ ": " ++ origin ++ ": Error opening discovery resource")
      (.note e.shown) []
  | reading origin e =>
    .within .configuration (point ++ ": " ++ origin ++ ": Error reading discovery resource")
      (.note e.shown) []
  | line origin n p =>
    .configuration (point ++ ": " ++ origin ++ ":" ++ toString n ++ ": " ++ p.message)

/-- The entries found before the end or before what ended the scan. -/
structure Findings where
  found : List Discovered
  fault : Option ScanFault

namespace Findings

def nothing : Findings := ⟨[], none⟩

def stopped (f : ScanFault) : Findings := ⟨[], some f⟩

/-- What is found first and then what is found after it, unless the first part ended the scan. -/
def andThen (a : Findings) (b : Findings) : Findings :=
  match a.fault with
  | some _ => a
  | none => ⟨a.found ++ b.found, b.fault⟩

end Findings

/-- Which classes a name may stand for. -/
structure Acceptance where
  resolve : String → Option ProviderClass
  implements : ProviderClass → Bool

namespace Acceptance

def readLine (a : Acceptance) (line : String) : Except LineProblem (Option ProviderClass) :=
  match Manifest.readLine line with
  | .error e => .error (.malformed e)
  | .ok none => .ok none
  | .ok (some name) =>
    match a.resolve name with
    | none => .error (.notFound name)
    | some c => if a.implements c then .ok (some c) else .error (.notASubtype name)

def readLines (a : Acceptance) (origin : String) (n : Nat) : List String → Findings
  | [] => .nothing
  | l :: r =>
    match a.readLine l with
    | .error p => .stopped (.line origin n p)
    | .ok none => readLines a origin (n + 1) r
    | .ok (some c) => .andThen ⟨[⟨origin, n, c⟩], none⟩ (readLines a origin (n + 1) r)

/-- The classes a resource lists; its lines come before what stopped their reading. -/
def readResource (a : Acceptance) (files : FileTree) (r : Resource) : Findings :=
  match r.read files with
  | .error e => .stopped (.opening r.origin e)
  | .ok out =>
    (a.readLines r.origin 1 out.lines).andThen ⟨[], out.fault.map (.reading r.origin)⟩

def readResources (a : Acceptance) (files : FileTree) : List Resource → Findings
  | [] => .nothing
  | r :: rest =>
    let first := a.readResource files r
    match first.fault with
    | some _ => first
    | none => first.andThen (readResources a files rest)

end Acceptance

/-- What a scan comes to, the locator after it, and what was reported on the way. -/
structure Scan where
  result : Except ScanFault (List Discovered)
  next : Locator
  events : List Event

def Discovered.event (point : String) (d : Discovered) : Event :=
  .discovered point d.origin d.line d.found.name

/-- Scans the resources of the extension point of the given name. -/
def scan (files : FileTree) (point : String) (locator : Locator) (a : Acceptance) : Scan :=
  let located := locator.locate files (QualifiedName.resourceName point)
  match located.result with
  | .error f => ⟨.error (.locating f), located.next, located.events⟩
  | .ok resources =>
    let findings := a.readResources files resources
    let events := located.events ++
      .scanning point resources.length :: findings.found.map (Discovered.event point)
    match findings.fault with
    | some f => ⟨.error f, located.next, events⟩
    | none => ⟨.ok findings.found, located.next, events⟩

end ProviderRegistry
