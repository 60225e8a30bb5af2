import ProviderRegistry.Lookup
import ProviderRegistry.Settings.Basic

/-!
Loaders as a program sets them up: over what is linked into it, or over the sources its settings
name. The global loader is one for the whole program; it comes to be when it is installed or
first used, whichever is sooner, and is never replaced.
-/

namespace ProviderRegistry

/-- What is linked into a program, in the order the linker presents it. -/
structure Linked where
  classes : List ProviderClass
  manifests : List EmbeddedManifest

/-- The locators that the discovery settings name: embedded manifests first, then the search
paths. -/
def Linked.links (k : Linked) (d : DiscoverySettings) : List Locator :=
  (if d.embedded then [Locator.ofManifests k.manifests] else []) ++
    if d.searchPaths.isEmpty then [] else [.directories d.searchPaths]

def Linked.locator (k : Linked) (d : DiscoverySettings) : Locator := .chain (k.links d)

def DiscoverySettings.events (d : DiscoverySettings) : List Event :=
  (if d.embedded then [.sourceRegistered "embedded" "linked manifests"] else []) ++
    d.searchPaths.map (.sourceRegistered "directory")

def Linked.catalog (k : Linked) : Catalog := .ofClasses k.classes

def Linked.defaultLoader (k : Linked) : Loader := .new (.ofManifests k.manifests) k.catalog

def Linked.loader (k : Linked) (settings : Settings) : Loader :=
  .new (k.locator settings.discovery) k.catalog

def Linked.loaderEvents (k : Linked) (settings : Settings) : List Event :=
  settings.discovery.events ++ Catalog.eventsOf k.classes

namespace Store

/-- Installs a loader as the global one, if there is none yet. -/
def installGlobal (s : Store) (l : Loader) : Except Fault Store :=
  match s.global with
  | some _ =>
    .error (.invalidArgument "The global extension loader is already initialized")
  | none => .ok { (s.addLoader l).1 with global := some (s.addLoader l).2 }

/-- The global loader, made over everything linked on its first use. -/
def ensureGlobal (s : Store) (k : Linked) : Reply LoaderId :=
  match s.global with
  | some l => ⟨s, [], l⟩
  | none =>
    ⟨{ (s.addLoader k.defaultLoader).1 with global := some (s.addLoader k.defaultLoader).2 },
      Catalog.eventsOf k.classes, (s.addLoader k.defaultLoader).2⟩

def installGlobalFrom (s : Store) (k : Linked) (settings : Settings) :
    Reply (Except Fault LoaderId) :=
  let events := k.loaderEvents settings
  match s.installGlobal (k.loader settings) with
  | .error f => ⟨s, events, .error f⟩
  | .ok t =>
    ⟨t, events ++ [.globalInstalled settings.discovery.embedded
      settings.discovery.searchPaths.length], .ok s.loaders.length⟩

def globalRegistry (s : Store) (k : Linked) (point : ExtensionPoint) :
    Reply (Except BuildFault RegistryId) :=
  let g := s.ensureGlobal k
  let r := g.store.registry g.result point
  ⟨r.store, g.events ++ r.events, r.result⟩

end Store

end ProviderRegistry
