import ProviderRegistry.Path

/-!
The settings of a program that uses the registry: how it logs, and where its discovery resources
come from. Embedded manifests are read before the search paths, and those in their order, so that
a later source wins where two list a provider for one key. Two settings are the same when they
agree in every field, paths being compared by their steps.
-/

namespace ProviderRegistry

structure LoggingSettings where
  level : String
  jsonFormat : Bool
  fileOutput : Option String
  maxFiles : Nat
  deriving DecidableEq, Repr

structure DiscoverySettings where
  embedded : Bool
  searchPaths : List String
  deriving DecidableEq, Repr

structure Settings where
  logging : LoggingSettings
  discovery : DiscoverySettings
  deriving DecidableEq, Repr

def LoggingSettings.sameAs (a b : LoggingSettings) : Bool :=
  a.level == b.level && a.jsonFormat == b.jsonFormat &&
    a.fileOutput.map Path.steps == b.fileOutput.map Path.steps && a.maxFiles == b.maxFiles

def DiscoverySettings.sameAs (a b : DiscoverySettings) : Bool :=
  a.embedded == b.embedded && a.searchPaths.map Path.steps == b.searchPaths.map Path.steps

def Settings.sameAs (a b : Settings) : Bool :=
  a.logging.sameAs b.logging && a.discovery.sameAs b.discovery

def LoggingSettings.default : LoggingSettings := ⟨"info", false, none, 7⟩

def DiscoverySettings.default : DiscoverySettings := ⟨true, []⟩

def Settings.default : Settings := ⟨.default, .default⟩

end ProviderRegistry
