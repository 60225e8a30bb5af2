import ProviderRegistry.Level

/-!
What the registry reports while it works. Every event has a level, a fixed message and named
fields; a reader of the log filters by level, a proof speaks of the constructors.
-/

namespace ProviderRegistry

inductive FieldValue
  | text (s : String)
  | number (n : Nat)
  | flag (b : Bool)
  deriving DecidableEq, Repr

inductive Event
  | building (point : String)
  | scanning (point : String) (resources : Nat)
  | discovered (point origin : String) (line : Nat) (className : String)
  | overridden (point key replaced className origin : String) (line : Nat)
  | built (point : String) (providers keyClasses : Nat) (defaultKey : Option String)
  | buildFailed (point : String) (fault : Fault)
  | instantiating (point key className : String)
  | lookupFailed (point : String) (fault : Fault)
  | duplicateClass (className : String)
  | sourceRegistered (kind location : String)
  | globalInstalled (embedded : Bool) (searchPaths : Nat)
  | nameSkipped (name : String)
  | resourceMissing (path : String)
  | configurationLoaded (path : String)
  | configurationMissing (path : String)
  deriving DecidableEq, Repr

namespace Event

def level : Event → Level
  | building _ | scanning _ _ | discovered _ _ _ _ | instantiating _ _ _ | sourceRegistered _ _ =>
    .debug
  | built _ _ _ _ | globalInstalled _ _ | configurationLoaded _ => .info
  | overridden _ _ _ _ _ _ | lookupFailed _ _ | duplicateClass _ | configurationMissing _ => .warn
  | buildFailed _ _ => .error
  | nameSkipped _ | resourceMissing _ => .trace

def message : Event → String
  | building _ => "Building extension registry"
  | scanning _ _ => "Scanning discovery resources"
  | discovered _ _ _ _ => "Discovered provider class"
  | overridden _ _ _ _ _ _ => "Provider key declared twice, the later class wins"
  | built _ _ _ _ => "Extension registry built"
  | buildFailed _ _ => "Failed to build extension registry"
  | instantiating _ _ _ => "Instantiating provider"
  | lookupFailed _ _ => "Error happened while getting provider, returning none"
  | duplicateClass _ => "Duplicate provider class name, keeping the first registration"
  | sourceRegistered _ _ => "Discovery source registered"
  | globalInstalled _ _ => "Global extension loader installed"
  | nameSkipped _ => "Resource name leaves the search path, skipped"
  | resourceMissing _ => "No discovery resource"
  | configurationLoaded path => "Configuration loaded from " ++ path
  | configurationMissing path => "Configuration file not found: " ++ path

def fields : Event → List (String × FieldValue)
  | building point => [("extension_point", .text point)]
  | scanning point n => [("extension_point", .text point), ("resources", .number n)]
  | discovered point origin line className =>
    [("extension_point", .text point), ("origin", .text origin), ("line", .number line),
      ("class", .text className)]
  | overridden point key replaced className origin line =>
    [("extension_point", .text point), ("key", .text key), ("replaced", .text replaced),
      ("class", .text className), ("origin", .text origin), ("line", .number line)]
  | built point providers keyClasses defaultKey =>
    [("extension_point", .text point), ("providers", .number providers),
      ("key_classes", .number keyClasses), ("default_key", .text (defaultKey.getD ""))]
  | buildFailed point fault => [("extension_point", .text point), ("error", .text fault.shown)]
  | instantiating point key className =>
    [("extension_point", .text point), ("key", .text key), ("class", .text className)]
  | lookupFailed point fault => [("extension_point", .text point), ("error", .text fault.shown)]
  | duplicateClass className => [("class", .text className)]
  | sourceRegistered kind location => [("kind", .text kind), ("location", .text location)]
  | globalInstalled embedded searchPaths =>
    [("embedded", .flag embedded), ("search_paths", .number searchPaths)]
  | nameSkipped name => [("name", .text name)]
  | resourceMissing path => [("path", .text path)]
  | configurationLoaded _ | configurationMissing _ => []

end Event

end ProviderRegistry
