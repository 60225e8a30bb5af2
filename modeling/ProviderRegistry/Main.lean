import ProviderRegistry.CommandLine.Report
import ProviderRegistry.Settings.Load

/-!
The command line of a program that has nothing linked into it. The files that matter are read
first, those that may hold the settings and then those below the search paths; what is done with
them is settled by the library.
-/

namespace ProviderRegistry

/-- The tree with what the file system holds under a path. -/
def addPath (t : FileTree) (path : String) : IO FileTree := do
  let place := t.placeOf path
  let put (n : Node) : FileTree := (t.makeDirectories place.dropLast).put place n
  try
    return put (.file (← IO.FS.readBinFile path))
  catch
    | .inappropriateType .. => return put .directory
    | _ => return t

/-- The files that may hold the settings. -/
def settingsPaths (l : SettingsLoader) (s : Surroundings) : List String :=
  match l.path with
  | none => s.defaultPaths
  | some p =>
    if Path.isAbsolute p then [p]
    else ([] :: FileTree.downTo s.files.cwd).map fun base => Path.join (Path.ofPlace base) p

/-- The search paths, and what they may hold for the command. -/
def discoveryPaths (c : Command) (d : DiscoverySettings) : List String :=
  let candidates := match c with
    | .providers _ => []
    | .manifests p | .validate p =>
      d.searchPaths.filterMap fun root => Path.candidate root (QualifiedName.resourceName p)
  d.searchPaths ++ candidates

def variableNames : List String :=
  ["HOME", "XDG_CONFIG_HOME", "EXTREG_LOGGING", "EXTREG_LOGGING__LEVEL",
    "EXTREG_LOGGING__JSON_FORMAT", "EXTREG_LOGGING__FILE_OUTPUT", "EXTREG_LOGGING__MAX_FILES",
    "EXTREG_DISCOVERY", "EXTREG_DISCOVERY__EMBEDDED", "EXTREG_DISCOVERY__SEARCH_PATHS"]

def readVariables : IO (List (String × String)) :=
  variableNames.filterMapM fun name => do return (← IO.getEnv name).map (name, ·)

def usage : String :=
  "usage: extreg [--config PATH] providers [--json] | manifests POINT | validate POINT"

def writeEvents (settings : Settings) (es : List Event) : IO Unit := do
  let least := match Level.parse settings.logging.level with
    | .ok l => l.severity
    | .error _ => Level.info.severity
  for e in es do
    if least ≤ e.level.severity then IO.eprintln (e.level.name ++ " " ++ e.message)

def execute (asked : Invocation) : IO UInt32 := do
  let cwd := Path.segments ((← IO.getEnv "PWD").getD "/")
  let bare : Surroundings := ⟨.ofCwd cwd, ← readVariables⟩
  let loader := { SettingsLoader.default with path := asked.settingsPath }
  let files ← (settingsPaths loader bare).foldlM addPath bare.files
  match loader.load { bare with files } with
  | (.error f, _) =>
    IO.eprintln ("Error: " ++ f.fault.shown)
    return 1
  | (.ok settings, loaded) =>
    let files ← (discoveryPaths asked.command settings.discovery).foldlM addPath files
    let report := asked.command.run ⟨[], []⟩ files settings
    writeEvents settings (loaded ++ report.events)
    match report.result with
    | .error f =>
      IO.eprintln ("Error: " ++ f.shown)
      return 1
    | .ok out =>
      IO.print out.text
      return out.exitCode.toUInt32

end ProviderRegistry

def main (args : List String) : IO UInt32 := do
  match ProviderRegistry.Invocation.ofArguments args with
  | .error f =>
    IO.eprintln ProviderRegistry.usage
    return f.exitCode.toUInt32
  | .ok asked => ProviderRegistry.execute asked
