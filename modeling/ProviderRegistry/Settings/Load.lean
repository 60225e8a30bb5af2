import ProviderRegistry.Event
import ProviderRegistry.Resource
import ProviderRegistry.Settings.Decode
import ProviderRegistry.Settings.Environment
import ProviderRegistry.Toml.Document

/-!
Loading the settings: the defaults, over them a file, over that the environment. The file is the
one whose path is given, or the first of the default places that is taken. A relative path is
looked for in the directories above the working directory too, and a path that leads to no
regular file contributes nothing. What was read is checked before it is used.
-/

namespace ProviderRegistry

structure Surroundings where
  files : FileTree
  environment : List (String × String)

namespace Surroundings

def valueOf? (s : Surroundings) (name : String) : Option String := s.environment.lookup name

def settingsDirectory? (s : Surroundings) : Option String :=
  match (s.valueOf? "XDG_CONFIG_HOME").filter Path.isAbsolute with
  | some d => some d
  | none =>
    ((s.valueOf? "HOME").filter (· ≠ "")).map fun home => Path.join home ".config"

/-- The places where settings are looked for when no path is given. -/
def defaultPaths (s : Surroundings) : List String :=
  let cwd := Path.ofPlace s.files.cwd
  [Path.join cwd "extreg.toml", Path.join (Path.join cwd "extreg") "extreg.toml"] ++
    (s.settingsDirectory?.map fun d => Path.join (Path.join d "extreg") "extreg.toml").toList

end Surroundings

structure SettingsLoader where
  path : Option String
  envPrefix : String
  deriving DecidableEq, Repr

inductive SettingsFault
  | notUtf8 (name : String)
  | malformed
  | decode (fault : DecodeFault)
  | level (fault : Fault)
  | noLogFiles
  | notADirectory (path : String)
  deriving DecidableEq, Repr

namespace SettingsFault

def unread (text : String) : Fault :=
  .within .configuration "Failed to extract configuration" (.note text) []

def fault : SettingsFault → Fault
  | notUtf8 name => unread (ReadFault.notUtf8.shown ++ "\n in " ++ name ++ " TOML file")
  | malformed => unread "TOML parse error"
  | decode f => unread f.message
  | level f => f
  | noLogFiles =>
    .configuration "Maximum log files cannot be 0 when file output is enabled"
  | notADirectory path =>
    .configuration ("Discovery search path is not a directory: " ++ path)

end SettingsFault

/-- The regular file that a path leads to, from the given directory or from one above it. -/
def FileTree.findFile (t : FileTree) (path : String) : Option (String × ByteArray) :=
  let bases := if Path.isAbsolute path then [[]] else ((downTo t.cwd).reverse ++ [[]])
  bases.findSome? fun base =>
    let full := if Path.isAbsolute path then path else Path.join (Path.ofPlace base) path
    match t.read full with
    | .ok (.file bytes) => some (full, bytes)
    | _ => none

namespace SettingsLoader

def default : SettingsLoader := ⟨none, "EXTREG"⟩

/-- The path that is read, if any, and what is reported about it. -/
def choose (l : SettingsLoader) (s : Surroundings) : Option String × List Event :=
  match l.path with
  | some p =>
    if s.files.exists? p then (some p, [.configurationLoaded p])
    else (none, [.configurationMissing p])
  | none =>
    match s.defaultPaths.find? s.files.exists? with
    | some p => (some p, [.configurationLoaded p])
    | none => (none, [])

/-- The settings that a path contributes. -/
def ofFile (s : Surroundings) (path : String) : Except SettingsFault SettingTable :=
  match s.files.findFile path with
  | none => .ok []
  | some (full, bytes) =>
    let name := Path.shownFrom s.files.cwd full
    match String.fromUTF8? bytes with
    | none => .error (.notUtf8 name)
    | some text =>
      match (Toml.parse text).bind (SettingValue.ofEntries? (.file name)) with
      | none => .error .malformed
      | some es => .ok es

/-- The settings of the file and, over them, those of the environment. -/
def merged (l : SettingsLoader) (s : Surroundings) : Except SettingsFault SettingTable := do
  let file ← match (l.choose s).1 with
    | some p => ofFile s p
    | none => .ok []
  return SettingValue.entriesOver file (Environment.settings (l.envPrefix ++ "_") s.environment)

end SettingsLoader

/-- The first rule that the settings break, if they break one. -/
def Settings.broken? (c : Settings) (files : FileTree) : Option SettingsFault :=
  match Level.parse c.logging.level with
  | .error f => some (.level f)
  | .ok _ =>
    if c.logging.fileOutput.isSome ∧ c.logging.maxFiles = 0 then some .noLogFiles
    else
      (c.discovery.searchPaths.find? fun p => files.exists? p && !files.isDirectory p).map
        .notADirectory

def SettingsLoader.load (l : SettingsLoader) (s : Surroundings) :
    Except SettingsFault Settings × List Event :=
  let result := do
    let c ← (Settings.decode (← l.merged s)).mapError SettingsFault.decode
    match c.broken? s.files with
    | some f => .error f
    | none => .ok c
  (result, (l.choose s).2)

end ProviderRegistry
