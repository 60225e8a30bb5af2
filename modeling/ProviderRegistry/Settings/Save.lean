import ProviderRegistry.Settings.Load
import ProviderRegistry.Toml.Written

/-!
Saving the settings as a document. Every field is written, but for a log file that is not set. The
document is there before the file is opened, so a serialiser that fails leaves the file as it is.
-/

namespace ProviderRegistry

def LoggingSettings.written (l : LoggingSettings) : String :=
  "[logging]\nlevel = " ++ Toml.written l.level ++
    "\njson_format = " ++ Toml.writtenFlag l.jsonFormat ++
    (match l.fileOutput with
      | some p => "\nfile_output = " ++ Toml.written p
      | none => "") ++
    "\nmax_files = " ++ toString l.maxFiles ++ "\n"

def DiscoverySettings.written (d : DiscoverySettings) : String :=
  "[discovery]\nembedded = " ++ Toml.writtenFlag d.embedded ++
    "\nsearch_paths = " ++ Toml.writtenList d.searchPaths ++ "\n"

def Settings.written (c : Settings) : String := c.logging.written ++ "\n" ++ c.discovery.written

/-- Writes to a file what a serialiser makes of the settings: the answer, and the files afterwards. -/
def Settings.saveBy (serialise : Settings → Except String String) (c : Settings) (files : FileTree)
    (path : String) : Except Fault Unit × FileTree :=
  match serialise c with
  | .error e =>
    (.error (.within .configuration "Failed to serialize config to TOML" (.note e) []), files)
  | .ok text =>
    match files.write path text.toUTF8 with
    | .error e => (.error (.within .io "Failed to write config file" (.note e.shown) []), files)
    | .ok saved => (.ok (), saved)

/-- Writes the settings to a file; their document can always be made. -/
def Settings.save (c : Settings) (files : FileTree) (path : String) : Except Fault FileTree :=
  let (answer, saved) := c.saveBy (fun c => .ok c.written) files path
  answer.map fun () => saved

end ProviderRegistry
