import ProviderRegistry.Level
import ProviderRegistry.FileTree
import ProviderRegistry.Settings.Basic

/-!
Setting up the log of a program. The level is checked, then the log file of the day is opened if
one is wanted, its directory being made when opening fails at first; last the log is installed
for the whole program, which can be done only once.
-/

namespace ProviderRegistry

def logDirectory (path : String) : String :=
  match Path.parent? path with
  | none | some "" => "."
  | some d => d

def logFileName (path day : String) : String := (Path.fileName? path).getD "extreg" ++ "." ++ day

inductive LogFault
  | noDirectory (error : OsError)
  | noFile (error : OsError)
  deriving DecidableEq, Repr

def LogFault.causes : LogFault → Cause × List Cause
  | noDirectory e => (.note ("failed to create log directory: " ++ e.shown), [.note e.shown])
  | noFile e => (.note ("failed to create log file: " ++ e.shown), [.note e.shown])

def openLog (t : FileTree) (path day : String) : Except LogFault FileTree :=
  let directory := logDirectory path
  let file := Path.join directory (logFileName path day)
  match t.openFile file with
  | .ok (t, _) => .ok t
  | .error _ =>
    match t.makeDirectoryTree (directory.length + 1) directory with
    | .error e => .error (.noDirectory e)
    | .ok t => ((t.openFile file).map (·.1)).mapError .noFile

/-- Sets up the log; `installed` says whether the program has one already. -/
def LoggingSettings.start (l : LoggingSettings) (files : FileTree) (day : String)
    (installed : Bool) : Except Fault (Level × FileTree) :=
  match Level.parse l.level with
  | .error f => .error f
  | .ok level =>
    let opened : Except Fault FileTree := match l.fileOutput with
      | none => .ok files
      | some path =>
        (openLog files path day).mapError fun f =>
          .within .configuration ("Failed to open log file in " ++ logDirectory path)
            f.causes.1 f.causes.2
    match opened with
    | .error f => .error f
    | .ok t =>
      if installed then
        .error (.within .configuration "Failed to install the global tracing subscriber"
          (.note "a global default trace dispatcher has already been set") [])
      else .ok (level, t)

end ProviderRegistry
