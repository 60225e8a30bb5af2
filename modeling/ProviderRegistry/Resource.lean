import ProviderRegistry.FileTree
import ProviderRegistry.Text.Inspect

/-!
Discovery resources: an origin, and a text or a file. A resource is opened and then read line by
line, so what it gives is the lines before the first one that can not be read and what stopped
there. A directory opens and then fails on its first line.
-/

namespace ProviderRegistry

inductive Content
  | text (s : String)
  | file (path : String)
  deriving DecidableEq, Repr

structure Resource where
  origin : String
  content : Content
  deriving DecidableEq, Repr

inductive ReadFault
  | os (error : OsError)
  | notUtf8
  deriving DecidableEq, Repr

def ReadFault.shown : ReadFault → String
  | os e => e.shown
  | notUtf8 => "stream did not contain valid UTF-8"

/-- The lines that could be read, and what stopped the reading before the end. -/
structure Readout where
  lines : List String
  fault : Option ReadFault
  deriving DecidableEq, Repr

def Readout.ofBytes : List (List UInt8) → Readout
  | [] => ⟨[], none⟩
  | l :: r =>
    match String.fromUTF8? ⟨l.toArray⟩ with
    | none => ⟨[], some .notUtf8⟩
    | some s => ⟨s :: (ofBytes r).lines, (ofBytes r).fault⟩

namespace Resource

def ofText (origin text : String) : Resource := ⟨origin, .text text⟩

def ofFile (path : String) : Resource := ⟨path, .file path⟩

/-- What opening the resource and then reading all of it comes to. -/
def read (files : FileTree) (r : Resource) : Except OsError Readout :=
  match r.content with
  | .text s => .ok ⟨Text.linesOf s, none⟩
  | .file path =>
    match files.read path with
    | .error e => .error e
    | .ok .directory => .ok ⟨[], some (.os .isADirectory)⟩
    | .ok (.file bytes) => .ok (Readout.ofBytes (Text.byteLines bytes))

def inspect (r : Resource) : String :=
  Text.Inspect.record "DiscoveryResource" [("origin", Text.quoted r.origin)] true

end Resource

end ProviderRegistry
