import ProviderRegistry.Path

/-!
A tree of directories and files, read by path. A path is walked from the root or from the working
directory one segment at a time: every segment but the last must name a directory, `.` and `..`
too, and so must the last when a slash follows it. Links are absent.
-/

namespace ProviderRegistry

inductive OsError
  | notFound
  | alreadyExists
  | notADirectory
  | isADirectory
  | nameTooLong
  | innerNul
  deriving DecidableEq, Repr

def OsError.shown : OsError → String
  | notFound => "No such file or directory (os error 2)"
  | alreadyExists => "File exists (os error 17)"
  | notADirectory => "Not a directory (os error 20)"
  | isADirectory => "Is a directory (os error 21)"
  | nameTooLong => "File name too long (os error 36)"
  | innerNul => "file name contained an unexpected NUL byte"

inductive Node
  | directory
  | file (bytes : ByteArray)

structure FileTree where
  cwd : List String
  nodes : List (List String × Node)

namespace FileTree

/-- The places from the first directory below the root down to the given one. -/
def downTo : List String → List (List String)
  | [] => []
  | d :: r => [d] :: (downTo r).map (d :: ·)

/-- The tree that holds its root and the directories down to the working directory only. -/
def ofCwd (cwd : List String) : FileTree :=
  ⟨cwd, (downTo cwd).map fun p => (p, .directory)⟩

/-- What stands at a place, the root being a directory always. -/
def node? (t : FileTree) (place : List String) : Option Node :=
  if place.isEmpty then some .directory
  else (t.nodes.find? fun e => e.1 == place).map (·.2)

/-- The steps of a path, the slash at its end counting as a step that stays. -/
def steps (path : String) : List String :=
  Path.segments path ++ if Path.endsInSlash path then ["."] else []

def start (t : FileTree) (path : String) : List String :=
  if Path.isAbsolute path then [] else t.cwd

/-- One step from an existing place. -/
def step (t : FileTree) (place : List String) (segment : String) : Except OsError (List String) :=
  match t.node? place with
  | some .directory =>
    if segment = "." then .ok place
    else if segment = ".." then .ok place.dropLast
    else if segment.utf8ByteSize > 255 then .error .nameTooLong
    else if (t.node? (place ++ [segment])).isSome then .ok (place ++ [segment])
    else .error .notFound
  | some (.file _) => .error .notADirectory
  | none => .error .notFound

/-- The place a path leads to when every directory on the way is there. -/
def placeOf (t : FileTree) (path : String) : List String :=
  (Path.segments path).foldl
    (fun place s =>
      if s = "." then place else if s = ".." then place.dropLast else place ++ [s])
    (t.start path)

def walk (t : FileTree) (place : List String) (segments : List String) :
    Except OsError (List String) :=
  segments.foldlM t.step place

/-- Faults that a path has of itself, whatever the tree holds. -/
def pathFault? (path : String) : Option OsError :=
  if path.toList.contains '\x00' then some .innerNul
  else if path = "" then some .notFound
  else if path.utf8ByteSize ≥ 4096 then some .nameTooLong
  else none

def locate (t : FileTree) (path : String) : Except OsError (List String) :=
  match pathFault? path with
  | some e => .error e
  | none => t.walk (t.start path) (steps path)

/-- What a path leads to. -/
def read (t : FileTree) (path : String) : Except OsError Node :=
  match t.locate path with
  | .error e => .error e
  | .ok place =>
    match t.node? place with
    | some n => .ok n
    | none => .error .notFound

def exists? (t : FileTree) (path : String) : Bool := (t.read path).isOk

def isFile (t : FileTree) (path : String) : Bool :=
  match t.read path with
  | .ok (.file _) => true
  | _ => false

def isDirectory (t : FileTree) (path : String) : Bool :=
  match t.read path with
  | .ok .directory => true
  | _ => false

def put (t : FileTree) (place : List String) (n : Node) : FileTree :=
  { t with nodes := t.nodes.filter (fun e => e.1 != place) ++ [(place, n)] }

/-- The directory that the last step of a path is taken from. -/
def directoryOf (t : FileTree) (path : String) : Except OsError (List String) :=
  t.walk (t.start path) ((Path.segments path).dropLast ++ ["."])

/-- Where a new node of a path would stand: the directory it is in must be there. -/
def freePlace (t : FileTree) (path : String) : Except OsError (List String) :=
  match t.directoryOf path, (Path.segments path).getLast? with
  | .error e, _ => .error e
  | .ok _, none => .error .alreadyExists
  | .ok parent, some last =>
    if Path.isRelativeStep last then .error .alreadyExists
    else
      match t.step parent last with
      | .ok _ => .error .alreadyExists
      | .error .notFound => .ok (parent ++ [last])
      | .error e => .error e

/-- Opens a file for writing, making it if it is not there. A slash at the end of the path asks
for a directory, which can not be written. -/
def openFile (t : FileTree) (path : String) : Except OsError (FileTree × List String) :=
  match pathFault? path, t.directoryOf path, t.locate path with
  | some e, _, _ => .error e
  | none, .error e, _ => .error e
  | none, .ok _, .ok place =>
    match t.node? place, Path.endsInSlash path with
    | some (.file _), false => .ok (t, place)
    | _, _ => .error .isADirectory
  | none, .ok _, .error e =>
    if Path.endsInSlash path then .error .isADirectory
    else if e ≠ .notFound then .error e
    else (t.freePlace path).map fun place => (t.put place (.file ByteArray.empty), place)

def write (t : FileTree) (path : String) (bytes : ByteArray) : Except OsError FileTree :=
  (t.openFile path).map fun p => p.1.put p.2 (.file bytes)

def makeDirectory (t : FileTree) (path : String) : Except OsError FileTree :=
  match pathFault? path with
  | some e => .error e
  | none => (t.freePlace path).map fun place => t.put place .directory

def makeDirectoryTree : Nat → FileTree → String → Except OsError FileTree
  | 0, _, _ => .error .notFound
  | n + 1, t, path =>
    if path = "" then .ok t
    else
      match t.makeDirectory path with
      | .ok t => .ok t
      | .error e =>
        if e ≠ .notFound then (if t.isDirectory path then .ok t else .error e)
        else
          match Path.parent? path with
          | none => .error .notFound
          | some above =>
            match makeDirectoryTree n t above with
            | .error e => .error e
            | .ok t =>
              match t.makeDirectory path with
              | .ok t => .ok t
              | .error e => if t.isDirectory path then .ok t else .error e

/-- Makes the directory at a place and those above it; a place that is taken keeps its node. -/
def makeDirectories (t : FileTree) (place : List String) : FileTree :=
  (downTo place).foldl
    (fun t p => if (t.node? p).isSome then t else t.put p .directory) t

end FileTree

end ProviderRegistry
