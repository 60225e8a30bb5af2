import ProviderRegistry.Text.Lines

/-!
Paths as texts: segments between slashes, the joining of one more segment, and the file a
resource name stands for below a search path. A name with a segment `.` or `..` stands for
nothing, so a candidate never leaves the search path. Two texts are the same path when they have
the same steps.
-/

namespace ProviderRegistry.Path

def segments (p : String) : List String :=
  ((Text.segments '/' p.toList).map fun s => String.ofList s.1).filter (· ≠ "")

def isAbsolute (p : String) : Bool := p.toList.head? == some '/'

def endsInSlash (p : String) : Bool := p.toList.getLast? == some '/'

def join (p segment : String) : String :=
  if p = "" then segment
  else if endsInSlash p then p ++ segment
  else p ++ "/" ++ segment

/-- Whether a path starts at the root, and its steps. The step `.` leads nowhere and counts only at
the start of a path that does not start at the root. -/
def steps (p : String) : Bool × List String :=
  match isAbsolute p, segments p with
  | false, "." :: r => (false, "." :: r.filter (· ≠ "."))
  | absolute, ss => (absolute, ss.filter (· ≠ "."))

def isRelativeStep (segment : String) : Bool := segment == "." || segment == ".."

/-- The file that a resource name stands for below a search path. -/
def candidate (root name : String) : Option String :=
  let parts := segments name
  if parts.any isRelativeStep then none else some (parts.foldl join root)

/-- The path, reversed, without the slashes and the steps `.` at its end. -/
def bareEnd : List Char → List Char
  | '/' :: r => if r.isEmpty then ['/'] else bareEnd r
  | '.' :: '/' :: r => if r.isEmpty then ['/'] else bareEnd r
  | cs => cs

def lastSegment (p : String) : String :=
  String.ofList ((bareEnd p.toList.reverse).takeWhile (· ≠ '/')).reverse

/-- The path without its last segment; the empty path and a root have none to lose. -/
def parent? (p : String) : Option String :=
  if lastSegment p = "" then none
  else
    some (String.ofList
      (bareEnd ((bareEnd p.toList.reverse).dropWhile (· ≠ '/'))).reverse)

def fileName? (p : String) : Option String :=
  let last := lastSegment p
  if last = "" || isRelativeStep last then none else some last

def ofPlace (place : List String) : String := "/" ++ String.intercalate "/" place

def commonSteps : List String → List String → Nat
  | a :: l, b :: r => if a = b then commonSteps l r + 1 else 0
  | _, _ => 0

/-- An absolute path as it is reached from a place, where that is shorter. -/
def shownFrom (place : List String) (p : String) : String :=
  let parts := (segments p).filter (· ≠ ".")
  let shared := commonSteps place parts
  let steps := List.replicate (place.length - shared) ".." ++ parts.drop shared
  if steps.length < parts.length + 1 then String.intercalate "/" steps else p

end ProviderRegistry.Path
