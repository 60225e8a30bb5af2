import ProviderRegistry.Text.Letter

/-!
Qualified names: identifiers with `::` between them. Reading goes from the left, where of three
colons the first two separate; the simple name is cut off from the right, where the last two do.
Both cuts agree on well-formed names, for those have colons in isolated pairs only.
-/

namespace ProviderRegistry.QualifiedName

/-- The stretches between pairs of colons, cut from the left. -/
def segments : List Char → List (List Char)
  | [] => [[]]
  | ':' :: ':' :: r => [] :: segments r
  | c :: r =>
    match segments r with
    | [] => [[c]]
    | s :: t => (c :: s) :: t

def isIdentifierStart (c : Char) : Bool := Text.isAlphabetic c || c == '_'

def isIdentifierPart (c : Char) : Bool := Text.isAlphanumeric c || c == '_'

def isIdentifier : List Char → Bool
  | [] => false
  | c :: r => isIdentifierStart c && r.all isIdentifierPart

def wellFormed (name : List Char) : Bool := (segments name).all isIdentifier

def beforePair : List Char → List Char
  | [] => []
  | ':' :: ':' :: _ => []
  | c :: r => c :: beforePair r

/-- The text after the rightmost pair of colons, the whole text if there is none. -/
def simpleName (name : String) : String :=
  String.ofList (beforePair name.toList.reverse).reverse

def resourceName (extensionPoint : String) : String := "extensions/" ++ extensionPoint

theorem segments_ne_nil (l : List Char) : segments l ≠ [] := by
  fun_induction segments l <;> simp

end ProviderRegistry.QualifiedName
