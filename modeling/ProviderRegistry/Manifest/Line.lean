import ProviderRegistry.QualifiedName
import ProviderRegistry.Text.Blank

/-!
One line of a manifest. A `#` starts a comment that runs to the end of the line; what is left
after it and the white space at both ends are removed is nothing or one qualified name. A space
or a tab inside is told apart from any other malformed name.
-/

namespace ProviderRegistry.Manifest

inductive LineFault
  | innerBlank (text : String)
  | notAName (text : String)
  deriving DecidableEq, Repr

def LineFault.message : LineFault → String
  | innerBlank text => "Illegal configuration-file syntax: " ++ text
  | notAName text => "Illegal provider class name: " ++ text

/-- What a line says once its comment and the white space at both ends are gone. -/
def content (line : List Char) : List Char :=
  Text.trim (line.takeWhile (· ≠ '#'))

def hasInnerBlank (text : List Char) : Bool := text.any fun c => c == ' ' || c == '\t'

/-- The class name a line lists, if it lists one. -/
def readLine (line : String) : Except LineFault (Option String) :=
  let t := content line.toList
  if t.isEmpty then .ok none
  else if hasInnerBlank t then .error (.innerBlank (String.ofList t))
  else if QualifiedName.wellFormed t then .ok (some (String.ofList t))
  else .error (.notAName (String.ofList t))

end ProviderRegistry.Manifest
