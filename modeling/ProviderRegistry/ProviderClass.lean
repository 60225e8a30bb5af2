import ProviderRegistry.ExtensionPoint
import ProviderRegistry.KeyClass
import ProviderRegistry.QualifiedName

/-!
Provider classes as they are linked into a program: a qualified name, the extension point
implemented, what the class declares about its key, and the factory that makes an instance. A
class that declares nothing is keyed by its simple name. Two classes may share a name; what tells
them apart is the number.
-/

namespace ProviderRegistry

structure KeyDeclaration where
  key : String
  keyClass : Option KeyClass

/-- How an instance is made. A factory may first look up another provider, whose fault is then
its own. -/
inductive Factory
  | makes
  | makesOther
  | fails (message : String) (times : Option Nat)
  | needs (point : ExtensionPoint) (key : Option String)

structure ProviderClass where
  id : Nat
  name : String
  point : ExtensionPoint
  declaration : Option KeyDeclaration
  factory : Factory

namespace ProviderClass

/-- Whether both are the same class, whatever the names. -/
def sameAs (a b : ProviderClass) : Bool := a.id == b.id

def simpleName (c : ProviderClass) : String := QualifiedName.simpleName c.name

/-- The key the class is indexed under: the declared one, else the simple name. -/
def key (c : ProviderClass) : String :=
  match c.declaration with
  | some d => d.key
  | none => c.simpleName

def keyClass (c : ProviderClass) : Option KeyClass := c.declaration.bind KeyDeclaration.keyClass

open Text in
def inspect (c : ProviderClass) : String :=
  let declared := c.declaration.map fun d =>
    Inspect.record "ProviderDeclaration"
      [("key", quoted d.key),
        ("key_class", Inspect.optional (d.keyClass.map KeyClass.inspect))] false
  Inspect.record "ProviderClass"
    [("name", quoted c.name), ("extension_point", quoted c.point.name),
      ("declaration", Inspect.optional declared)] true

end ProviderClass

end ProviderRegistry
