import ProviderRegistry.Text.Inspect

/-!
Extension points. What identifies one is its type; two types may bear the same name, and the
resources that list providers are found by name only. A declaration may carry a default key, and
an empty one counts as none.
-/

namespace ProviderRegistry

structure PointDeclaration where
  key : String
  deriving DecidableEq, Repr

def PointDeclaration.defaultKey (d : PointDeclaration) : Option String :=
  if d.key = "" then none else some d.key

open Text in
def PointDeclaration.inspect (d : PointDeclaration) : String :=
  Inspect.record "ExtensionPointDeclaration" [("default_key", quoted d.key)] false

structure ExtensionPoint where
  typeId : Nat
  name : String
  typeName : String
  declaration : Option PointDeclaration
  deriving DecidableEq, Repr

namespace ExtensionPoint

/-- Whether both are the same extension point: the same type, whatever the names. -/
def sameAs (a b : ExtensionPoint) : Bool := a.typeId == b.typeId

/-- Only an interface can be implemented by providers that know nothing of each other. -/
def isInterface (p : ExtensionPoint) : Bool := "dyn ".toList.isPrefixOf p.typeName.toList

def defaultKey (p : ExtensionPoint) : Option String :=
  p.declaration.bind PointDeclaration.defaultKey

open Text in
def inspect (p : ExtensionPoint) : String :=
  Inspect.record "ExtensionPointId"
    [("name", quoted p.name), ("type_name", quoted p.typeName)] false

inductive Invalid
  | unnamed
  | notAnInterface
  | undeclared
  deriving DecidableEq, Repr

/-- The first reason that applies, in the order name, interface, declaration. -/
def invalid? (p : ExtensionPoint) : Option Invalid :=
  if p.name = "" then some .unnamed
  else if !p.isInterface then some .notAnInterface
  else if p.declaration.isNone then some .undeclared
  else none

def Invalid.message (p : ExtensionPoint) : Invalid → String
  | unnamed => "Extension point name of (" ++ p.typeName ++ ") must not be empty"
  | notAnInterface =>
    "(" ++ p.name ++ ") is not an interface: extension points must be trait objects"
  | undeclared =>
    "(" ++ p.name ++
      ") is not an extension point, because it carries no extension point declaration"

end ExtensionPoint

end ProviderRegistry
