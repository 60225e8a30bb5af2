import ProviderRegistry.Event
import ProviderRegistry.Keyed
import ProviderRegistry.ProviderClass

/-!
The catalog of linked classes, found by qualified name. Of several classes with one name the
first is kept, and each later one that is not that very class is reported.
-/

namespace ProviderRegistry

/-- The classes by name, in the order of the names. -/
structure Catalog where
  table : List (String × ProviderClass)

namespace Catalog

def empty : Catalog := ⟨[]⟩

def resolve (k : Catalog) (name : String) : Option ProviderClass := Keyed.get? name k.table

def classes (k : Catalog) : List ProviderClass := k.table.map (·.2)

def size (k : Catalog) : Nat := k.table.length

def add (k : Catalog) (c : ProviderClass) : Catalog :=
  match k.resolve c.name with
  | some _ => k
  | none => ⟨Keyed.put c.name c k.table⟩

/-- What adding a class has to report: that another class already bears its name. -/
def addEvents (k : Catalog) (c : ProviderClass) : List Event :=
  match k.resolve c.name with
  | some kept => if kept.sameAs c then [] else [.duplicateClass c.name]
  | none => []

def ofClasses (cs : List ProviderClass) : Catalog := cs.foldl add empty

def eventsFrom (k : Catalog) : List ProviderClass → List Event
  | [] => []
  | c :: r => k.addEvents c ++ eventsFrom (k.add c) r

def eventsOf (cs : List ProviderClass) : List Event := eventsFrom empty cs

def inspect (k : Catalog) : String :=
  Text.Inspect.record "LinkedClassResolver"
    [("classes", Text.Inspect.list (k.table.map fun e => Text.quoted e.1))] false

end Catalog

end ProviderRegistry
