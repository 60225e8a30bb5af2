import ProviderRegistry.Scan

/-!
The key index of an extension point. Of several listed classes with one key the last is served,
and each listing that displaces another class is reported; of several keys for one key-class the
first stays. A lookup by key-class takes the first entry of the table whose key-class is wide
enough, even if a narrower one stands behind it.
-/

namespace ProviderRegistry

structure KeyIndex where
  classes : List (String × ProviderClass)
  keyClasses : List (KeyClass × String)

namespace KeyIndex

def empty : KeyIndex := ⟨[], []⟩

def get? (ix : KeyIndex) (key : String) : Option ProviderClass := Keyed.get? key ix.classes

def contains (ix : KeyIndex) (key : String) : Bool := (ix.get? key).isSome

def keys (ix : KeyIndex) : List String := Keyed.keys ix.classes

def size (ix : KeyIndex) : Nat := ix.classes.length

def isEmpty (ix : KeyIndex) : Bool := ix.classes.isEmpty

def hasKeyClass (ix : KeyIndex) (k : KeyClass) : Bool := ix.keyClasses.any fun e => e.1.sameAs k

/-- The key of the first registered key-class that is assignable from `q`. -/
def keyForClass (ix : KeyIndex) (q : KeyClass) : Option String :=
  (ix.keyClasses.find? fun e => e.1.isAssignableFrom q).map (·.2)

/-- The table with the key-class of a class, if it declares one that is not yet there. -/
def registerKeyClass (ix : KeyIndex) (c : ProviderClass) : List (KeyClass × String) :=
  match c.keyClass with
  | some k => if ix.hasKeyClass k then ix.keyClasses else ix.keyClasses ++ [(k, c.key)]
  | none => ix.keyClasses

def add (ix : KeyIndex) (c : ProviderClass) : KeyIndex :=
  ⟨Keyed.put c.key c ix.classes, ix.registerKeyClass c⟩

/-- What adding a listed class has to report: that it displaces another class. -/
def addEvents (point : String) (ix : KeyIndex) (d : Discovered) : List Event :=
  match ix.get? d.found.key with
  | some old =>
    if old.sameAs d.found then []
    else [.overridden point d.found.key old.name d.found.name d.origin d.line]
  | none => []

def ofClasses (cs : List ProviderClass) : KeyIndex := cs.foldl add empty

def build (ds : List Discovered) : KeyIndex := ofClasses (ds.map (·.found))

def eventsFrom (point : String) (ix : KeyIndex) : List Discovered → List Event
  | [] => []
  | d :: r => ix.addEvents point d ++ eventsFrom point (ix.add d.found) r

def buildEvents (point : String) (ds : List Discovered) : List Event :=
  eventsFrom point empty ds

end KeyIndex

end ProviderRegistry
