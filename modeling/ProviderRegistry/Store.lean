import ProviderRegistry.Registry

/-!
The state of a program that uses loaders: the loaders, every registry built so far, every
instance made so far in the order they were completed, and every factory run that was started. A
loader keeps one holder for each extension point it was ever asked for, told apart by type. The
first build that succeeds fills the holder for good; a build that fails leaves it empty, so that
the next request builds again. The first loader is the home loader, the one that factories look
up their needs in.
-/

namespace ProviderRegistry

abbrev LoaderId := Nat
abbrev RegistryId := Nat

structure Loader where
  locator : Locator
  catalog : Catalog
  holders : List (Nat × Holder RegistryId)
  distinct : (holders.map (·.1)).Nodup

namespace Loader

def new (locator : Locator) (catalog : Catalog) : Loader := ⟨locator, catalog, [], by simp⟩

def built? (l : Loader) (typeId : Nat) : Option RegistryId :=
  (l.holders.lookup typeId).bind (·.value)

/-- How many registries were built; a holder that is still empty does not count. -/
def size (l : Loader) : Nat := l.holders.countP (·.2.isInitialized)

/-- The loader with one more holder under the type, in place of any that stood there. -/
def put (l : Loader) (typeId : Nat) (h : Holder RegistryId) : Loader :=
  { l with
    holders := (typeId, h) :: l.holders.filter fun e => e.1 != typeId
    distinct := by
      have : ((l.holders.filter fun e => e.1 != typeId).map (·.1)).Nodup :=
        l.distinct.sublist ((List.filter_sublist).map _)
      simpa using this }

/-- The loader with a holder for the type, an empty one if there was none. -/
def touch (l : Loader) (typeId : Nat) : Loader :=
  match l.holders.lookup typeId with
  | some _ => l
  | none => l.put typeId .empty

def fill (l : Loader) (typeId : Nat) (r : RegistryId) : Loader := l.put typeId ⟨some r⟩

def inspect (l : Loader) : String :=
  Text.Inspect.record "Loader" [("registries", toString l.size)] true

end Loader

/-- A factory run that was started, and the registry and key it was started for. -/
structure FactoryRun where
  registry : RegistryId
  key : String
  provider : ProviderClass

structure Store where
  files : FileTree
  loaders : List Loader
  registries : List Registry
  instances : List ProviderClass
  runs : List FactoryRun
  global : Option LoaderId

/-- A result with the state after it and what was reported on the way. -/
structure Reply (α : Type) where
  store : Store
  events : List Event
  result : α

inductive BuildFault
  | noLoader
  | invalid (point : ExtensionPoint) (reason : ExtensionPoint.Invalid)
  | scan (point : String) (fault : ScanFault)
  | otherType (point : ExtensionPoint)
  deriving DecidableEq, Repr

def BuildFault.fault : BuildFault → Fault
  | noLoader => .invalidArgument "There is no such loader"
  | invalid point reason => .invalidArgument (reason.message point)
  | scan point f => f.fault point
  | otherType point => .state (point.name ++ ": Cached registry has an unexpected type")

namespace Store

/-- The loader that factories look up their needs in. -/
def home : LoaderId := 0

def empty (files : FileTree) : Store := ⟨files, [], [], [], [], none⟩

def addLoader (s : Store) (l : Loader) : Store × LoaderId :=
  ({ s with loaders := s.loaders ++ [l] }, s.loaders.length)

def modifyLoader (s : Store) (l : LoaderId) (f : Loader → Loader) : Store :=
  { s with loaders := s.loaders.modify l f }

def setLocator (s : Store) (l : LoaderId) (locator : Locator) : Store :=
  s.modifyLoader l fun x => { x with locator := locator }

def addRegistry (s : Store) (r : Registry) : Store × RegistryId :=
  ({ s with registries := s.registries ++ [r] }, s.registries.length)

def runsOf (s : Store) (c : ProviderClass) : Nat := s.runs.countP fun x => x.provider.sameAs c

/-- A new registry that no loader keeps. -/
def detachedRegistry (s : Store) (l : LoaderId) (point : ExtensionPoint) :
    Reply (Except BuildFault RegistryId) :=
  match s.loaders[l]? with
  | none => ⟨s, [], .error .noLoader⟩
  | some loader =>
    let b := Registry.build s.files point loader.locator loader.catalog
    let s := s.setLocator l b.next
    match b.result with
    | .error f => ⟨s, b.events, .error (.scan point.name f)⟩
    | .ok r => ⟨(s.addRegistry r).1, b.events, .ok (s.addRegistry r).2⟩

/-- What a holder holds, taken as a registry of the extension point. -/
def typed (s : Store) (point : ExtensionPoint) (r : RegistryId) : Except BuildFault RegistryId :=
  if s.registries[r]?.any fun reg => reg.point.sameAs point then .ok r
  else .error (.otherType point)

/-- The registry of an extension point, built on the first request that succeeds. -/
def registry (s : Store) (l : LoaderId) (point : ExtensionPoint) :
    Reply (Except BuildFault RegistryId) :=
  match point.invalid? with
  | some reason => ⟨s, [], .error (.invalid point reason)⟩
  | none =>
    match s.loaders[l]? with
    | none => ⟨s, [], .error .noLoader⟩
    | some loader =>
      match loader.built? point.typeId with
      | some r => ⟨s, [], s.typed point r⟩
      | none =>
        let b := (s.modifyLoader l (·.touch point.typeId)).detachedRegistry l point
        let events := .building point.name :: b.events
        match b.result with
        | .error f => ⟨b.store, events ++ [.buildFailed point.name f.fault], .error f⟩
        | .ok r =>
          let s := b.store.modifyLoader l (·.fill point.typeId r)
          ⟨s, events, s.typed point r⟩

end Store

end ProviderRegistry
