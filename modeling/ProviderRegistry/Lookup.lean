import ProviderRegistry.Store

/-!
Looking up a provider. The key is settled first, then a cached instance is returned; only then is
the index asked for the class and its factory run. An instance is kept for good; a factory that
fails leaves its key without one, so that the next lookup runs it again. A factory may look up
another provider on the home loader before it finishes, and what it needs may need more.

A lookup for a key whose own factory is still running would wait for that factory, and so for itself:
it never returns, nor does any lookup around it. Lookups are functions here, so they have a reply there
too, `LookupFault.unending`. It is not a reply that anybody gets: it stands for a call that does not
return, and so does a reply that wraps it. Which lookups finish is told without it, by `Store.Finishes`,
and they are those that do not come to it. That is also why the nesting can be bounded: the running
factories but the first are for different keys of the home loader, and these are no more than its
catalog has classes.
-/

namespace ProviderRegistry

/-- Why a lookup came to nothing. -/
inductive LookupFault
  | noRegistry
  | noKey (point : String)
  | unknownKey (point key : String)
  | failed (point key message : String)
  | otherType (point key className : String)
  | needUnbuilt (point key : String) (fault : BuildFault)
  | needMissed (point key : String) (fault : LookupFault)
  /-- No fault at all: the lookup does not return. -/
  | unending (point key : String)
  deriving DecidableEq, Repr

namespace LookupFault

def notMade (point key : String) : String :=
  "Provider instance (key: " ++ key ++ ", extension point: " ++ point ++
    ") couldn't be instantiated"

/-- What the caller is told. Nobody is told of a lookup that does not return, so nothing stands there. -/
def fault : LookupFault → Fault
  | noRegistry => .invalidArgument "There is no such registry"
  | noKey point =>
    .invalidArgument (point ++ ": Provider key and default provider key are both empty")
  | unknownKey point key =>
    .configuration (point ++ ": Can not find provider class keyed by " ++ key)
  | failed point key message => .within .state (notMade point key) (.note message) []
  | otherType point key className =>
    .state (notMade point key ++ ": factory of " ++ className ++
      " returned a value of another type")
  | needUnbuilt point key f => f.fault.wrap .state (notMade point key)
  | needMissed point key f => f.fault.wrap .state (notMade point key)
  | unending _ _ => .state ""

end LookupFault

/-- Why a factory made nothing; the point and the key are those it ran for. -/
inductive NeedFault
  | unbuilt (fault : BuildFault)
  | missed (fault : LookupFault)

def NeedFault.lookupFault (point key : String) : NeedFault → LookupFault
  | unbuilt f => .needUnbuilt point key f
  | missed f => .needMissed point key f

namespace Store

/-- A factory run has started: it is counted, and its key has a holder from now on. -/
def start (s : Store) (r : RegistryId) (key : String) (c : ProviderClass) : Store :=
  { s with
    registries := s.registries.modify r (·.touch key)
    runs := s.runs ++ [⟨r, key, c⟩] }

/-- A factory run has made an instance, which the holder of its key keeps. -/
def finish (s : Store) (r : RegistryId) (key : String) (c : ProviderClass) :
    Reply (Except LookupFault InstanceId) :=
  ⟨{ s with
      registries := s.registries.modify r (·.fill key s.instances.length)
      instances := s.instances ++ [c] },
    [], .ok s.instances.length⟩

/-- Whether the run of a factory that fails for a number of times is still one of those. -/
def stillFails (s : Store) (c : ProviderClass) : Option Nat → Bool
  | none => true
  | some n => s.runsOf c ≤ n

/-- A lookup of what a factory needs. -/
abbrev Need := Store → ExtensionPoint → Option String → Reply (Except NeedFault InstanceId)

/-- One run of the factory of the class indexed under a key. -/
def runFactory (need : Need) (s : Store) (r : RegistryId) (point key : String)
    (c : ProviderClass) : Reply (Except LookupFault InstanceId) :=
  let s := s.start r key c
  match c.factory with
  | .makes => s.finish r key c
  | .makesOther => ⟨s, [], .error (.otherType point key c.name)⟩
  | .fails message times =>
    if s.stillFails c times then ⟨s, [], .error (.failed point key message)⟩
    else s.finish r key c
  | .needs p k =>
    let n := need s p k
    match n.result with
    | .error f => ⟨n.store, n.events, .error (f.lookupFault point key)⟩
    | .ok _ =>
      let done := n.store.finish r key c
      ⟨done.store, n.events ++ done.events, done.result⟩

/-- The keys whose factories are running, the innermost first. -/
abbrev Pending := List (RegistryId × String)

/-- What a lookup comes to before any factory runs for it. -/
inductive Settled
  | refused (fault : LookupFault)
  | cached (i : InstanceId)
  | due (point key : String) (c : ProviderClass)

/-- The key is settled first, then a cached instance is found, then the class under the key. If its
factory is running already, the lookup waits for itself and does not return. -/
def settle (s : Store) (pending : Pending) (r : RegistryId) (key : Option String) : Settled :=
  match s.registries[r]? with
  | none => .refused .noRegistry
  | some reg =>
    match reg.effectiveKey key with
    | none => .refused (.noKey reg.point.name)
    | some k =>
      match reg.instance? k with
      | some i => .cached i
      | none =>
        match reg.index.get? k with
        | none => .refused (.unknownKey reg.point.name k)
        | some c =>
          if pending.contains (r, k) then .refused (.unending reg.point.name k)
          else .due reg.point.name k c

/-- A lookup that runs factories with the given way to look up their needs. -/
def lookupWith (need : Pending → Need) (pending : Pending) (s : Store) (r : RegistryId)
    (key : Option String) : Reply (Except LookupFault InstanceId) :=
  match s.settle pending r key with
  | .refused f => ⟨s, [], .error f⟩
  | .cached i => ⟨s, [], .ok i⟩
  | .due point k c =>
    let made := runFactory (need ((r, k) :: pending)) s r point k c
    ⟨made.store, .instantiating point k c.name :: made.events, made.result⟩

/-- What a factory needs: the registry from the home loader, then the provider from it. -/
def needWith (lookup : Pending → Store → RegistryId → Option String →
    Reply (Except LookupFault InstanceId)) (pending : Pending) : Need := fun s point key =>
  let b := s.registry home point
  match b.result with
  | .error f => ⟨b.store, b.events, .error (.unbuilt f)⟩
  | .ok r =>
    let a := lookup pending b.store r key
    ⟨a.store, b.events ++ a.events, a.result.mapError .missed⟩

def pointName (s : Store) (r : RegistryId) : String :=
  (s.registries[r]?.map fun reg => reg.point.name).getD ""

/-- A lookup that nests at most as many others as the first argument says. One that would nest more is
taken not to return; none that a program makes is cut short so. -/
def lookupFuel : Nat → Pending → Store → RegistryId → Option String →
    Reply (Except LookupFault InstanceId)
  | 0 => fun _ s r key => ⟨s, [], .error (.unending (s.pointName r) (key.getD ""))⟩
  | n + 1 => lookupWith (needWith (lookupFuel n))

/-- How deep lookups can be nested: the keys of the home loader, the first lookup, and the one
that waits for itself. -/
def depthBound (s : Store) : Nat :=
  (s.loaders[home]?.map fun l => l.catalog.size).getD 0 + 2

/-- The provider for a key, or for the default key when there is none or an empty one. -/
def provider (s : Store) (r : RegistryId) (key : Option String) :
    Reply (Except LookupFault InstanceId) :=
  lookupFuel s.depthBound [] s r key

def keyForClass (s : Store) (r : RegistryId) (q : KeyClass) : Option String :=
  s.registries[r]?.bind fun reg => reg.index.keyForClass q

/-- The provider of the first key-class that is assignable from `q`, else the default one. -/
def providerByKeyClass (s : Store) (r : RegistryId) (q : KeyClass) :
    Reply (Except LookupFault InstanceId) :=
  s.provider r (s.keyForClass r q)

/-- A lookup that reports its fault instead of returning it. -/
def optionally (s : Store) (r : RegistryId) (a : Reply (Except LookupFault InstanceId)) :
    Reply (Option InstanceId) :=
  match a.result with
  | .ok i => ⟨a.store, a.events, some i⟩
  | .error f =>
    ⟨a.store, a.events ++ [.lookupFailed (s.pointName r) f.fault], none⟩

def optionalProvider (s : Store) (r : RegistryId) (key : Option String) :
    Reply (Option InstanceId) :=
  s.optionally r (s.provider r key)

def optionalProviderByKeyClass (s : Store) (r : RegistryId) (q : KeyClass) :
    Reply (Option InstanceId) :=
  s.optionally r (s.providerByKeyClass r q)

end Store

end ProviderRegistry
