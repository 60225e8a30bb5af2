import ProviderRegistry.Lookup

/-!
Runs of a program over its loaders and registries: requests, what each of them came to, and the
state after any number of them.
-/

namespace ProviderRegistry

inductive Request
  | addLoader (locator : Locator) (catalog : Catalog)
  | registry (loader : LoaderId) (point : ExtensionPoint)
  | detachedRegistry (loader : LoaderId) (point : ExtensionPoint)
  | provider (registry : RegistryId) (key : Option String)
  | providerOrDefault (registry : RegistryId)
  | providerByKeyClass (registry : RegistryId) (keyClass : KeyClass)
  | optionalProvider (registry : RegistryId) (key : Option String)
  | optionalProviderByKeyClass (registry : RegistryId) (keyClass : KeyClass)

inductive Outcome
  | loader (id : LoaderId)
  | registry (result : Except BuildFault RegistryId)
  | provider (result : Except LookupFault InstanceId)
  | optional (result : Option InstanceId)

namespace Reply

variable {α β : Type}

def map (f : α → β) (a : Reply α) : Reply β := ⟨a.store, a.events, f a.result⟩

end Reply

namespace Store

def step (s : Store) : Request → Reply Outcome
  | .addLoader locator catalog =>
    ⟨(s.addLoader (.new locator catalog)).1, [], .loader (s.addLoader (.new locator catalog)).2⟩
  | .registry l point => (s.registry l point).map .registry
  | .detachedRegistry l point => (s.detachedRegistry l point).map .registry
  | .provider r key => (s.provider r key).map .provider
  | .providerOrDefault r => (s.provider r none).map .provider
  | .providerByKeyClass r q => (s.providerByKeyClass r q).map .provider
  | .optionalProvider r key => (s.optionalProvider r key).map .optional
  | .optionalProviderByKeyClass r q => (s.optionalProviderByKeyClass r q).map .optional

/-- What the requests of a run come to, one after the other. -/
def replies (s : Store) : List Request → List (Reply Outcome)
  | [] => []
  | q :: r => s.step q :: replies (s.step q).store r

def after (s : Store) (qs : List Request) : Store := qs.foldl (fun s q => (s.step q).store) s

end Store

end ProviderRegistry
