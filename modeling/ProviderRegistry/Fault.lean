import ProviderRegistry.Text.Inspect

/-!
Faults, the one form in which every failure of the registry reaches its caller. A fault has a
kind, a message and the chain of causes behind it, nearest first. Wrapping a fault in a context
puts the whole of it at the head of the new chain, so a cause is never lost, and the new message
ends with the text of the cause it wraps.
-/

namespace ProviderRegistry

inductive FaultKind
  | invalidArgument
  | configuration
  | state
  | io
  deriving DecidableEq, Repr

namespace FaultKind

def name : FaultKind → String
  | invalidArgument => "InvalidArgument"
  | configuration => "Configuration"
  | state => "State"
  | io => "Io"

/-- What stands before the colon when a fault of this kind is shown. -/
def label : FaultKind → String
  | invalidArgument => "Invalid argument"
  | configuration => "Configuration error"
  | state => "Illegal state"
  | io => "I/O error"

end FaultKind

/-- What kind of input or output failure a caller says it met. -/
inductive IoKind
  | notFound
  | permissionDenied
  | invalidData
  | other
  deriving DecidableEq, Repr

def IoKind.name : IoKind → String
  | notFound => "NotFound"
  | permissionDenied => "PermissionDenied"
  | invalidData => "InvalidData"
  | other => "Other"

inductive Cause
  | fault (kind : FaultKind) (message : String)
  | io (kind : IoKind) (message : String)
  | note (message : String)
  deriving DecidableEq, Repr

def Cause.shown : Cause → String
  | fault kind message => kind.label ++ ": " ++ message
  | io _ message => message
  | note message => message

structure Fault where
  kind : FaultKind
  message : String
  causes : List Cause
  deriving DecidableEq, Repr

namespace Fault

def invalidArgument (message : String) : Fault := ⟨.invalidArgument, message, []⟩

def configuration (message : String) : Fault := ⟨.configuration, message, []⟩

def state (message : String) : Fault := ⟨.state, message, []⟩

def io (message : String) : Fault := ⟨.io, message, []⟩

def asCause (f : Fault) : Cause := .fault f.kind f.message

def chain (f : Fault) : List Cause := f.asCause :: f.causes

def shown (f : Fault) : String := f.asCause.shown

/-- A fault of the given kind whose message is the context followed by the text of its cause. -/
def within (kind : FaultKind) (context : String) (cause : Cause) (rest : List Cause) : Fault :=
  ⟨kind, context ++ ": " ++ cause.shown, cause :: rest⟩

def ofIo (kind : IoKind) (message : String) : Fault := ⟨.io, message, [.io kind message]⟩

/-- A fault inside a context: the whole chain moves behind the new message. -/
def wrap (kind : FaultKind) (context : String) (f : Fault) : Fault :=
  within kind context f.asCause f.causes

theorem chain_wrap (kind : FaultKind) (context : String) (f : Fault) :
    (f.wrap kind context).causes = f.chain := rfl

def isInvalidArgument (f : Fault) : Bool := f.kind == .invalidArgument

def isConfiguration (f : Fault) : Bool := f.kind == .configuration

def isState (f : Fault) : Bool := f.kind == .state

end Fault

/-- The ways in which a caller adds a context to an error of any kind. -/
inductive ContextMethod
  | context
  | withContext
  | ioContext
  | configContext
  deriving DecidableEq, Repr

def ContextMethod.kind : ContextMethod → FaultKind
  | ioContext => .io
  | context | withContext | configContext => .configuration

def Fault.inContext (method : ContextMethod) (context : String) (cause : Cause) (rest : List Cause) : Fault :=
  .within method.kind context cause rest

open Text in
def Cause.inspect (source : Option String) : Cause → String
  | fault .invalidArgument message =>
    Inspect.record "InvalidArgument" [("message", quoted message)] false
  | fault kind message =>
    Inspect.record kind.name
      [("message", quoted message), ("source", Inspect.optional source)] false
  | io kind message =>
    Inspect.record "Custom" [("kind", kind.name), ("error", quoted message)] false
  | note message => quoted message

/-- The inspection form of a chain, each cause inside the one before it. -/
def inspectChain : List Cause → Option String
  | [] => none
  | c :: r => some (c.inspect (inspectChain r))

def Fault.inspect (f : Fault) : String := f.asCause.inspect (inspectChain f.causes)

end ProviderRegistry
