/-!
The arguments of the command line: a settings file, then one command and what it asks for. They
are read from the left, and the first thing wrong is what the caller hears of. Asking for help
ends the reading as a fault does. The value of the settings option is looked at only when the
next word that is not a value has been understood, so an unknown word is heard of before an empty
path.
-/

namespace ProviderRegistry

inductive Command
  | providers (json : Bool)
  | manifests (point : String)
  | validate (point : String)
  deriving DecidableEq, Repr

structure Invocation where
  settingsPath : Option String
  command : Command
  deriving DecidableEq, Repr

inductive UsageFault
  | help
  | version
  | nothingGiven
  | noCommand
  | unknownCommand
  | unknownArgument
  | noPoint
  | emptyValue
  | needlessValue
  | repeated
  deriving DecidableEq, Repr

/-- Asking for help or for the version is no failure. -/
def UsageFault.exitCode : UsageFault → Nat
  | help | version => 0
  | _ => 2

namespace CommandLine

/-- A word by its shape. A dash alone is plain. -/
inductive Word
  | endOfOptions
  | long (name : String) (value : Option String)
  | short (letter : Char) (rest : List Char)
  | plain (text : String)
  deriving DecidableEq, Repr

def Word.ofString (s : String) : Word :=
  match s.toList with
  | ['-', '-'] => endOfOptions
  | '-' :: '-' :: cs =>
    let name := cs.takeWhile (· ≠ '=')
    long (String.ofList name) ((cs.drop name.length).tail?.map String.ofList)
  | '-' :: c :: cs => short c cs
  | _ => plain s

inductive Switch
  | settings
  | help
  | version
  deriving DecidableEq, Repr

/-- The value attached to a letter; an equals sign before it is dropped. -/
def attached : List Char → Option String
  | [] => none
  | '=' :: cs => some (String.ofList cs)
  | cs => some (String.ofList cs)

def Word.switch? : Word → Option (Switch × Option String)
  | long "config" v => some (.settings, v)
  | long "help" v => some (.help, v)
  | long "version" v => some (.version, v)
  | short 'c' cs => some (.settings, attached cs)
  | short 'h' _ => some (.help, none)
  | short 'V' _ => some (.version, none)
  | _ => none

def Word.refusal : Word → UsageFault
  | long "help" (some _) => .needlessValue
  | long "help" none | short 'h' _ => .help
  | _ => .unknownArgument

def readProviders (json : Bool) : List String → Except UsageFault Command
  | [] => .ok (.providers json)
  | a :: r =>
    match Word.ofString a with
    | .endOfOptions => if r.isEmpty then .ok (.providers json) else .error .unknownArgument
    | .long "json" none => if json then .error .repeated else readProviders true r
    | .long "json" (some _) => .error .needlessValue
    | w => .error w.refusal

def onlyPoint : List String → Except UsageFault String
  | [] => .error .noPoint
  | [p] => .ok p
  | _ => .error .unknownArgument

def readPoint (found : List String) : List String → Except UsageFault String
  | [] => onlyPoint found
  | a :: r =>
    match Word.ofString a with
    | .endOfOptions => onlyPoint (found ++ r)
    | .plain p => if found.isEmpty then readPoint [p] r else .error .unknownArgument
    | w => .error w.refusal

def commandNames : List String := ["providers", "manifests", "validate", "help"]

/-- Whether help is there for a list of commands: no command has commands of its own. -/
def helpOn : List String → UsageFault
  | [] => .help
  | [name] => if name ∈ commandNames then .help else .unknownCommand
  | _ => .unknownCommand

def readCommand (name : String) (words : List String) : Except UsageFault Command :=
  if name = "providers" then readProviders false words
  else if name = "manifests" then (readPoint [] words).map .manifests
  else if name = "validate" then (readPoint [] words).map .validate
  else .error (helpOn words)

/-- The settings option as read so far: the path accepted, and an option that is still open,
its value being there already or yet to come. -/
structure SettingsOption where
  path : Option String
  pending : Option (Option String)
  deriving DecidableEq, Repr

namespace SettingsOption

def absent : SettingsOption := ⟨none, none⟩

def awaitsValue (o : SettingsOption) : Bool := o.pending == some none

def accept (o : SettingsOption) (value : String) : Except UsageFault SettingsOption :=
  if o.path.isSome then .error .repeated
  else if value = "" then .error .emptyValue
  else .ok ⟨some value, none⟩

def settle (o : SettingsOption) : Except UsageFault SettingsOption :=
  match o.pending with
  | none => .ok o
  | some none => .error .emptyValue
  | some (some value) => accept o value

end SettingsOption

def atEnd (o : SettingsOption) : UsageFault :=
  match o.settle with
  | .error f => f
  | .ok o => if o.path.isSome then .noCommand else .nothingGiven

def behindOptions (o : SettingsOption) : List String → UsageFault
  | [] => atEnd o
  | a :: _ => if a ∈ commandNames then .unknownArgument else .unknownCommand

def readSwitch (o : SettingsOption) : Switch × Option String → Except UsageFault SettingsOption
  | (.settings, none) => o.settle.map fun o => { o with pending := some none }
  | (.settings, some value) => o.settle.bind fun o => o.accept value
  | (_, some _) => .error .needlessValue
  | (.help, none) => o.settle.bind fun _ => .error .help
  | (.version, none) => o.settle.bind fun _ => .error .version

def readWords (o : SettingsOption) : List String → Except UsageFault Invocation
  | [] => .error (atEnd o)
  | a :: r =>
    if !o.awaitsValue && commandNames.contains a then
      (readCommand a r).bind fun c => o.settle.map fun o => ⟨o.path, c⟩
    else
      match Word.ofString a with
      | .endOfOptions => .error (behindOptions o r)
      | .plain value =>
        if o.awaitsValue then readWords { o with pending := some (some value) } r
        else .error .unknownCommand
      | w =>
        match w.switch? with
        | none => .error .unknownArgument
        | some s =>
          match readSwitch o s with
          | .error f => .error f
          | .ok o => readWords o r

end CommandLine

def Invocation.ofArguments (args : List String) : Except UsageFault Invocation :=
  CommandLine.readWords .absent args

end ProviderRegistry
