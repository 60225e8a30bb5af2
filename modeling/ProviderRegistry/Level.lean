import ProviderRegistry.Fault

/-!
Levels of severity. The words for them are read without regard to the case of ASCII letters; no
other character lowers to a letter of these words.
-/

namespace ProviderRegistry

inductive Level
  | trace
  | debug
  | info
  | warn
  | error
  deriving DecidableEq, Repr

namespace Level

def name : Level → String
  | trace => "TRACE"
  | debug => "DEBUG"
  | info => "INFO"
  | warn => "WARN"
  | error => "ERROR"

def severity : Level → Nat
  | trace => 0
  | debug => 1
  | info => 2
  | warn => 3
  | error => 4

/-- The level a word stands for, whatever the case of its letters. -/
def parse (word : String) : Except Fault Level :=
  let lower := word.map Char.toLower
  if lower = "trace" then .ok trace
  else if lower = "debug" then .ok debug
  else if lower = "info" then .ok info
  else if lower = "warn" ∨ lower = "warning" then .ok warn
  else if lower = "error" then .ok error
  else .error (.configuration ("Invalid log level: " ++ word ++
    ". Use trace, debug, info, warn, or error"))

end Level

end ProviderRegistry
