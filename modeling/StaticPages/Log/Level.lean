namespace StaticPages.Log

/-- How much is logged, or how severe an entry is. -/
inductive Level where
  | off
  | error
  | warn
  | info
  | debug
  deriving DecidableEq, Repr

namespace Level

def all : List Level := [off, error, warn, info, debug]

def name : Level → String
  | off => "off"
  | error => "error"
  | warn => "warn"
  | info => "info"
  | debug => "debug"

def ofName? (name : String) : Option Level :=
  all.find? fun level => level.name == name

/-- The place of a level in the order of detail. -/
def rank : Level → Nat
  | off => 0
  | error => 1
  | warn => 2
  | info => 3
  | debug => 4

end Level

end StaticPages.Log
