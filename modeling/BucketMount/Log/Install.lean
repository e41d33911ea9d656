import BucketMount.Log.Filter

/-!
# Installing a logger

A process has at most one logger, which stays once it is installed.
-/

namespace BucketMount.Log

/-- A style and a filter. -/
structure Logger where
  style : Style
  filter : Filter
  deriving DecidableEq, Repr

namespace Logger

/-- What a logger writes of events. -/
def write (logger : Logger) (events : List Event) : List Entry :=
  written logger.style logger.filter events

end Logger

/-- Why a logger could not be installed. -/
inductive InstallFault where
  | alreadyInstalled
  deriving DecidableEq, Repr

/-- The wording of a fault. -/
def InstallFault.message : InstallFault → String
  | .alreadyInstalled => "failed to initialize tracing subscriber: " ++
    "a global default trace dispatcher has already been set"

/-- Installs a logger in a process, given the one that it has. -/
def install (present : Option Logger) (logger : Logger) : Except InstallFault Logger :=
  match present with
  | some _ => .error .alreadyInstalled
  | none => .ok logger

end BucketMount.Log
