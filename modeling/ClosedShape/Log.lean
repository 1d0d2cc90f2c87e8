import ClosedShape.Text
/-!
# Log records

What the library reports while it works, in order.
-/

namespace ClosedShape

inductive LogLevel where
  | debug
  | info
  | warning
  | error
deriving DecidableEq, Repr, Inhabited

namespace LogLevel

/-- Levels are ordered by their number. -/
def severity : LogLevel → Nat
  | .debug => 10
  | .info => 20
  | .warning => 30
  | .error => 40

def name : LogLevel → String
  | .debug => "debug"
  | .info => "info"
  | .warning => "warning"
  | .error => "error"

/-- What the library itself reports.  Being verbose wins over being quiet. -/
def ofFlags (verbose quiet : Bool) : LogLevel :=
  if verbose then .debug else if quiet then .error else .warning

/-- The name above those of all loggers of the library. -/
def ownLogger : String := "shapectl"

/-- The least level that a logger reports where the library itself reports `own`.  Others report
warnings and errors. -/
def threshold (own : LogLevel) (logger : String) : LogLevel :=
  if logger = ownLogger || (ownLogger ++ ".").toList.isPrefixOf logger.toList then own
  else .warning

/-- Whether a logger reports at a level. -/
def isEnabled (own : LogLevel) (logger : String) (level : LogLevel) : Bool :=
  (threshold own logger).severity ≤ level.severity

end LogLevel

structure LogRecord where
  level : LogLevel
  logger : String
  text : Text
deriving DecidableEq, Repr, Inhabited

/-- An operation that reports while it works and may fail with an `ε`.  What it reported before a
failure stays reported. -/
structure Logged (ε α : Type) where
  records : List LogRecord
  outcome : Except ε α

namespace Logged

variable {ε α β : Type}

protected def bind (first : Logged ε α) (next : α → Logged ε β) : Logged ε β :=
  match first.outcome with
  | .ok result => ⟨first.records ++ (next result).records, (next result).outcome⟩
  | .error failure => ⟨first.records, .error failure⟩

instance : Monad (Logged ε) where
  pure result := ⟨[], .ok result⟩
  bind := Logged.bind

def ofExcept (outcome : Except ε α) : Logged ε α := ⟨[], outcome⟩

def fail (failure : ε) : Logged ε α := ⟨[], .error failure⟩

def report (level : LogLevel) (logger : String) (text : Text) : Logged ε Unit :=
  ⟨[⟨level, logger, text⟩], .ok ()⟩

/-- Turns a failure into a result. -/
def attempt {δ : Type} (operation : Logged ε α) : Logged δ (Except ε α) :=
  ⟨operation.records, .ok operation.outcome⟩

/-- Renames the failure of an operation. -/
def mapError {δ : Type} (rename : ε → δ) (operation : Logged ε α) : Logged δ α :=
  ⟨operation.records, operation.outcome.mapError rename⟩

end Logged

end ClosedShape
