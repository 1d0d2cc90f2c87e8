import ClosedShape.Schema
import ClosedShape.Value.Kind
/-!
# Parsing with a schema

Parsing checks a value and returns it narrowed to the schema: arrays as new lists, objects as new
plain mappings with every declared field in the order of declaration, and every other value as it
is.  It stops at the first failure.
-/

namespace ClosedShape

/-- A call of a foreign schema. -/
structure Call where
  label : String
  argument : Value

/-- A run of the checker: the calls it made to foreign schemas, in order, and how it ended. -/
structure Run (α : Type) where
  calls : List Call
  outcome : Except Failure α

namespace Run

def ofOutcome {α : Type} (outcome : Except Failure α) : Run α := ⟨[], outcome⟩

/-- Nothing runs after a failure. -/
protected def bind {α β : Type} (run : Run α) (next : α → Run β) : Run β :=
  match run.outcome with
  | .ok result => ⟨run.calls ++ (next result).calls, (next result).outcome⟩
  | .error failure => ⟨run.calls, .error failure⟩

instance : Monad Run where
  pure result := ⟨[], .ok result⟩
  bind := Run.bind

def violate {α : Type} (violation : Violation) : Run α := ⟨[], .error (.invalid violation)⟩

/-- Wraps a violation in the field where it was found. -/
def inField {α : Type} (segment : Segment) (run : Run α) : Run α :=
  ⟨run.calls, run.outcome.mapError (Failure.inField segment)⟩

end Run

namespace Schema

/-- An optional schema answers `absent` itself, before any check. -/
def guardPresence (presence : Presence) (value : Value) (check : Run Value) : Run Value :=
  match presence, value with
  | .optional, .absent => pure .absent
  | _, _ => check

def typeMismatch (message : Text) (expected : String) (value : Value) : Violation :=
  .typeMismatch message expected value.kindName

def parseNumber (refinements : List Refinement) (value : Value) : Run Value :=
  if value.isNumber then .ofOutcome (Refinement.applyAll refinements value)
  else .violate (typeMismatch "Must be a number." "number" value)

def parseText (refinements : List Refinement) (value : Value) : Run Value :=
  match value with
  | .text _ => .ofOutcome (Refinement.applyAll refinements value)
  | _ => .violate (typeMismatch "Must be a string." "string" value)

def parseBoolean (value : Value) : Run Value :=
  match value with
  | .bool _ => pure value
  | _ => .violate (typeMismatch "Must be a boolean." "boolean" value)

def parseFunction (value : Value) : Run Value :=
  if value.isCallable then pure value
  else .violate (typeMismatch "Must be a function." "function" value)

/-- A value matches a literal if it is of the same kind and equal to it. -/
def parseLiteral (expected value : Value) : Run Value :=
  match expected.literalText with
  | .error fault => .ofOutcome (.error (.faulty fault))
  | .ok shown =>
      let message : Text := "Must be " ++ shown ++ "."
      if value.kindName ≠ expected.kindName then
        .violate (typeMismatch message expected.kindName value)
      else if value.equals expected then pure value
      else .violate (.literalMismatch message expected value)

/-- Parses the items of an array from a given position on. -/
def parseItems (parse : Value → Run Value) (position : Nat) : List Value → Run (List Value)
  | [] => pure []
  | item :: items => do
      let narrowed ← (parse item).inField (.index position)
      let others ← parseItems parse (position + 1) items
      return narrowed :: others

/-- Finds the first key that is not declared. -/
def rejectUndeclared (fields : List (Text × Schema)) (entries : List (Value × Value)) :
    Run Unit :=
  match entries.find? fun entry => !declares fields entry.1 with
  | none => pure ()
  | some (key, _) =>
      match Violation.ofUnexpectedKey key with
      | .ok violation => .violate violation
      | .error fault => .ofOutcome (.error (.faulty fault))

mutual

/-- Checks a value against a schema, noting the calls to foreign schemas. -/
def run : Schema → Value → Run Value
  | .number presence refinements, value =>
      guardPresence presence value (parseNumber refinements value)
  | .text presence refinements, value =>
      guardPresence presence value (parseText refinements value)
  | .boolean presence, value => guardPresence presence value (parseBoolean value)
  | .function presence, value => guardPresence presence value (parseFunction value)
  | .literal presence expected, value =>
      guardPresence presence value (parseLiteral expected value)
  | .array presence element refinements, value =>
      guardPresence presence value <|
        match value.arrayItems? with
        | none => .violate (typeMismatch "Must be an array." "array" value)
        | some items => do
            let narrowed ← parseItems (fun item => run element item) 0 items
            .ofOutcome (Refinement.applyAll refinements (.list narrowed))
  | .object presence fields, value =>
      guardPresence presence value <|
        match value.mappingEntries? with
        | none => .violate (typeMismatch "Must be an object." "object" value)
        | some entries => do
            rejectUndeclared fields entries
            let narrowed ← runFields fields entries
            return .object narrowed
  | .foreign label respond, value => ⟨[⟨label, value⟩], respond value⟩

/-- Checks the declared fields in order.  A field without an entry is checked as `absent`. -/
def runFields : List (Text × Schema) → List (Value × Value) → Run (List (Value × Value))
  | [], _ => pure []
  | (name, schema) :: fields, entries => do
      let narrowed ← (run schema (Value.lookupText entries name)).inField (.name name)
      let others ← runFields fields entries
      return (.text name, narrowed) :: others

end

/-- The narrowed value, or why there is none. -/
def parse (schema : Schema) (value : Value) : Except Failure Value := (schema.run value).outcome

/-- Whether a successful parse builds a new container for the value itself.  Everything else is
returned as it was given. -/
def rebuilds : Schema → Value → Bool
  | .array _ _ _, value | .object _ _, value => !value.isAbsent
  | _, _ => false

end Schema

end ClosedShape
