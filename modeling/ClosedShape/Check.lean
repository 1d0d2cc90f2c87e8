import ClosedShape.Check.Result
import ClosedShape.Log
import ClosedShape.Schema.Construction
import ClosedShape.Schema.Parse
/-!
# Checking configuration

Checks report violations as results, so that one bad section never keeps the others from being
checked.  Only faults escape them.
-/

namespace ClosedShape

namespace Entity

/-- What cannot parse checks like a foreign schema that fails for every value. -/
def asSchema (entity : Entity) : Schema :=
  match entity.parser with
  | .ok schema => schema
  | .error fault => .foreign entity.typeName fun _ => .error (.faulty fault)

end Entity

namespace Check

def logger : String := "shapectl.services.check"

/-- Checks one value.  The usage lines go into the result of a failed check. -/
def config (name : Text) (schema : Schema) (value : Value) (expected : List Text) :
    Logged Fault CheckResult :=
  match schema.parse value with
  | .ok narrowed => do
      .report .debug logger ("Config for " ++ name ++ " is valid")
      return .success name narrowed
  | .error (.invalid violation) => do
      .report .info logger ("Invalid config for " ++ name ++ ": " ++ violation.text)
      return { CheckResult.failure name (.ofViolation violation) with expected }
  | .error (.faulty fault) => .fail fault

/-- The result for a problem found before any schema was applied. -/
def documentFailure {ε : Type} (name code message : Text) : Logged ε CheckResult := do
  .report .info logger ("Cannot check " ++ name ++ ": " ++ message)
  return .failure name ⟨code, message, []⟩

/-- Results by section name, in order. -/
abbrev Sections := List (Text × CheckResult)

/-- Sets what is under a name.  A name that is there already keeps its place. -/
def insertNamed {α : Type} (entries : List (Text × α)) (name : Text) (content : α) :
    List (Text × α) :=
  match entries with
  | [] => [(name, content)]
  | (other, old) :: rest =>
      if other = name then (other, content) :: rest
      else (other, old) :: insertNamed rest name content

/-- Checks every declared section against its entry in the document. -/
def declaredSections (entries : List (Value × Value)) :
    List (Text × Schema) → Logged Fault Sections
  | [] => pure []
  | (name, schema) :: rest => do
      let result ← config name schema (Value.lookupText entries name) []
      let others ← declaredSections entries rest
      return (name, result) :: others

/-- The label of an undeclared key.  Keys that are not texts are bracketed. -/
def keyLabel : Value → Except Fault Text
  | .text name => .ok name
  | key => return "[" ++ Text.ofString (← key.source) ++ "]"

/-- Adds a failed result for every key of the document that no section declares. -/
def undeclaredSections (schemas : List (Text × Schema)) :
    List (Value × Value) → Sections → Logged Fault Sections
  | [], sections => pure sections
  | (key, _) :: rest, sections =>
      if Schema.declares schemas key then undeclaredSections schemas rest sections
      else do
        let label ← .ofExcept (keyLabel key)
        let violation ← .ofExcept (Violation.ofUnexpectedKey key)
        .report .info logger ("Unexpected section: " ++ label)
        undeclaredSections schemas rest
          (insertNamed sections label (.failure label (.ofViolation violation)))

/-- The label of the document itself where it has no sections. -/
def wholeDocument : Text := "<document>"

/-- Checks each top-level section of a document on its own.  A section that the document leaves out
is checked as `absent`, and a section that no schema declares is a failure. -/
def sections (document : Value) (schemas : List (Text × Schema)) : Logged Fault Sections :=
  match document.mappingEntries? with
  | none => do
      let message : Text := "Must be an object, got " ++ document.kindName ++ "."
      let failure ← documentFailure wholeDocument "TYPE_MISMATCH" message
      return [(wholeDocument, failure)]
  | some entries => do
      let declared ← declaredSections entries schemas
      undeclaredSections schemas entries declared

/-- Builds from the narrowed value, or hands the failed result to a fallback. -/
def orFallback {α : Type} (name : Text) (schema : Schema) (value : Value)
    (expected : List Text) (build : Value → α) (fallback : CheckResult → α) :
    Logged Fault α := do
  let result ← config name schema value expected
  return if result.ok then build result.value else fallback result

end Check

end ClosedShape
