import ClosedShape.Schema
import ClosedShape.Value.Equality
import ClosedShape.Value.Kind
/-!
# Building schemas

Schemas are built from what a caller hands over, which need not be a schema at all.  Building fails
on the first argument that does not fit.
-/

namespace ClosedShape

/-- What can stand where a schema is expected. -/
inductive Entity where
  | ofSchema (schema : Schema)
  | ofValue (value : Value)
  /-- An object whose parse member cannot be called. -/
  | brokenParser

namespace Entity

instance : Inhabited Entity := ⟨.brokenParser⟩

def typeName : Entity → String
  | .ofSchema schema => schema.className
  | .ofValue value => value.typeName
  | .brokenParser => "BadParse"

/-- The schema that an entity is, foreign ones included. -/
def schema? : Entity → Option Schema
  | .ofSchema schema => some schema
  | _ => none

/-- The schema that is asked to parse.  What has no way to parse fails when it is asked. -/
def parser : Entity → Except Fault Schema
  | .ofSchema schema => .ok schema
  | .ofValue value => .error (.noMember value.typeName "parse")
  | .brokenParser => .error (.notCallable "int")

/-- One call in a chain that builds a schema. -/
inductive Link where
  /-- A member that is called without arguments. -/
  | member (name : String)
  | refine (refinement : Refinement)

def Link.memberName : Link → String
  | .member name => name
  | .refine _ => "_refine"

/-- The schema after one call.  Only members of its own variant can be called. -/
def Link.applyTo : Link → Schema → Option Schema
  | .member "optional", schema => schema.optional?
  | .member "positive", schema => schema.positive?
  | .member "non_empty", schema => schema.nonEmpty?
  | .member _, _ => none
  | .refine refinement, schema => schema.refine? refinement

def call (entity : Entity) (link : Link) : Except Fault Entity :=
  match entity.schema?.bind link.applyTo with
  | some schema => .ok (.ofSchema schema)
  | none => .error (.noMember entity.typeName link.memberName)

/-- Schemas are frozen: assigning to a field of their variant fails, and any other assignment
leaves the schema as it is. -/
def assign (entity : Entity) (member : String) : Except Fault Unit :=
  if (entity.schema?.map Schema.fieldNames).getD [] |>.contains member then
    .error (.frozenMember member)
  else .ok ()

/-- The fields of an object schema are read-only. -/
def assignField : Entity → Fault
  | .ofSchema (.object _ _) => .notAssignable "mappingproxy"
  | entity => .noMember entity.typeName "fields"

end Entity

namespace Schema

/-- The kinds of values that a literal can be, by name. -/
def literalKinds : List String :=
  [Kind.text.name, Kind.number.name, Kind.null.name, Kind.absent.name]

def literal? (expected : Value) : Except Fault Schema :=
  if literalKinds.contains expected.kindName then .ok (.literal .required expected)
  else .error (.literalNotAdmitted expected.typeName)

def array? (element : Entity) : Except Fault Schema :=
  match element.schema? with
  | some schema => .ok (.array .required schema [])
  | none => .error (.elementNotSchema element.typeName)

/-- The fields of an object schema, checked in order. -/
def objectFields? : List (Value × Entity) → Except Fault (List (Text × Schema))
  | [] => .ok []
  | (.text name, entity) :: rest =>
      match entity.schema? with
      | some schema => return (name, schema) :: (← objectFields? rest)
      | none => .error (.fieldNotSchema (Text.quoted name))
  | (key, _) :: _ => do throw (.fieldNameNotText (← key.source))

def object? (fields : List (Value × Entity)) : Except Fault Schema :=
  return .object .required (← objectFields? fields)

/-- An object schema from a single value: a mapping of its fields, or `null` for no fields. -/
def objectOfValue? : Value → Except Fault Schema
  | .null => .ok (.object .required [])
  | .mapping _ entries => object? (entries.map fun entry => (entry.1, .ofValue entry.2))
  | value => .error (.fieldsNotMapping value.typeName)

end Schema

end ClosedShape
