import ClosedShape.Refinement
/-!
# Schemas

A schema describes the values of one shape.  Schemas are plain data: refining one or making it
optional gives a new schema.
-/

namespace ClosedShape

/-- Whether a value may be absent. -/
inductive Presence where
  | required
  | optional
deriving DecidableEq, Repr, Inhabited

/-- The shape of a value.  The field names of an object are distinct, see `NamedSchemas`. -/
inductive Schema where
  | number (presence : Presence) (refinements : List Refinement)
  | text (presence : Presence) (refinements : List Refinement)
  | boolean (presence : Presence)
  | function (presence : Presence)
  | literal (presence : Presence) (expected : Value)
  | array (presence : Presence) (element : Schema) (refinements : List Refinement)
  | object (presence : Presence) (fields : List (Text × Schema))
  /-- A schema that is not of this library: all that is known of it is how it responds. -/
  | foreign (label : String) (respond : Value → Except Failure Value)

/-- Schemas under names of their own, as the fields of an object and the sections of a document
have. -/
structure NamedSchemas where
  list : List (Text × Schema)
  distinct : (list.map Prod.fst).Nodup

namespace Schema

instance : Inhabited Schema := ⟨.boolean .required⟩

private def variantName (presence : Presence) (name : String) : String :=
  match presence with
  | .required => name
  | .optional => "Optional" ++ name

/-- The name of a schema's variant. -/
def className : Schema → String
  | .number presence _ => variantName presence "NumberValidator"
  | .text presence _ => variantName presence "StringValidator"
  | .boolean presence => variantName presence "BooleanValidator"
  | .function presence => variantName presence "FunctionValidator"
  | .literal presence _ => variantName presence "LiteralValidator"
  | .array presence _ _ => variantName presence "ArrayValidator"
  | .object presence _ => variantName presence "ObjectValidator"
  | .foreign _ _ => "Duck"

def isForeign : Schema → Bool
  | .foreign _ _ => true
  | _ => false

/-- The refinements of a schema that can carry them. -/
def refinements? : Schema → Option (List Refinement)
  | .number _ refinements | .text _ refinements | .array _ _ refinements => some refinements
  | _ => none

/-- The names of what a schema consists of. -/
def fieldNames : Schema → List String
  | .number _ _ | .text _ _ => ["refinements"]
  | .literal _ _ => ["expected"]
  | .array _ _ _ => ["element", "refinements"]
  | .object _ _ => ["fields"]
  | _ => []

/-- The variant that also accepts `absent`.  There is none of a foreign schema. -/
def optional? : Schema → Option Schema
  | .number _ refinements => some (.number .optional refinements)
  | .text _ refinements => some (.text .optional refinements)
  | .boolean _ => some (.boolean .optional)
  | .function _ => some (.function .optional)
  | .literal _ expected => some (.literal .optional expected)
  | .array _ element refinements => some (.array .optional element refinements)
  | .object _ fields => some (.object .optional fields)
  | .foreign _ _ => none

/-- Adds a refinement after those that are there already. -/
def refine? (refinement : Refinement) : Schema → Option Schema
  | .number presence refinements => some (.number presence (refinements ++ [refinement]))
  | .text presence refinements => some (.text presence (refinements ++ [refinement]))
  | .array presence element refinements =>
      some (.array presence element (refinements ++ [refinement]))
  | _ => none

/-- Numbers above zero. -/
def positive? : Schema → Option Schema
  | schema@(.number _ _) => schema.refine? .positive
  | _ => none

/-- Texts or arrays that are not empty. -/
def nonEmpty? : Schema → Option Schema
  | schema@(.text _ _) => schema.refine? .nonEmptyText
  | schema@(.array _ _ _) => schema.refine? .nonEmptyArray
  | _ => none

/-- Whether an object schema has a field for a key.  Only texts name fields.  This could not be
asked of a container that can change, but no mapping has such a key. -/
def declares (fields : List (Text × Schema)) : Value → Bool
  | .text name => fields.any fun field => field.1 == name
  | _ => false

end Schema

end ClosedShape
