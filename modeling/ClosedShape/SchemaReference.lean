import ClosedShape.Log
import ClosedShape.Schema.Construction
/-!
# Schema references

A reference `module:path` names a schema in a program module, by the names that lead to it from
the module on.  What a module does while it is imported, and how it responds when it is asked for a
name, is up to its author.
-/

namespace ClosedShape

/-- What a name in a program module stands for. -/
inductive ModuleMember where
  | entity (entity : Entity)
  /-- A namespace with members of its own, as they were set one after the other. -/
  | namespaceOf (members : List (String × ModuleMember))
  | method (owner : Schema)
  /-- A part of a schema that is no schema itself. -/
  | part (typeName : String)
  /-- An object of the author of a module.  All that is known of it is the name of its type, how it
  responds when it is asked for a member, and the schema that it is, if its type extends those of
  this library. -/
  | foreign (typeName : String) (respond : String → Except Fault (Option ModuleMember))
      (schema : Option Schema)
deriving Inhabited

/-- What ends the import of a module. -/
structure ImportFailure where
  kind : String
  /-- It says that something cannot be imported, and not that importing it failed. -/
  unavailable : Bool
  /-- What it says.  Showing an error can fail as well, and leaving the run is no error that is
  shown: either fault takes the place of the text. -/
  text : Except Fault Text

namespace ImportFailure

/-- The kinds of errors that say that something cannot be imported. -/
def unavailableKinds : List String := ["ImportError", "ModuleNotFoundError"]

/-- Every fault of a module is shown, unless the module leaves the run. -/
def ofFault (fault : Fault) : ImportFailure where
  kind := fault.kind
  unavailable := unavailableKinds.contains fault.kind
  text :=
    match fault with
    | .departure _ _ => .error fault
    | _ => .ok fault.message

end ImportFailure

/-- What happens when a module is imported. -/
inductive ModuleBody where
  | members (members : List (String × ModuleMember))
  /-- The module responds by itself when it is asked for a member. -/
  | foreign (respond : String → Except Fault (Option ModuleMember))
  | failing (failure : ImportFailure)

instance : Inhabited ModuleBody := ⟨.members []⟩

/-- The modules that can be imported, by their dotted names. -/
abbrev Modules := List (String × ModuleBody)

/-- Why a reference does not lead to a schema. -/
inductive SchemaReferenceError where
  | malformed (reference : String)
  | unavailable (moduleName : String) (text : Text)
  | notImported (moduleName kind : String) (text : Text)
  | noMember (moduleName path : String)
  | notSchema (reference typeName : String)
deriving DecidableEq, Repr, Inhabited

def SchemaReferenceError.message : SchemaReferenceError → Text
  | .malformed reference =>
      s!"Invalid schema reference '{reference}' (expected 'module:attribute')"
  | .unavailable moduleName text => s!"Cannot import module '{moduleName}': " ++ text
  | .notImported moduleName kind text =>
      s!"Error while importing '{moduleName}': {kind}: " ++ text
  | .noMember moduleName path => s!"'{moduleName}' has no attribute '{path}'"
  | .notSchema reference typeName => s!"'{reference}' is a {typeName}, not a validator"

/-- Why no schema is found: the reference does not lead to one, or looking for it failed. -/
inductive SchemaReferenceFailure where
  | unresolved (error : SchemaReferenceError)
  | faulty (fault : Fault)
deriving Inhabited

/-- The methods that all schemas of this library have, those for its own use included. -/
def commonMethodNames : List String := ["parse", "optional", "_base_parse"]

/-- The methods of schemas that can be refined. -/
def refiningMethodNames : List String := ["_refine", "_apply_refinements"]

/-- The names of the methods that a schema has.  What every object has besides, such as a type and
ways to compare and to show it, is left out. -/
def Schema.methodNames : Schema → List String
  | .foreign _ _ => ["parse"]
  | .number _ _ => "positive" :: refiningMethodNames ++ commonMethodNames
  | .text _ _ => "non_empty" :: refiningMethodNames ++ commonMethodNames
  | .array _ _ _ =>
      "non_empty" :: "__post_init__" :: refiningMethodNames ++ commonMethodNames
  | .literal _ _ | .object _ _ => "__post_init__" :: commonMethodNames
  | .boolean _ | .function _ => commonMethodNames

namespace ModuleMember

def typeName : ModuleMember → String
  | .entity target => target.typeName
  | .namespaceOf _ => "type"
  | .method _ => "method"
  | .part typeName | .foreign typeName _ _ => typeName

/-- The member of a schema with a name, as far as this library gives it one.  A reference through a
member that every object has is refused here. -/
def ofSchema? (schema : Schema) (name : String) : Option ModuleMember :=
  match schema, name with
  | .array _ element _, "element" => some (.entity (.ofSchema element))
  | .literal _ expected, "expected" => some (.entity (.ofValue expected))
  | .object _ _, "fields" => some (.part "mappingproxy")
  | schema, name =>
      if name = "refinements" && schema.refinements?.isSome then some (.part "tuple")
      else if schema.methodNames.contains name then some (.method schema)
      else none

/-- The member with a name, if there is one.  Of several with one name the last counts, and a method
knows the schema that it belongs to.  Of a namespace, a module or a method only the members that
its author gave it are known, and of a method this schema. -/
def member? (owner : ModuleMember) (name : String) : Except Fault (Option ModuleMember) :=
  match owner with
  | .namespaceOf members => .ok (members.reverse.lookup name)
  | .entity (.ofSchema schema) => .ok (ofSchema? schema name)
  | .entity .brokenParser => .ok (if name = "parse" then some (.part "int") else none)
  | .method owner => .ok (if name = "__self__" then some (.entity (.ofSchema owner)) else none)
  | .entity (.ofValue _) | .part _ => .ok none
  | .foreign _ respond _ => respond name

/-- Follows names from a member on. -/
def follow? (owner : ModuleMember) : List String → Except Fault (Option ModuleMember)
  | [] => .ok (some owner)
  | name :: path =>
      match owner.member? name with
      | .ok (some member) => member.follow? path
      | other => other

/-- The schema that a member is.  Foreign schemas do not count unless their type extends those of
this library. -/
def schema? : ModuleMember → Option Schema
  | .entity (.ofSchema schema) => if schema.isForeign then none else some schema
  | .foreign _ _ schema => schema
  | _ => none

/-- What a member returns that is called.  Only callbacks can be called, and they return nothing. -/
def call : ModuleMember → Except Fault ModuleMember
  | .entity (.ofValue value) =>
      if value.isCallable then .ok (.entity (.ofValue .null))
      else .error (.notCallable value.typeName)
  | member => .error (.notCallable member.typeName)

/-- The member of a module that is called for the names that the module does not have. -/
def handlerName : String := "__getattr__"

/-- A module with members. -/
def ofModule (members : List (String × ModuleMember)) : ModuleMember :=
  match members.reverse.lookup handlerName with
  | none => .namespaceOf members
  | some handler =>
      let respond := fun name =>
        match members.reverse.lookup name with
        | some member => .ok (some member)
        | none => handler.call.map some
      .foreign "module" respond none

end ModuleMember

/-- Runs the body of a module. -/
def ModuleBody.run : ModuleBody → Except ImportFailure ModuleMember
  | .members own => .ok (.ofModule own)
  | .foreign respond => .ok (.foreign "module" respond none)
  | .failing failure => .error failure

/-- The names in a text with dots between them. -/
def dottedNames (text : String) : List String := (text.toList.splitOn '.').map String.ofList

namespace Modules

/-- The body of the module with a name.  Of several with one name the last counts. -/
def body? (modules : Modules) (name : String) : Option ModuleBody := modules.reverse.lookup name

/-- A module with modules below it. -/
def isPackage (modules : Modules) (name : String) : Bool :=
  modules.any fun other => (name ++ ".").toList.isPrefixOf other.1.toList

/-- The error that there is no such module in its parent, if it has one.  What is no package and has
no path either cannot have modules below it. -/
def notFound (modules : Modules) (parent : Option (String × ModuleMember)) (name : String) :
    ImportFailure :=
  let unavailable := fun text => ImportFailure.ofFault (.foreign "ModuleNotFoundError" text)
  let text := "No module named " ++ Text.quoted name
  match parent with
  | none => unavailable text
  | some (parentName, parent) =>
      if modules.isPackage parentName then unavailable text
      else
        match parent.member? "__path__" with
        | .ok (some _) => unavailable text
        | .ok none => unavailable (text ++ "; " ++ Text.quoted parentName ++ " is not a package")
        | .error fault => .ofFault fault

/-- The full name of a module below another, if there is another. -/
def childName (parent : Option (String × ModuleMember)) (name : String) : String :=
  parent.elim name fun parent => parent.1 ++ "." ++ name

/-- Imports the module with a full name, which is below one that has been imported. -/
def importNext (modules : Modules) (parent : Option (String × ModuleMember)) (name : String) :
    Except ImportFailure ModuleMember :=
  match modules.body? name with
  | none => .error (modules.notFound parent name)
  | some body => body.run

/-- Imports the modules that some names lead to, one below the other, and gives the last. -/
def importBelow (modules : Modules) (parent : Option (String × ModuleMember)) :
    List String → Except ImportFailure ModuleMember
  | [] => .ok (parent.elim (.namespaceOf []) Prod.snd)
  | name :: rest => do
      let module ← modules.importNext parent (childName parent name)
      modules.importBelow (some (childName parent name, module)) rest

/-- Imports a module after those above it. -/
def importModule (modules : Modules) (name : String) : Except ImportFailure ModuleMember :=
  modules.importBelow none (dottedNames name)

end Modules

namespace SchemaReference

def logger : String := "shapectl.infrastructure.schema_ref"

/-- Splits a reference at its first colon.  Neither part can be empty, and the module cannot start
with a dot. -/
def split? (reference : String) : Option (String × String) :=
  let moduleName := reference.toList.takeWhile (· != ':')
  match reference.toList.drop moduleName.length with
  | _ :: path =>
      if moduleName.isEmpty || path.isEmpty || moduleName.head? = some '.' then none
      else some (String.ofList moduleName, String.ofList path)
  | [] => none

/-- Says that a module is not imported.  An error that cannot be shown takes the place of what would
be said about it. -/
def refuseImport (moduleName : String) (failure : ImportFailure) : SchemaReferenceFailure :=
  match failure.text with
  | .error fault => .faulty fault
  | .ok text =>
      .unresolved <|
        if failure.unavailable then .unavailable moduleName text
        else .notImported moduleName failure.kind text

/-- The schema that a reference names. -/
def find (modules : Modules) (reference : String) : Except SchemaReferenceFailure Schema :=
  match split? reference with
  | none => .error (.unresolved (.malformed reference))
  | some (moduleName, path) =>
      match modules.importModule moduleName with
      | .error failure => .error (refuseImport moduleName failure)
      | .ok module =>
          match module.follow? (dottedNames path) with
          | .error fault => .error (.faulty fault)
          | .ok none => .error (.unresolved (.noMember moduleName path))
          | .ok (some member) =>
              match member.schema? with
              | some schema => .ok schema
              | none => .error (.unresolved (.notSchema reference member.typeName))

/-- Finds the schema that a reference names and reports it. -/
def resolve (modules : Modules) (reference : String) : Logged SchemaReferenceFailure Schema := do
  let schema ← .ofExcept (find modules reference)
  .report .debug logger ("Resolved schema " ++ reference)
  return schema

end SchemaReference

end ClosedShape
