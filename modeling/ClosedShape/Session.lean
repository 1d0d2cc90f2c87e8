import ClosedShape.Schema.Construction
import ClosedShape.Store
/-!
# Sessions

Names that stand for schemas, for shared values and for lists of fields, while one is built from
the other step by step.
-/

namespace ClosedShape

/-- What a name stands for.  Whatever a step builds has an identity of its own. -/
inductive Binding where
  | entity (entity : Entity) (identity : Nat)
  | stored (stored : Stored)
  | fields (fields : List (Value × Entity)) (identity : Nat)

structure Session where
  /-- The identities that have been given away. -/
  identities : Nat := 0
  bindings : List (String × Binding) := []
  store : Store := {}
deriving Inhabited

namespace Session

def freshIdentity (session : Session) : Nat × Session :=
  (session.identities, { session with identities := session.identities + 1 })

def find (session : Session) (name : String) : Except Fault Binding :=
  match session.bindings.lookup name with
  | some binding => .ok binding
  | none => .error (.missing name)

/-- Lets a name stand for something else from now on. -/
def bind (session : Session) (name : String) (binding : Binding) : Session :=
  { session with bindings := (name, binding) :: session.bindings }

def value (session : Session) (stored : Stored) : Value := session.store.read stored

/-- What a name stands for where a schema is expected. -/
def entityOf (session : Session) : Binding → Entity
  | .entity entity _ => entity
  | .stored stored => .ofValue (session.value stored)
  | .fields _ _ => .ofValue (.object [])

/-- Parses a shared value, and gives the result its place in the store. -/
def parse (session : Session) (schema : Schema) (argument : Stored) :
    Run Value × Option Stored × Session :=
  let run := schema.run (session.value argument)
  match run.outcome with
  | .ok _ =>
      let (narrowed, store) := Store.narrow schema argument session.store
      (run, some narrowed, { session with store })
  | .error _ => (run, none, session)

/-- Whether two names stand for one and the same. -/
def areSame : Binding → Binding → Bool
  | .entity _ left, .entity _ right => left == right
  | .stored left, .stored right => Store.isSame left right
  | .fields _ left, .fields _ right => left == right
  | _, _ => false

/-- Takes a field out of a list of fields. -/
def removeField (fields : List (Value × Entity)) (name : Value) :
    Except Fault (List (Value × Entity)) :=
  if fields.any fun field => field.1.equals name then
    .ok (fields.filter fun field => !field.1.equals name)
  else do throw (.notFound (← name.source))

end Session

end ClosedShape
