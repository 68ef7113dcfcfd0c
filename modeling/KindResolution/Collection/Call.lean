import KindResolution.Collection

/-!
# Calls

A call on a collection together with everything that is said about it, and what its request should
be about: an object or the whole collection, and the parameters that are present. `Call.parameters?`
says for every kind of call which parameters it can have, independently of how a query is written.
-/

namespace KindResolution

/-- The parameters that are present, in the given order. -/
def presentParameters {α : Type} (parameters : List (String × Option α)) : List (String × α) :=
  parameters.filterMap fun p => p.2.map fun value => (p.1, value)

/-- The parameters of a list. -/
def ListOptions.parameters (p : ListOptions) : List (String × Option String) :=
  [("fieldSelector", p.fieldSelector), ("labelSelector", p.labelSelector),
    ("limit", p.limit.map fun n => String.ofList (Text.decimal n.toNat)),
    ("continue", p.continueToken)]

/-- The value of the parameter that turns a call into a rehearsal. -/
def rehearsal? (dryRun : Bool) : Option String :=
  if dryRun then some "All" else none

/-- The parameters of a create or replace. -/
def WriteOptions.parameters (p : WriteOptions) : List (String × Option String) :=
  [("dryRun", rehearsal? p.dryRun), ("fieldManager", p.fieldManager)]

/-- The parameters of a delete. -/
def DeleteOptions.parameters (p : DeleteOptions) : List (String × Option String) :=
  [("dryRun", rehearsal? p.dryRun)]

namespace Collection

/-- A call on the objects below a path. -/
inductive Call where
  | list (options : ListOptions)
  | get (name : String)
  | create (options : WriteOptions) (body : String)
  | replace (name : String) (options : WriteOptions) (body : String)
  | delete (name : String) (options : DeleteOptions)
  deriving DecidableEq, Repr

namespace Call

/-- The name of the object that a call is about, unless it is about the collection. -/
def name? : Call → Option String
  | .list _ | .create _ _ => none
  | .get name | .replace name _ _ | .delete name _ => some name

/-- The parameters that a call can have. A call that only reads an object has no query. -/
def parameters? : Call → Option (List (String × Option String))
  | .list p => some p.parameters
  | .get _ => none
  | .create p _ | .replace _ p _ => some p.parameters
  | .delete _ p => some p.parameters

/-- The options of a create or replace. -/
def writeOptions? : Call → Option WriteOptions
  | .create p _ | .replace _ p _ => some p
  | _ => none

/-- What is sent along with a call. -/
def body : Call → String
  | .list _ | .get _ => ""
  | .create _ body | .replace _ _ body => body
  | .delete _ p => p.body

/-- Whether a call is to be a rehearsal. -/
def isDryRun : Call → Bool
  | .create p _ | .replace _ p _ => p.dryRun
  | .delete _ p => p.dryRun
  | _ => false

end Call

/-- The request of a call. -/
def send (c : Collection) : Call → Except RequestError Http.Request
  | .list p => c.list p
  | .get name => c.get name
  | .create p body => c.create p body
  | .replace name p body => c.replace name p body
  | .delete name p => c.delete name p

/-- The path of what a call is about. -/
def pathFor (c : Collection) (call : Call) : String :=
  match call.name? with
  | none => c.path
  | some name => c.path ++ "/" ++ name

end Collection

end KindResolution
