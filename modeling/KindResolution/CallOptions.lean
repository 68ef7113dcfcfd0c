import KindResolution.Json.Printer
import KindResolution.SortedMap
import KindResolution.Text.Numeral

/-!
# Options of calls

What can be said about a call on a collection of objects: which of them a list shows and how many at
a time, how a write is recorded, and under which conditions a delete goes through. The options of a
list or write are checked before they are used and turn into parameters of a query; those of a
delete mostly go into the body instead.
-/

namespace KindResolution

open Text

/-- The reasons why options cannot be used. -/
inductive OptionError where
  | emptyName
  | tokenWithoutLimit
  | fieldManagerTooLong (bytes : Nat)
  deriving DecidableEq, Repr

/-- The largest number of bytes of the name of a field manager. -/
def maxFieldManagerBytes : Nat := 128

/-- The text of an error. -/
def OptionError.message : OptionError → String
  | .emptyName => "object name must not be empty"
  | .tokenWithoutLimit => "a continue token needs a page limit"
  | .fieldManagerTooLong bytes =>
    "field manager is " ++ String.ofList (decimal bytes) ++ " characters, at most " ++
      String.ofList (decimal maxFieldManagerBytes) ++ " are allowed"

/-- What a list of the objects in a collection shows. -/
structure ListOptions where
  labelSelector : Option String := none
  fieldSelector : Option String := none
  limit : Option UInt32 := none
  continueToken : Option String := none
  deriving DecidableEq, Repr

namespace ListOptions

/-- The selector of the objects that carry all the given labels: the labels with their values, with
commas between them. -/
def selectorOf (labels : SortedMap String) : List Char :=
  [','].intercalate (labels.entries.map fun entry => entry.1.toList ++ '=' :: entry.2.toList)

/-- Shows the objects that carry all the given labels, and all objects if there are none. -/
def matchingLabels (labels : SortedMap String) : ListOptions :=
  let selector := selectorOf labels
  { labelSelector := if selector.isEmpty then none else some (String.ofList selector) }

/-- Shows the one object of a name. -/
def ofName (name : String) : ListOptions :=
  { fieldSelector := some ("metadata.name=" ++ name) }

/-- Shows the objects that a label selector selects. -/
def withLabels (p : ListOptions) (selector : String) : ListOptions :=
  { p with labelSelector := some selector }

/-- Shows the objects that a field selector selects. -/
def withFields (p : ListOptions) (selector : String) : ListOptions :=
  { p with fieldSelector := some selector }

/-- Shows a number of objects at a time. -/
def withLimit (p : ListOptions) (limit : UInt32) : ListOptions :=
  { p with limit := some limit }

/-- Shows the objects behind those of the page that came with a token. -/
def continuing (p : ListOptions) (token : String) : ListOptions :=
  { p with continueToken := some token }

/-- A token is of use only together with a limit. -/
def check (p : ListOptions) : Except OptionError Unit :=
  if p.continueToken.isSome && p.limit.isNone then .error .tokenWithoutLimit else .ok ()

/-- The parameters of the query, in their order. -/
def queryPairs (p : ListOptions) : List (String × String) :=
  (p.fieldSelector.map fun s => ("fieldSelector", s)).toList ++
    (p.labelSelector.map fun s => ("labelSelector", s)).toList ++
    (p.limit.map fun n => ("limit", String.ofList (decimal n.toNat))).toList ++
    (p.continueToken.map fun s => ("continue", s)).toList

end ListOptions

/-- How a create or replace is carried out. -/
structure WriteOptions where
  dryRun : Bool := false
  fieldManager : Option String := none
  deriving DecidableEq, Repr

/-- The parameter of a query that turns a call into a rehearsal. -/
def dryRunPair : String × String := ("dryRun", "All")

namespace WriteOptions

/-- Writes that are recorded under a name. -/
def ofManager (manager : String) : WriteOptions :=
  { fieldManager := some manager }

/-- Only checks the write. -/
def asDryRun (p : WriteOptions) : WriteOptions :=
  { p with dryRun := true }

/-- The name of the field manager may not be too long. -/
def check (p : WriteOptions) : Except OptionError Unit :=
  match p.fieldManager with
  | some manager =>
    if maxFieldManagerBytes < manager.utf8ByteSize then
      .error (.fieldManagerTooLong manager.utf8ByteSize)
    else .ok ()
  | none => .ok ()

/-- The parameters of the query, in their order. -/
def queryPairs (p : WriteOptions) : List (String × String) :=
  (if p.dryRun then [dryRunPair] else []) ++
    (p.fieldManager.map fun s => ("fieldManager", s)).toList

end WriteOptions

/-- What happens to the objects that a deleted object owns. -/
inductive PropagationPolicy where
  | orphan
  | background
  | foreground
  deriving DecidableEq, Repr

/-- The name of a policy. -/
def PropagationPolicy.name : PropagationPolicy → String
  | .orphan => "Orphan"
  | .background => "Background"
  | .foreground => "Foreground"

/-- What an object must still be for a delete to go through. -/
structure Preconditions where
  uid : Option String := none
  resourceVersion : Option String := none
  deriving DecidableEq, Repr

/-- The value of preconditions. -/
def Preconditions.toJson (p : Preconditions) : Json :=
  .object <| Json.presentMembers
    [("uid", p.uid.map .string), ("resourceVersion", p.resourceVersion.map .string)]

/-- How a delete is carried out. -/
structure DeleteOptions where
  dryRun : Bool := false
  gracePeriodSeconds : Option UInt32 := none
  propagationPolicy : Option PropagationPolicy := none
  preconditions : Option Preconditions := none
  deriving DecidableEq, Repr

namespace DeleteOptions

/-- Deletes with a policy for the objects owned. -/
def ofPolicy (policy : PropagationPolicy) : DeleteOptions :=
  { propagationPolicy := some policy }

/-- Only checks the delete. -/
def asDryRun (p : DeleteOptions) : DeleteOptions :=
  { p with dryRun := true }

/-- Gives the object a number of seconds to shut down. -/
def withGracePeriod (p : DeleteOptions) (seconds : UInt32) : DeleteOptions :=
  { p with gracePeriodSeconds := some seconds }

/-- Deletes only under preconditions. -/
def withPreconditions (p : DeleteOptions) (preconditions : Preconditions) : DeleteOptions :=
  { p with preconditions := some preconditions }

/-- The parameters of the query. -/
def queryPairs (p : DeleteOptions) : List (String × String) :=
  if p.dryRun then [dryRunPair] else []

/-- The value that the body holds: everything but the rehearsal. -/
def toJson (p : DeleteOptions) : Json :=
  .object <| Json.presentMembers
    [("gracePeriodSeconds", p.gracePeriodSeconds.map fun n => .ofNat n.toNat),
      ("propagationPolicy", p.propagationPolicy.map fun policy => .string policy.name),
      ("preconditions", p.preconditions.map Preconditions.toJson)]

/-- The body of a delete. -/
def body (p : DeleteOptions) : String :=
  p.toJson.text

end DeleteOptions

end KindResolution
