import KindResolution.Proofs.Client.Bodies
import KindResolution.Proofs.Client.Naming
import KindResolution.Proofs.Json.ReadBack

/-!
# What bodies say

A body is a text, which a server reads. If the numbers in a value are integers of 64 bits, so are
those in what a client writes for it (`Client.Writes.integral`), and this value is what is read off
the body: `Client.read_of_encode`. The names of a type in the body of an object are read there as
well: `Client.BodyNames.read`.
-/

namespace KindResolution

namespace Json

mutual

/-- To bring a value into order keeps its numbers integers of 64 bits. -/
theorem Integral.normalize : ∀ {v : Json}, v.Integral → v.normalize.Integral
  | .null, _ | .bool _, _ | .string _, _ => trivial
  | .number _, integral => integral
  | .array _, integral => IntegralElements.normalizeElements integral
  | .object _, integral => by
    refine integralMembers_iff.2 fun member stored => ?_
    obtain new | none := Entries.mem_of_mem_insertAll stored
    · exact integralMembers_iff.1 (IntegralMembers.normalizeMembers integral) member new
    · cases none

/-- So does bringing elements into order. -/
theorem IntegralElements.normalizeElements : ∀ {elements : List Json},
    IntegralElements elements → IntegralElements (normalizeElements elements)
  | [], _ => trivial
  | _ :: _, ⟨first, others⟩ => ⟨first.normalize, IntegralElements.normalizeElements others⟩

/-- So does bringing members into order. -/
theorem IntegralMembers.normalizeMembers : ∀ {members : List (String × Json)},
    IntegralMembers members → IntegralMembers (normalizeMembers members)
  | [], _ => trivial
  | (_, _) :: _, ⟨first, others⟩ => ⟨first.normalize, IntegralMembers.normalizeMembers others⟩

end

/-- The numbers in a member are among those in its object. -/
lemma Integral.member? {v value : Json} {key : String} (integral : v.Integral)
    (found : v.member? key = some value) : value.Integral := by
  cases v with
  | object members =>
    exact integralMembers_iff.1 integral _ (Entries.mem_of_find? found)
  | null | bool | number | string | array => cases found

/-- The names of a kind bring no numbers into an object. -/
lemma Completed.integral {kind : GroupVersionKind} {v completed : Json}
    (isCompleted : Completed kind v completed) (integral : v.Integral) : completed.Integral := by
  have named : ∀ key text, ((v.member? key).getD (.string text)).Integral := by
    intro key text
    cases found : v.member? key with
    | none => trivial
    | some value => exact integral.member? found
  obtain ⟨members, rfl⟩ := isCompleted.isObject
  refine integralMembers_iff.2 fun member stored => ?_
  -- a member is found under its key, and there are three sorts of keys
  have found : (object members).member? member.1 = some member.2 :=
    Entries.find?_of_mem isCompleted.ordered.1 stored
  by_cases apiVersion : member.1 = "apiVersion"
  · rw [apiVersion, isCompleted.apiVersion] at found
    rw [← Option.some.inj found]
    exact named _ _
  by_cases name : member.1 = "kind"
  · rw [name, isCompleted.kind] at found
    rw [← Option.some.inj found]
    exact named _ _
  · rw [isCompleted.others _ apiVersion name] at found
    exact integral.member? found

end Json

namespace Client

open Json

/-- A client brings no numbers into what it writes. -/
lemma Writes.integral {c : Client} {v written : Json} (writes : c.Writes v written)
    (integral : v.Integral) : written.Integral := by
  cases codec : c.codec with
  | typed => exact ((writes_of_typed codec).1 writes).integral integral
  | schemaless =>
    obtain ⟨_, _, _, rfl⟩ := (writes_of_schemaless codec).1 writes
    exact integral

/-- What is read off a body is the value that the client writes, and nothing stands behind it. -/
theorem read_of_encode {c : Client} {v : Json} {body : String} (integral : v.Integral)
    (encoded : c.encode v = .ok body) :
    ∃ written, c.Writes v.normalize written ∧ Reader.read body = (.ofJson written, false) := by
  obtain ⟨written, writes, rfl⟩ := encode_eq_ok_iff.1 encoded
  exact ⟨written, writes, Reader.read_text (writes.integral integral.normalize)⟩

/-- So clients that send one body for two values write one value for both. -/
theorem writes_of_encode_eq {c c' : Client} {v v' : Json} {body : String} (integral : v.Integral)
    (integral' : v'.Integral) (encoded : c.encode v = .ok body) (encoded' : c'.encode v' = .ok body) :
    ∃ written, c.Writes v.normalize written ∧ c'.Writes v'.normalize written := by
  obtain ⟨written, writes, read⟩ := read_of_encode integral encoded
  obtain ⟨written', writes', read'⟩ := read_of_encode integral' encoded'
  obtain ⟨same, _⟩ := Prod.mk.inj (read.symm.trans read')
  rw [← Document.ofJson_inj same] at writes'
  exact ⟨written, writes, writes'⟩

/-- The names of a type in the body of an object are read off the body. -/
theorem BodyNames.read {c : Client} {t : ObjectType} {o : Object t} {body : String}
    {names : TypeMeta} (named : c.BodyNames o body names)
    (integral : ∀ v, o.toJson = .ok v → v.Integral) :
    ∃ v : Json, Reader.read body = (.ofJson v, false) ∧ v.Names names := by
  obtain ⟨sent, ⟨written, value, completed⟩, rfl, names⟩ := named
  obtain ⟨v, json, rfl⟩ := map_eq_ok_iff.1 value
  have writes := (completeBody_eq_ok_iff (ordered_normalize v)).1 completed
  exact ⟨sent, Reader.read_text (writes.integral (integral v json).normalize), names⟩

end Client

end KindResolution
