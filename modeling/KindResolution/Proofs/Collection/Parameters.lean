import KindResolution.Proofs.Collection.Address
import KindResolution.Proofs.Json.ReadBack

/-!
# Parameters in requests

What is said about a call can be read off its request: the query decodes to the parameters that are
present, and the body of a delete holds the rest. `Collection.parameters_survive` says so, and that
two requests with one address come from the same options.
-/

namespace KindResolution

open Http Text

section

variable {α : Type}

/-- What is present is one of the parameters. -/
lemma mem_of_mem_presentParameters {name : String} {value : α} {ps : List (String × Option α)}
    (member : (name, value) ∈ presentParameters ps) : (name, some value) ∈ ps := by
  obtain ⟨⟨n, v⟩, listed, made⟩ := List.mem_filterMap.1 member
  obtain ⟨w, rfl, pair⟩ := Option.map_eq_some_iff.1 made
  cases pair
  exact listed

/-- Parameters under the same names, all different, are the same if the same ones are present. -/
lemma presentParameters_inj {ps qs : List (String × Option α)}
    (names : ps.map Prod.fst = qs.map Prod.fst) (distinct : (ps.map Prod.fst).Nodup)
    (same : presentParameters ps = presentParameters qs) : ps = qs := by
  induction ps generalizing qs with
  | nil => exact (List.map_eq_nil_iff.1 names.symm).symm
  | cons p ps ih =>
    obtain ⟨name, v⟩ := p
    cases qs with
    | nil => cases names
    | cons q qs =>
      obtain ⟨other, w⟩ := q
      simp only [List.map_cons, List.cons.injEq, List.nodup_cons] at names distinct
      obtain ⟨rfl, others⟩ := names
      obtain ⟨fresh, distinct⟩ := distinct
      cases v with
      | none =>
        cases w with
        | none => rw [ih others distinct same]
        | some b =>
          -- the parameter that only one side has would come again further down on the other
          have again : (name, b) ∈ presentParameters ps := by
            rw [show presentParameters ps = (name, b) :: presentParameters qs from same]
            exact List.mem_cons_self
          exact absurd (List.mem_map_of_mem (mem_of_mem_presentParameters again)) fresh
      | some a =>
        cases w with
        | none =>
          have again : (name, a) ∈ presentParameters qs := by
            rw [← show (name, a) :: presentParameters ps = presentParameters qs from same]
            exact List.mem_cons_self
          rw [others] at fresh
          exact absurd (List.mem_map_of_mem (mem_of_mem_presentParameters again)) fresh
        | some b =>
          obtain ⟨head, tail⟩ := List.cons.inj
            (show (name, a) :: presentParameters ps = (name, b) :: presentParameters qs from same)
          cases head
          rw [ih others distinct tail]

end

/-- The numbers of an object are integers of 64 bits if those of the members that it can have are. -/
lemma integral_object {ms : List (String × Option Json)}
    (all : ∀ m ∈ ms, ∀ v ∈ m.2, v.Integral) : (Json.object (presentParameters ms)).Integral := by
  refine Json.integralMembers_iff.2 fun member present => ?_
  exact all _ (mem_of_mem_presentParameters present) member.2 rfl

/-- A rehearsal and a write are told apart. -/
lemma rehearsal?_injective : Function.Injective rehearsal? := by
  intro first second same
  cases first <;> cases second <;> first | rfl | cases same

/-- Options of a list are told apart by their parameters. -/
lemma ListOptions.presentParameters_injective :
    Function.Injective fun p : ListOptions => presentParameters p.parameters := by
  intro p q same
  have all : p.parameters = q.parameters := presentParameters_inj rfl (by simp [parameters]) same
  simp only [parameters, List.cons.injEq, Prod.mk.injEq, true_and, and_true] at all
  obtain ⟨fields, labels, limit, token⟩ := all
  have number : p.limit = q.limit := by
    refine Option.map_injective (fun m n digits => ?_) limit
    exact UInt32.toNat_inj.1 (decimal_injective (String.ofList_injective digits))
  cases p; cases q
  simp_all

/-- Options of a write are told apart by their parameters. -/
lemma WriteOptions.presentParameters_injective :
    Function.Injective fun p : WriteOptions => presentParameters p.parameters := by
  intro p q same
  have all : p.parameters = q.parameters := presentParameters_inj rfl (by simp [parameters]) same
  simp only [parameters, List.cons.injEq, Prod.mk.injEq, true_and, and_true] at all
  obtain ⟨rehearsal, manager⟩ := all
  have dry := rehearsal?_injective rehearsal
  cases p; cases q
  simp_all

/-- Policies are told apart by their names. -/
lemma PropagationPolicy.name_injective : Function.Injective PropagationPolicy.name := by
  intro first second same
  cases first <;> cases second <;> first | rfl | exact absurd same (by decide)

/-- The members that the value of preconditions can have. -/
def Preconditions.members (p : Preconditions) : List (String × Option Json) :=
  [("uid", p.uid.map .string), ("resourceVersion", p.resourceVersion.map .string)]

/-- Preconditions are told apart by their values. -/
lemma Preconditions.toJson_injective : Function.Injective Preconditions.toJson := by
  intro p q same
  have members : p.members = q.members :=
    presentParameters_inj rfl (by simp [members]) (Json.object.inj same)
  simp only [Preconditions.members, List.cons.injEq, Prod.mk.injEq, true_and, and_true] at members
  obtain ⟨uid, version⟩ := members
  have string : Function.Injective Json.string := fun _ _ => Json.string.inj
  have uid := Option.map_injective string uid
  have version := Option.map_injective string version
  cases p; cases q
  simp_all

/-- The value of preconditions has no numbers but integers. -/
lemma Preconditions.integral_toJson (p : Preconditions) : p.toJson.Integral := by
  have all : ∀ m ∈ p.members, ∀ v ∈ m.2, v.Integral := by
    intro m member v present
    simp only [members, List.mem_cons, List.not_mem_nil, or_false] at member
    rcases member with rfl | rfl
    · obtain ⟨_, _, rfl⟩ := Option.map_eq_some_iff.1 present
      trivial
    · obtain ⟨_, _, rfl⟩ := Option.map_eq_some_iff.1 present
      trivial
  exact integral_object all

namespace DeleteOptions

/-- The members that the body of a delete can have. -/
def members (p : DeleteOptions) : List (String × Option Json) :=
  [("gracePeriodSeconds", p.gracePeriodSeconds.map fun n => .ofNat n.toNat),
    ("propagationPolicy", p.propagationPolicy.map fun policy => .string policy.name),
    ("preconditions", p.preconditions.map Preconditions.toJson)]

/-- The options of a delete are known from the parameters that are present and the value in the
body. -/
lemma eq_of_parameters_of_toJson {p q : DeleteOptions}
    (same : presentParameters p.parameters = presentParameters q.parameters)
    (body : p.toJson = q.toJson) : p = q := by
  have all : p.parameters = q.parameters := presentParameters_inj rfl (by simp [parameters]) same
  simp only [parameters, List.cons.injEq, Prod.mk.injEq, true_and, and_true] at all
  have dry := rehearsal?_injective all
  have all : p.members = q.members :=
    presentParameters_inj rfl (by simp [members]) (Json.object.inj body)
  simp only [members, List.cons.injEq, Prod.mk.injEq, true_and, and_true] at all
  obtain ⟨seconds, policy, preconditions⟩ := all
  have seconds : p.gracePeriodSeconds = q.gracePeriodSeconds := by
    refine Option.map_injective (fun m n number => ?_) seconds
    simp only [Json.ofNat, Json.Number.ofNat, Json.number.injEq, Json.Number.integer.injEq,
      Int.ofNat.injEq] at number
    exact UInt32.toNat_inj.1 number
  have policy := Option.map_injective
    (fun _ _ name => PropagationPolicy.name_injective (Json.string.inj name)) policy
  have preconditions := Option.map_injective Preconditions.toJson_injective preconditions
  cases p; cases q
  simp_all

/-- The value of options of a delete has no numbers but integers. -/
lemma integral_toJson (p : DeleteOptions) : p.toJson.Integral := by
  have all : ∀ m ∈ p.members, ∀ v ∈ m.2, v.Integral := by
    intro m member v present
    simp only [members, List.mem_cons, List.not_mem_nil, or_false] at member
    rcases member with rfl | rfl | rfl
    · obtain ⟨n, _, rfl⟩ := Option.map_eq_some_iff.1 present
      have fits : n.toNat < Nat.pow 2 64 := Nat.lt_trans n.toNat_lt (by decide)
      exact ⟨Int.le_trans (Int.neg_nonpos_of_nonneg (Int.natCast_nonneg _)) (Int.natCast_nonneg _),
        Int.ofNat_lt.2 fits⟩
    · obtain ⟨policy, _, rfl⟩ := Option.map_eq_some_iff.1 present
      trivial
    · obtain ⟨preconditions, _, rfl⟩ := Option.map_eq_some_iff.1 present
      exact preconditions.integral_toJson
  exact integral_object all

end DeleteOptions

namespace Collection

/-- The parameters of a write are those of its options. -/
lemma Call.parameters?_of_write {call : Call} {p : WriteOptions}
    (written : call.writeOptions? = some p) : call.parameters? = some p.parameters := by
  cases call with
  | list _ | get _ | delete _ _ => cases written
  | create _ _ | replace _ _ _ => cases written; rfl

/-- A call on a rooted collection, with a name in which neither a query nor a fragment starts. -/
structure Plain (c : Collection) (call : Call) : Prop where
  rooted : c.Rooted
  names : ∀ name ∈ call.name?, IsPathText name.toList

/-- The path of a plain request is that of what its call is about, and its query decodes to the
parameters that are present. -/
lemma Plain.decoded {c : Collection} {call : Call} {r : Request}
    {parameters : List (String × Option String)} (plain : Plain c call)
    (known : call.parameters? = some parameters) (sent : c.send call = .ok r) :
    r.uri.path = c.pathFor call ∧ ∃ query, r.uri.query = some query ∧
      FormEncoding.decodePairs query.toList = some (presentParameters parameters) := by
  obtain ⟨path, query⟩ := plain.rooted.uri_of_sent plain.names (sent_of_send sent)
  refine ⟨path, _, by rw [query, known]; rfl, ?_⟩
  rw [String.toList_ofList, FormEncoding.decodePairs_encodePairs]

/-- Plain requests to one address have the same parameters. -/
lemma presentParameters_eq_of_uri {c c' : Collection} {call call' : Call} {r r' : Request}
    {parameters parameters' : List (String × Option String)} (plain : Plain c call)
    (plain' : Plain c' call') (known : call.parameters? = some parameters)
    (known' : call'.parameters? = some parameters') (sent : c.send call = .ok r)
    (sent' : c'.send call' = .ok r') (same : r.uri = r'.uri) :
    presentParameters parameters = presentParameters parameters' := by
  obtain ⟨_, query, found, decoded⟩ := plain.decoded known sent
  obtain ⟨_, query', found', decoded'⟩ := plain'.decoded known' sent'
  rw [same, found'] at found
  cases found
  exact Option.some.inj (decoded.symm.trans decoded')

/-- The path and the parameters of a plain request are read off it, and so are all options of a
list, a write or a delete. -/
theorem parameters_survive :
    (∀ {c : Collection} {call : Call} {r : Request} {parameters : List (String × Option String)},
      Plain c call → call.parameters? = some parameters → c.send call = .ok r →
      r.uri.path = c.pathFor call ∧ ∃ query, r.uri.query = some query ∧
        FormEncoding.decodePairs query.toList = some (presentParameters parameters)) ∧
    (∀ {c c' : Collection} {p p' : ListOptions} {r r' : Request}, c.Rooted → c'.Rooted →
      c.list p = .ok r → c'.list p' = .ok r' → r.uri = r'.uri → p = p') ∧
    (∀ {c c' : Collection} {call call' : Call} {p p' : WriteOptions} {r r' : Request},
      Plain c call → Plain c' call' → call.writeOptions? = some p → call'.writeOptions? = some p' →
      c.send call = .ok r → c'.send call' = .ok r' → r.uri = r'.uri → p = p') ∧
    (∀ {c c' : Collection} {name name' : String} {p p' : DeleteOptions} {r r' : Request},
      Plain c (.delete name p) → Plain c' (.delete name' p') →
      c.delete name p = .ok r → c'.delete name' p' = .ok r' → r.uri = r'.uri →
      Json.Reader.read r.body = Json.Reader.read r'.body → p = p') := by
  refine ⟨Plain.decoded, ?_, ?_, ?_⟩
  · intro c c' p p' r r' rooted rooted' sent sent' same
    have plain : Plain c (.list p) := ⟨rooted, nofun⟩
    have plain' : Plain c' (.list p') := ⟨rooted', nofun⟩
    exact ListOptions.presentParameters_injective
      (presentParameters_eq_of_uri plain plain' rfl rfl sent sent' same)
  · intro c c' call call' p p' r r' plain plain' written written' sent sent' same
    exact WriteOptions.presentParameters_injective
      (presentParameters_eq_of_uri plain plain' (Call.parameters?_of_write written)
        (Call.parameters?_of_write written') sent sent' same)
  · intro c c' name name' p p' r r' plain plain' sent sent' same body
    have first : Sent c (.delete name p) r := sent_of_send sent
    have second : Sent c' (.delete name' p') r' := sent_of_send sent'
    rw [first.body, second.body] at body
    exact DeleteOptions.eq_of_parameters_of_toJson
      (presentParameters_eq_of_uri plain plain' rfl rfl sent sent' same)
      (Json.eq_of_read_text p.integral_toJson p'.integral_toJson body)

/-- A list of the widgets whose label would be a limit too, were it not encoded. -/
def trickyList : ListOptions := { labelSelector := some "app=a&limit=5 #+é" }

/-- A replace whose manager would turn it into a rehearsal, were it not encoded. -/
def trickyReplace : Call := .replace "blog" { fieldManager := some "me&dryRun=All" } ""

/-- What an encoded parameter holds is no parameter of its own, and deletes with different options
differ in their bodies. -/
theorem parameters_survive_widgets : ∃ listed limited replaced rehearsed deleted hurried : Request,
    widgets.list trickyList = .ok listed ∧
      widgets.list { labelSelector := some "app=a", limit := some 5 } = .ok limited ∧
      widgets.send trickyReplace = .ok replaced ∧
      widgets.replace "blog" { dryRun := true, fieldManager := some "me" } "" = .ok rehearsed ∧
      widgets.delete "blog" {} = .ok deleted ∧
      widgets.delete "blog" { gracePeriodSeconds := some 0 } = .ok hurried ∧
      listed.uri.path = widgets.path ∧
      (∃ query, listed.uri.query = some query ∧
        FormEncoding.decodePairs query.toList = some [("labelSelector", "app=a&limit=5 #+é")]) ∧
      listed.uri ≠ limited.uri ∧ replaced.uri ≠ rehearsed.uri ∧ deleted.uri = hurried.uri ∧
      Json.Reader.read deleted.body ≠ Json.Reader.read hurried.body := by
  obtain ⟨decoded, lists, writes, deletes⟩ := parameters_survive
  have plain : ∀ call, (∀ name ∈ Call.name? call, IsPathText name.toList) → Plain widgets call :=
    fun _ names => ⟨rooted_widgets, names⟩
  have listed : widgets.list trickyList = .ok (widgetsRequest "GET" ""
      (some "&labelSelector=app%3Da%26limit%3D5+%23%2B%C3%A9") none) := by
    decide +kernel
  have limited : widgets.list { labelSelector := some "app=a", limit := some 5 } =
      .ok (widgetsRequest "GET" "" (some "&labelSelector=app%3Da&limit=5") none) := by
    decide +kernel
  have replaced : widgets.send trickyReplace =
      .ok (widgetsRequest "PUT" "/blog" (some "&fieldManager=me%26dryRun%3DAll") (some "")) := by
    decide +kernel
  have rehearsed : widgets.send (.replace "blog" { dryRun := true, fieldManager := some "me" } "") =
      .ok (widgetsRequest "PUT" "/blog" (some "&dryRun=All&fieldManager=me") (some "")) := by
    decide +kernel
  have deleted : widgets.delete "blog" {} =
      .ok (widgetsRequest "DELETE" "/blog" (some "") (some "\x7b\x7d")) := by
    decide +kernel
  have hurried : widgets.delete "blog" { gracePeriodSeconds := some 0 } =
      .ok (widgetsRequest "DELETE" "/blog" (some "")
        (some "\x7b\"gracePeriodSeconds\":0\x7d")) := by
    decide +kernel
  obtain ⟨path, query⟩ := decoded (plain (.list trickyList) nofun) rfl listed
  refine ⟨_, _, _, _, _, _, listed, limited, replaced, rehearsed, deleted, hurried, path, query,
    fun same => ?_, fun same => ?_, rfl, fun same => ?_⟩
  · exact absurd (lists rooted_widgets rooted_widgets listed limited same) (by decide)
  · exact absurd (writes (plain trickyReplace (by decide)) (plain _ (by decide)) rfl rfl replaced
      rehearsed same) (by decide)
  · exact absurd (deletes (plain _ (by decide)) (plain _ (by decide)) deleted hurried rfl same)
      (by decide)

end Collection

end KindResolution
