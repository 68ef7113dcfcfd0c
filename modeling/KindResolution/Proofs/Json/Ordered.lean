import KindResolution.Json.Decode
import KindResolution.Proofs.Json.Members
import KindResolution.Proofs.Outcome
import Mathlib.Data.List.Perm.Basic
import Mathlib.Data.List.Perm.Lattice

/-!
# Ordered values

An ordered object is what is found under its keys (`Entries.eq_of_find?`). Bringing a value into
order leaves one that is in order already as it is (`normalize_of_ordered`), and that is all that
decoding a value as any value does (`any_ofJson`).
-/

namespace KindResolution

namespace Entries

variable {α : Type}

/-- No entry comes twice in a sorted list. -/
lemma Sorted.nodup {entries : List (String × α)} (sorted : Sorted entries) : entries.Nodup := by
  apply List.Pairwise.imp _ sorted
  rintro a b lt rfl
  exact String.lt_irrefl _ lt

/-- In a sorted list the first key does not come again. -/
lemma Sorted.find?_head {entry : String × α} {rest : List (String × α)}
    (sorted : Sorted (entry :: rest)) : find? entry.1 rest = none := by
  rw [find?_eq_none_iff]
  intro other member same
  have above := (List.pairwise_cons.1 sorted).1 other member
  exact String.lt_irrefl _ (same ▸ above)

/-- What is found is an entry. -/
lemma mem_of_find? {key : String} {value : α} {entries : List (String × α)}
    (found : find? key entries = some value) : (key, value) ∈ entries := by
  induction entries with
  | nil => cases found
  | cons entry rest ih =>
    obtain ⟨k, v⟩ := entry
    rw [find?] at found
    split at found
    · next same =>
      cases same
      cases found
      exact List.mem_cons_self
    · exact List.mem_cons_of_mem _ (ih found)

/-- Every entry of a sorted list is found under its key. -/
lemma find?_of_mem {entry : String × α} {entries : List (String × α)} (sorted : Sorted entries)
    (member : entry ∈ entries) : find? entry.1 entries = some entry.2 := by
  induction entries with
  | nil => cases member
  | cons first rest ih =>
    obtain ⟨above, sortedRest⟩ := List.pairwise_cons.1 sorted
    obtain rfl | member := List.mem_cons.1 member
    · exact if_pos rfl
    · have lt := above entry member
      rw [find?, if_neg, ih sortedRest member]
      intro same
      exact String.lt_irrefl _ (same ▸ lt)

/-- Sorted lists in which the same is found under every key are the same. -/
lemma eq_of_find? {entries entries' : List (String × α)} (sorted : Sorted entries)
    (sorted' : Sorted entries') (found : ∀ key, find? key entries = find? key entries') :
    entries = entries' := by
  have perm : entries.Perm entries' := by
    apply (List.perm_ext_iff_of_nodup sorted.nodup sorted'.nodup).2
    intro entry
    constructor
    · intro member
      exact mem_of_find? ((found entry.1).symm.trans (find?_of_mem sorted member))
    · intro member
      exact mem_of_find? ((found entry.1).trans (find?_of_mem sorted' member))
  apply perm.eq_of_pairwise _ sorted sorted'
  intro a b _ _ lt gt
  exact absurd (String.lt_trans lt gt) (String.lt_irrefl _)

/-- Entries that are sorted already are stored as they stand. -/
lemma insertAll_of_sorted {entries : List (String × α)} (sorted : Sorted entries) :
    insertAll [] entries = entries := by
  apply eq_of_find? (Sorted.insertAll List.Pairwise.nil entries) sorted
  intro key
  rw [find?_insertAll List.Pairwise.nil, find?_reverse sorted]
  exact Option.or_none

/-- An insertion adds no other entry than its own. -/
lemma mem_of_mem_insert {key : String} {value : α} {entry : String × α}
    {entries : List (String × α)} (member : entry ∈ insert key value entries) :
    entry = (key, value) ∨ entry ∈ entries := by
  induction entries with
  | nil => exact .inl (List.mem_singleton.1 member)
  | cons first rest ih =>
    unfold insert at member
    split at member
    · exact List.mem_cons.1 member
    · split at member
      · obtain e | old := List.mem_cons.1 member
        · exact .inl e
        · exact .inr (List.mem_cons_of_mem _ old)
      · obtain rfl | member := List.mem_cons.1 member
        · exact .inr List.mem_cons_self
        · exact (ih member).imp_right (List.mem_cons_of_mem _)

/-- Insertions add no other entries than their own. -/
lemma mem_of_mem_insertAll {entry : String × α} {entries new : List (String × α)}
    (member : entry ∈ insertAll entries new) : entry ∈ new ∨ entry ∈ entries := by
  induction new generalizing entries with
  | nil => exact .inr member
  | cons first rest ih =>
    obtain new | old := ih member
    · exact .inl (List.mem_cons_of_mem _ new)
    · obtain rfl | old := mem_of_mem_insert old
      · exact .inl List.mem_cons_self
      · exact .inr old

end Entries

namespace Json

/-- Members are ordered if all their values are. -/
lemma orderedMembers_iff {members : List (String × Json)} :
    OrderedMembers members ↔ ∀ member ∈ members, member.2.Ordered := by
  induction members with
  | nil => simp [OrderedMembers]
  | cons member rest ih => simp [OrderedMembers, ih]

mutual

/-- The ordered form of a value is ordered. -/
theorem ordered_normalize : ∀ v : Json, v.normalize.Ordered
  | .null | .bool _ | .number _ | .string _ => trivial
  | .array elements => orderedElements_normalizeElements elements
  | .object members => by
    refine ⟨Entries.Sorted.insertAll List.Pairwise.nil _, orderedMembers_iff.2 ?_⟩
    intro member stored
    obtain new | none := Entries.mem_of_mem_insertAll stored
    · exact orderedMembers_iff.1 (orderedMembers_normalizeMembers members) member new
    · cases none

/-- So are the ordered forms of elements. -/
theorem orderedElements_normalizeElements :
    ∀ elements : List Json, OrderedElements (normalizeElements elements)
  | [] => trivial
  | element :: rest => ⟨ordered_normalize element, orderedElements_normalizeElements rest⟩

/-- So are the ordered forms of members. -/
theorem orderedMembers_normalizeMembers :
    ∀ members : List (String × Json), OrderedMembers (normalizeMembers members)
  | [] => trivial
  | (_, value) :: rest => ⟨ordered_normalize value, orderedMembers_normalizeMembers rest⟩

end

mutual

/-- An ordered value is its own ordered form. -/
theorem normalize_of_ordered : ∀ {v : Json}, v.Ordered → v.normalize = v
  | .null, _ | .bool _, _ | .number _, _ | .string _, _ => rfl
  | .array _, ordered => congrArg array (normalizeElements_of_ordered ordered)
  | .object _, ⟨sorted, ordered⟩ => by
    rw [normalize, normalizeMembers_of_ordered ordered, Entries.insertAll_of_sorted sorted]

/-- Ordered elements are their own ordered forms. -/
theorem normalizeElements_of_ordered :
    ∀ {elements : List Json}, OrderedElements elements → normalizeElements elements = elements
  | [], _ => rfl
  | _ :: _, ⟨first, others⟩ => by
    rw [normalizeElements, normalize_of_ordered first, normalizeElements_of_ordered others]

/-- Ordered members are their own ordered forms. -/
theorem normalizeMembers_of_ordered :
    ∀ {members : List (String × Json)}, OrderedMembers members → normalizeMembers members = members
  | [], _ => rfl
  | (_, _) :: _, ⟨first, others⟩ => by
    rw [normalizeMembers, normalize_of_ordered first, normalizeMembers_of_ordered others]

end

/-- What is found among ordered members is in order. -/
lemma map_normalize_find? {members : List (String × Json)} (ordered : OrderedMembers members)
    (key : String) : (Entries.find? key members).map normalize = Entries.find? key members := by
  cases found : Entries.find? key members with
  | none => rfl
  | some value =>
    have member := orderedMembers_iff.1 ordered _ (Entries.mem_of_find? found)
    exact congrArg some (normalize_of_ordered member)

/-- Some of the members of an ordered object make an ordered object. -/
lemma Ordered.sublist {members left : List (String × Json)} (ordered : (object members).Ordered)
    (sublist : left.Sublist members) : (object left).Ordered := by
  refine ⟨List.Pairwise.sublist sublist ordered.1, orderedMembers_iff.2 ?_⟩
  intro member isLeft
  exact orderedMembers_iff.1 ordered.2 member (sublist.subset isLeft)

mutual

/-- Any value is decoded as its ordered form. -/
theorem any_ofJson : ∀ v : Json, Decoder.any .value (.ofJson v) = .ok v.normalize
  | .null | .bool _ | .number _ | .string _ => by
    simp only [Document.ofJson, Decoder.any, normalize]
  | .array elements => by
    rw [Document.ofJson, Decoder.any]
    show Except.bind (Decoder.anyElements .value (Document.ofElements elements)) _ = _
    rw [anyElements_ofElements elements]
    rfl
  | .object members => by
    rw [Document.ofJson, Decoder.any]
    show Except.bind (Decoder.anyMembers .value (Document.ofMembers members)) _ = _
    rw [anyMembers_ofMembers members]
    rfl

/-- Any elements are decoded as their ordered forms. -/
theorem anyElements_ofElements : ∀ elements : List Json,
    Decoder.anyElements .value (Document.ofElements elements) = .ok (normalizeElements elements)
  | [] => rfl
  | element :: rest => by
    simp only [Document.ofElements, Decoder.anyElements, any_ofJson element,
      anyElements_ofElements rest, normalizeElements]
    rfl

/-- Any members are decoded as their ordered forms. -/
theorem anyMembers_ofMembers : ∀ members : List (String × Json),
    Decoder.anyMembers .value (Document.ofMembers members) = .ok (normalizeMembers members)
  | [] => rfl
  | (key, value) :: rest => by
    simp only [Document.ofMembers, Decoder.anyMembers, readKey, any_ofJson value,
      anyMembers_ofMembers rest, normalizeMembers]
    rfl

end

end Json

end KindResolution
