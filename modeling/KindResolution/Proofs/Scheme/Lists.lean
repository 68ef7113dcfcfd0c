import KindResolution.Scheme.History
import Mathlib.Tactic.Lemma

/-!
# Types and the types of their lists

Whoever adds a type adds the type of its lists as well, so the two stay in step: `Scheme.Paired.after`.
That they do when a type is added again depends on the types that are added not being types of lists
themselves, for such a type would take the place of the lists of its items.
-/

namespace KindResolution.Scheme

/-- The lists of a type that is no type of lists are known under the kind of lists of its kind, and
not at all if the type is not. -/
def Paired (s : Scheme) : Prop :=
  ∀ t : ObjectType, t.isList = false →
    s.find? (.list t) = (s.find? t).map GroupVersionKind.listKind

/-- A type that is added is found under its kind, and the type of its lists under the kind of lists
of that. -/
lemma find?_insert (s : Scheme) (t other : ObjectType) (kind : GroupVersionKind) :
    (s.insert t kind).find? other =
      if other = t then some kind
      else if other = .list t then some kind.listKind
      else s.find? other := by
  simp only [Scheme.find?, Scheme.insert, Table.find?_insert]

/-- The kind of an object whose type says it is what the scheme holds under the type. -/
lemma kindOf_of_not_declares (s : Scheme) {t : ObjectType} (o : Object t)
    (typed : t.declaresKind = false) :
    s.kindOf o = (s.find? t).elim (.error (.unknownType t.name)) .ok := by
  rw [kindOf, o.identity_of_not_declares typed]
  dsimp only
  cases s.find? t with
  | none => rfl
  | some kind => rfl

/-- A type of single objects is no type of lists. -/
lemma ne_list_of_isList {t other : ObjectType} (single : t.isList = false) : t ≠ .list other := by
  rintro rfl
  cases single

/-- The empty scheme pairs kinds with their lists. -/
lemma Paired.empty : Paired {} :=
  fun _ _ => rfl

/-- A type that is no type of lists takes no place but its own and that of its lists. -/
lemma Paired.insert {s : Scheme} {t kind} (pair : Paired s) (single : t.isList = false) :
    Paired (s.insert t kind) := by
  intro other otherSingle
  -- without this the lists of a type could be added as a type of their own, under any kind
  have listNe : ObjectType.list other ≠ t := (ne_list_of_isList single).symm
  have otherNe : other ≠ .list t := ne_list_of_isList otherSingle
  rw [find?_insert, find?_insert, if_neg listNe, if_neg otherNe]
  by_cases same : other = t
  · rw [if_pos (by rw [same]), if_pos same]
    rfl
  · rw [if_neg (by simpa using same), if_neg same]
    exact pair other otherSingle

/-- To add single types keeps kinds and lists paired. -/
lemma Paired.change {s : Scheme} (pair : Paired s) {c : Change} (single : c.type.isList = false) :
    Paired (s.change c) := by
  cases c with
  | insert t kind => exact pair.insert single
  | insertType t => exact pair.insert single

/-- Types and the types of their lists stay in step through a history. -/
theorem Paired.after {s : Scheme} (pair : Paired s) {history : List Change}
    (single : ∀ c ∈ history, c.type.isList = false) : Paired (s.after history) := by
  induction history generalizing s with
  | nil => exact pair
  | cons c rest ih =>
    rw [List.forall_mem_cons] at single
    exact ih (pair.change single.1) single.2

end KindResolution.Scheme
