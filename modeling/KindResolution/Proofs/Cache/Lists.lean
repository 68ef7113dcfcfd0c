import KindResolution.Proofs.Cache.Transparency
import KindResolution.Proofs.Kind.ApiVersion
import KindResolution.Proofs.Scheme.Lists

/-!
# Lists resolve like their items

The record for a list is the record for its items: `Registry.lists_resolve_like_items`. A list is
found under the kind of lists of the kind of its items, whether a scheme knows it by its type or the
list declares it, and the suffix that makes a kind one of lists is taken off again before a client is
built and a mapping looked up. This needs a kind whose name is not empty, for what is left of the
name of its lists would be no name.
-/

namespace KindResolution

/-- Two outcomes are the same, or both report a type that is not known. -/
inductive SameOutcome {α : Type} : Except ResolveError α → Except ResolveError α → Prop where
  | refl (outcome) : SameOutcome outcome outcome
  | unknownType (name name') :
    SameOutcome (.error (.kind (.unknownType name))) (.error (.kind (.unknownType name')))

/-- An outcome that is the same as a success is that success. -/
lemma SameOutcome.eq_ok {α : Type} {outcome : Except ResolveError α} {result : α}
    (same : SameOutcome outcome (.ok result)) : outcome = .ok result := by
  cases same
  rfl

/-- The records for a list of a kind are those of the kind. -/
lemma recordKind_listKind {t : ObjectType} {kind : GroupVersionKind} (named : kind.kind ≠ "") :
    recordKind (.list t) kind.listKind = kind := by
  have item : kind.listKind.itemKind? = some kind :=
    GroupVersionKind.itemKind?_eq_some_iff.2 ⟨named, rfl⟩
  show kind.listKind.itemKind?.getD kind.listKind = kind
  rw [item]
  rfl

/-- The records for a single object are those of its own kind. -/
lemma recordKind_of_single {t : ObjectType} (single : t.isList = false) (kind : GroupVersionKind) :
    recordKind t kind = kind :=
  if_neg (by simp [single])

/-- A kind that is declared keeps the name that it is declared by. -/
lemma kind_of_kindDeclared {names : TypeMeta} {kind : GroupVersionKind}
    (declared : kindDeclared (some names) = .ok kind) : kind.kind = names.kind := by
  obtain ⟨_, ⟨⟩, _, read⟩ := kindDeclared_eq_ok_iff.1 declared
  rw [(TypeMeta.groupVersionKind_eq_ok_iff.1 read).1]
  rfl

/-- Names with a kind declare what they are read as. -/
lemma kindDeclared_of_named {names : TypeMeta} (named : names.kind ≠ "") :
    kindDeclared (some names) = names.groupVersionKind.mapError .malformedVersion :=
  if_neg named

/-- What lists of a kind declare is the kind of lists of what objects of the kind declare. -/
lemma kindDeclared_ofListKind {kind : GroupVersionKind} (named : kind.kind ≠ "") :
    kindDeclared (some (.ofListKind kind)) =
      (kindDeclared (some (.ofKind kind))).map GroupVersionKind.listKind := by
  have listNamed : (TypeMeta.ofListKind kind).kind ≠ "" := by
    intro empty
    have letters := congrArg String.toList empty
    rw [TypeMeta.ofListKind, TypeMeta.ofKind, GroupVersionKind.listKind, String.toList_append]
      at letters
    exact absurd (List.append_eq_nil_iff.1 letters).2 (by decide)
  rw [kindDeclared_of_named listNamed, kindDeclared_of_named named]
  -- both declare the same version, which is read or refused
  unfold TypeMeta.groupVersionKind
  show Except.mapError _ (Except.bind (GroupVersion.parse kind.apiVersion) _) =
    Except.map _ (Except.mapError _ (Except.bind (GroupVersion.parse kind.apiVersion) _))
  cases GroupVersion.parse kind.apiVersion <;> rfl

namespace Registry

/-- Whether the kind of an object and that of a list are known or not, they resolve alike if the list
is of the kind of lists of the kind of the object. -/
lemma firstOutcome_list {r : Registry} {config : Config} {t : ObjectType} {l : Object (.list t)}
    {o : Object t} {kind : GroupVersionKind} (single : t.isList = false) (named : kind.kind ≠ "")
    (known : r.scheme.kindOf o = .ok kind) (listed : r.scheme.kindOf l = .ok kind.listKind) :
    r.firstOutcome config l = r.firstOutcome config o := by
  rw [firstOutcome_eq, firstOutcome_eq]
  apply Collaborators.assemble_eq_of_recordKind listed known
  · exact Codec.ofType_eq_iff.2 rfl
  · rw [recordKind_listKind named, recordKind_of_single single]

/-- A list whose items are known by their type resolves like one of its items, as long as the scheme
keeps types and the types of their lists in step. -/
lemma firstOutcome_list_of_type {r : Registry} (pair : r.scheme.Paired) (config : Config)
    {t : ObjectType} (single : t.isList = false) (typed : t.declaresKind = false)
    (named : ∀ kind, r.scheme.find? t = some kind → kind.kind ≠ "") (l : Object (.list t))
    (o : Object t) : SameOutcome (r.firstOutcome config l) (r.firstOutcome config o) := by
  have item := r.scheme.kindOf_of_not_declares o typed
  have list := r.scheme.kindOf_of_not_declares l typed
  rw [pair t single] at list
  cases found : r.scheme.find? t with
  | none =>
    rw [found] at item list
    rw [firstOutcome_eq, firstOutcome_eq, Collaborators.assemble_of_kindOf_error list,
      Collaborators.assemble_of_kindOf_error item]
    exact .unknownType _ _
  | some kind =>
    rw [found] at item list
    rw [firstOutcome_list single (named kind found) item list]
    exact .refl _

/-- A list that declares the kind of lists of a kind resolves like an object that declares the kind. -/
lemma firstOutcome_list_of_declared (r : Registry) (config : Config) {kind : GroupVersionKind}
    (named : kind.kind ≠ "") {l : Object (.list .dynamic)} {o : Object .dynamic}
    (listed : l.typeMeta? = some (.ofListKind kind)) (declared : o.typeMeta? = some (.ofKind kind)) :
    r.firstOutcome config l = r.firstOutcome config o := by
  have item := r.scheme.kindOf_of_declares o rfl
  have list := r.scheme.kindOf_of_declares l rfl
  rw [declared] at item
  rw [listed, kindDeclared_ofListKind named, ← item] at list
  cases known : r.scheme.kindOf o with
  | error e =>
    rw [known] at list
    rw [firstOutcome_eq, firstOutcome_eq, Collaborators.assemble_of_kindOf_error list,
      Collaborators.assemble_of_kindOf_error known]
  | ok found =>
    -- the group and version that are read may be others, but the name of the kind is kept
    have name : found.kind = kind.kind := kind_of_kindDeclared (item.symm.trans known)
    rw [known] at list
    exact firstOutcome_list rfl (by rw [name]; exact named) known list

/-- A list of objects resolves as one of the objects does, be its type paired with theirs in the
scheme or the kind of lists declared. -/
theorem lists_resolve_like_items (history : List Scheme.Change)
    (single : ∀ c ∈ history, c.type.isList = false) (mapper : RestMapper) (config : Config) :
    (∀ t : ObjectType, t.isList = false →
      (Scheme.after {} history).find? (.list t) =
        ((Scheme.after {} history).find? t).map GroupVersionKind.listKind) ∧
    (∀ t : ObjectType, t.isList = false → t.declaresKind = false →
      (∀ kind, (Scheme.after {} history).find? t = some kind → kind.kind ≠ "") →
      ∀ (l : Object (.list t)) (o : Object t),
        SameOutcome (firstOutcome ⟨Scheme.after {} history, mapper⟩ config l)
          (firstOutcome ⟨Scheme.after {} history, mapper⟩ config o)) ∧
    (∀ (name : String) (kind : GroupVersionKind), kind.kind ≠ "" →
      ∀ l : Object (.list .dynamic), l.typeMeta? = some (.ofListKind kind) →
        firstOutcome ⟨Scheme.after {} history, mapper⟩ config l =
          firstOutcome ⟨Scheme.after {} history, mapper⟩ config
            (show Object .dynamic from DynamicObject.ofName name kind)) := by
  have pair : (Scheme.after {} history).Paired := Scheme.Paired.empty.after single
  refine ⟨pair, ?_, ?_⟩
  · intro t plain typed named l o
    exact firstOutcome_list_of_type pair config plain typed named l o
  · intro name kind named l listed
    exact firstOutcome_list_of_declared _ config named listed rfl

/-- Widgets are added twice. The kind that counts has the name of one of lists itself. -/
def relistedWidgets : List Scheme.Change :=
  [.insert Widgets.type ⟨"apps", "v1beta1", "Widget"⟩, .insertType .pod,
    .insert Widgets.type Widgets.kind.listKind]

/-- A list of widgets resolves to the record of a widget, which is that of the kind added last, and
a list of pods fails as a pod does. -/
theorem lists_resolve_like_items_widgets :
    (∃ m, firstOutcome ⟨Scheme.after {} relistedWidgets, Widgets.registry.mapper⟩ Widgets.config
          (show Object (.list Widgets.type) from ObjectList.ofItems [Widgets.typed]) = .ok m ∧
        firstOutcome ⟨Scheme.after {} relistedWidgets, Widgets.registry.mapper⟩ Widgets.config
          Widgets.typed = .ok m ∧
        m.kind = Widgets.kind.listKind ∧ m.plural = "widgetlists") ∧
      SameOutcome
        (firstOutcome ⟨Scheme.after {} relistedWidgets, Widgets.registry.mapper⟩ Widgets.config
          (show Object (.list (.api .pod)) from ObjectList.ofItems []))
        (firstOutcome ⟨Scheme.after {} relistedWidgets, Widgets.registry.mapper⟩ Widgets.config
          (show Object (.api .pod) from ApiObject.ofMeta .pod {})) ∧
      firstOutcome ⟨Scheme.after {} relistedWidgets, Widgets.registry.mapper⟩ Widgets.config
          Widgets.list =
        firstOutcome ⟨Scheme.after {} relistedWidgets, Widgets.registry.mapper⟩ Widgets.config
          (show Object .dynamic from DynamicObject.ofName "blog" Widgets.kind) := by
  obtain ⟨_, typed, declared⟩ := lists_resolve_like_items relistedWidgets (by decide)
    Widgets.registry.mapper Widgets.config
  have widgets : (Scheme.after {} relistedWidgets).find? Widgets.type =
      some Widgets.kind.listKind := by decide
  have pods : (Scheme.after {} relistedWidgets).find? (.api .pod) = some ApiType.pod.kind := by
    decide
  refine ⟨?_, typed _ rfl rfl ?_ _ _, declared "blog" Widgets.kind (by decide) _ rfl⟩
  · have same := typed Widgets.type rfl rfl (by rw [widgets]; rintro _ ⟨⟩; decide)
      (show Object (.list Widgets.type) from ObjectList.ofItems [Widgets.typed]) Widgets.typed
    have shown : (firstOutcome ⟨Scheme.after {} relistedWidgets, Widgets.registry.mapper⟩
        Widgets.config Widgets.typed).toOption.map (fun m => (m.kind, m.plural)) =
          some (Widgets.kind.listKind, "widgetlists") := by decide
    cases item : firstOutcome ⟨Scheme.after {} relistedWidgets, Widgets.registry.mapper⟩
        Widgets.config Widgets.typed with
    | error e =>
      rw [item] at shown
      cases shown
    | ok m =>
      rw [item] at same shown
      have parts := Option.some.inj shown
      exact ⟨m, same.eq_ok, rfl, congrArg Prod.fst parts, congrArg Prod.snd parts⟩
  · rw [pods]
    rintro _ ⟨⟩
    decide

end Registry

end KindResolution
