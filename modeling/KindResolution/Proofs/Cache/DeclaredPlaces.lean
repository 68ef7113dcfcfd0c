import KindResolution.Proofs.Cache.Filling
import KindResolution.Proofs.Kind.ApiVersion

/-!
# Places of objects that declare their kind

An object that declares its kind is remembered under what is read from its names. Reading is exact:
`TypeMeta.groupVersionKind_exact` says which texts are read and that nothing is lost, neither from
what is read nor from what is refused. So objects with different names are never given one place.
-/

namespace KindResolution

variable {C : Type}

/-- The place of an object that declares its kind tells the names that the object carries. -/
lemma CacheCall.typeMeta?_of_place {w : Collaborators C} {call : CacheCall} {kind}
    (declares : call.type.declaresKind = true) (asked : call.place w = .ok (.kind kind)) :
    call.object.typeMeta? = some (.ofKind kind) := by
  have key := kindKey_of_place asked
  rw [Cache.kindKey, call.object.identity_of_declares declares, mapError_eq_ok_iff,
    kindDeclared_eq_ok_iff] at key
  obtain ⟨names, carried, _, read⟩ := key
  rw [carried, (TypeMeta.groupVersionKind_eq_ok_iff.1 read).1]

/-- The names of a type are read as a kind exactly if they are those of one that is well-named, and
then as no other. -/
theorem TypeMeta.groupVersionKind_exact :
    (∀ (s : String) (gv : GroupVersion),
      GroupVersion.parse s = .ok gv ↔ s = gv.apiVersion ∧ gv.WellNamed) ∧
    (∀ (s : String) (e : MalformedApiVersion), GroupVersion.parse s = .error e → e.text = s) ∧
    (∀ (names : TypeMeta) (kind : GroupVersionKind),
      names.groupVersionKind = .ok kind → ofKind kind = names) ∧
    (∀ kind : GroupVersionKind,
      (ofKind kind).groupVersionKind = .ok kind ↔ kind.groupVersion.WellNamed) ∧
    (∀ (names names' : TypeMeta) (kind kind' : GroupVersionKind), names ≠ names' →
      names.groupVersionKind = .ok kind → names'.groupVersionKind = .ok kind' → kind ≠ kind') ∧
    (∀ {C : Type} (w : Collaborators C) (call call' : CacheCall) (kind kind' : GroupVersionKind),
      call.type.declaresKind = true → call'.type.declaresKind = true →
      call.object.typeMeta? ≠ call'.object.typeMeta? →
      call.place w = .ok (.kind kind) → call'.place w = .ok (.kind kind') → kind ≠ kind') := by
  have back : ∀ (names : TypeMeta) (kind : GroupVersionKind),
      names.groupVersionKind = .ok kind → ofKind kind = names := by
    intro names kind read
    exact (groupVersionKind_eq_ok_iff.1 read).1.symm
  refine ⟨fun _ _ => GroupVersion.parse_eq_ok_iff, fun _ _ => GroupVersion.text_of_parse, back,
    ?_, ?_, ?_⟩
  · intro kind
    rw [groupVersionKind_eq_ok_iff, and_iff_right rfl]
  · rintro names names' kind _ ne read read' rfl
    exact ne ((back names kind read).symm.trans (back names' kind read'))
  · rintro C w call call' kind _ declares declares' ne asked asked' rfl
    apply ne
    rw [CacheCall.typeMeta?_of_place declares asked, CacheCall.typeMeta?_of_place declares' asked']

/-- The names of a widget are those of the kind read from them, and a widget and a list of widgets
have two places. -/
theorem TypeMeta.groupVersionKind_exact_widgets :
    ofKind Widgets.kind = ⟨"apps/v1", "Widget"⟩ ∧
      (∃ e, GroupVersion.parse "a/b/c" = .error e ∧ e.text = "a/b/c") ∧
      CacheCall.place Widgets.online ⟨.resolve, .dynamic, Widgets.dynamic Widgets.kind⟩ =
        .ok (.kind Widgets.kind) ∧
      CacheCall.place Widgets.online ⟨.resolve, .list .dynamic, Widgets.list⟩ =
        .ok (.kind Widgets.kind.listKind) ∧
      Widgets.kind ≠ Widgets.kind.listKind := by
  obtain ⟨_, refused, back, _, _, places⟩ := groupVersionKind_exact
  have widget : CacheCall.place Widgets.online
      ⟨.resolve, .dynamic, Widgets.dynamic Widgets.kind⟩ = .ok (.kind Widgets.kind) := by decide
  have list : CacheCall.place Widgets.online
      ⟨.resolve, .list .dynamic, Widgets.list⟩ = .ok (.kind Widgets.kind.listKind) := by decide
  have slashes : GroupVersion.parse "a/b/c" = .error ⟨"a/b/c"⟩ := by decide
  refine ⟨back ⟨"apps/v1", "Widget"⟩ Widgets.kind (by decide), ⟨_, slashes, refused _ _ slashes⟩,
    widget, list, ?_⟩
  exact places Widgets.online _ _ _ _ rfl rfl (by decide) widget list

end KindResolution
