import KindResolution.Proofs.Cache.Filling
import Mathlib.Data.List.Nodup

/-!
# Which keys a cache holds

What a record is can depend on who asked first, but whether there is one cannot. A place is filled
exactly if some call of the history asks for it and a record can be built for that call
(`Cache.isSome_find?_after_iff`), and this does not depend on the order of the calls:
`Registry.sameKeys_of_perm`.
-/

namespace KindResolution

variable {C : Type}

/-- Tables that contain the same keys list them up to their order. -/
lemma Table.keys_perm_of_contains {κ α β : Type} [DecidableEq κ] {t : Table κ α} {t' : Table κ β}
    (same : ∀ key, t.contains key = t'.contains key) : t.keys.Perm t'.keys := by
  apply (List.perm_ext_iff_of_nodup t.nodup t'.nodup).2
  intro key
  show key ∈ t.keys ↔ key ∈ t'.keys
  rw [Table.mem_keys_iff, Table.mem_keys_iff, same]

/-- Tables with the same keys in some order have one size. -/
lemma Table.size_eq_of_keys_perm {κ α β : Type} {t : Table κ α} {t' : Table κ β}
    (perm : t.keys.Perm t'.keys) : t.size = t'.size := by
  have lengths := perm.length_eq
  simp only [Table.keys, List.length_map] at lengths
  exact lengths

namespace Cache

/-- Two caches hold records for the same types and for the same kinds. -/
structure SameKeys (c c' : Cache C) : Prop where
  types : c.byType.keys.Perm c'.byType.keys
  kinds : c.byKind.keys.Perm c'.byKind.keys
  typeCount : c.typeCount = c'.typeCount
  kindCount : c.kindCount = c'.kindCount
  knowsType : ∀ t, c.knowsType t = c'.knowsType t
  knowsKind : ∀ kind, c.knowsKind kind = c'.knowsKind kind

/-- Caches that hold something under the same keys have the same keys. -/
lemma SameKeys.of_find? {c c' : Cache C}
    (same : ∀ key, (c.find? key).isSome = (c'.find? key).isSome) : c.SameKeys c' := by
  have types : c.byType.keys.Perm c'.byType.keys :=
    Table.keys_perm_of_contains fun t => same (.type t)
  have kinds : c.byKind.keys.Perm c'.byKind.keys :=
    Table.keys_perm_of_contains fun kind => same (.kind kind)
  exact ⟨types, kinds, Table.size_eq_of_keys_perm types, Table.size_eq_of_keys_perm kinds,
    fun t => same (.type t), fun kind => same (.kind kind)⟩

/-- A place is filled after a history exactly if it was filled before, or some call asks for it and
a record can be built for the call. -/
lemma isSome_find?_after_iff (c : Cache C) (w : Collaborators C) (history : List CacheCall)
    (key : CacheKey) :
    ((c.after w history).find? key).isSome = true ↔
      (c.find? key).isSome = true ∨
        ∃ call ∈ history, call.place w = .ok key ∧
          ∃ m, (w.assemble c.config call.object).outcome = .ok m := by
  -- what is known of a history are its records, without their numbers
  have records : ∀ c : Cache C, (c.find? key).isSome = (c.record? key).isSome := by
    intro c
    rw [record?, Option.isSome_map]
  rw [records, records, record?_after, Option.isSome_or, Bool.or_eq_true,
    List.findSome?_isSome_iff]
  apply or_congr_right
  constructor
  · rintro ⟨call, member, contributes⟩
    obtain ⟨m, contributed⟩ := Option.isSome_iff_exists.1 contributes
    obtain ⟨asked, built⟩ := CacheCall.contribution_eq_some_iff.1 contributed
    exact ⟨call, member, asked, m, built⟩
  · rintro ⟨call, member, asked, m, built⟩
    refine ⟨call, member, Option.isSome_iff_exists.2 ⟨m, ?_⟩⟩
    exact CacheCall.contribution_eq_some_iff.2 ⟨asked, built⟩

end Cache

namespace Registry

/-- The same calls in another order fill the same places: those that some call asks for with a
record that can be built. -/
theorem sameKeys_of_perm (r : Registry) (config : Config) (history history' : List CacheCall)
    (permuted : history.Perm history') :
    (∀ key, ((r.cacheAfter config history).find? key).isSome = true ↔
        ∃ call ∈ history, call.place r.collaborators = .ok key ∧
          ∃ m, (r.collaborators.assemble config call.object).outcome = .ok m) ∧
      (r.cacheAfter config history).SameKeys (r.cacheAfter config history') := by
  have filled : ∀ calls key, ((r.cacheAfter config calls).find? key).isSome = true ↔
      ∃ call ∈ calls, call.place r.collaborators = .ok key ∧
        ∃ m, (r.collaborators.assemble config call.object).outcome = .ok m := by
    intro calls key
    rw [cacheAfter, Cache.isSome_find?_after_iff]
    simp
  refine ⟨filled history, .of_find? fun key => Bool.eq_iff_iff.2 ?_⟩
  rw [filled history key, filled history' key]
  simp only [permuted.mem_iff]

end Registry

namespace Widgets

/-- A history in which some calls fail, and others find their place filled by an object of another
type or with another codec. -/
def mixedHistory : List CacheCall :=
  [⟨.byKind, type, typed⟩, ⟨.resolve, .dynamic, dynamic ⟨"apps", "v1", "Gadget"⟩⟩,
    ⟨.resolve, .dynamic, dynamic kind⟩, ⟨.objectMeta, .list .dynamic, list⟩,
    ⟨.resolve, .dynamic, dynamic kind.listKind⟩, ⟨.objectMeta, type, typed⟩]

end Widgets

/-- Read backwards, the history leaves one type and two kinds all the same. -/
theorem Registry.sameKeys_of_reversed_widgets :
    (Widgets.cache Widgets.mixedHistory).SameKeys (Widgets.cache Widgets.mixedHistory.reverse) ∧
      (Widgets.cache Widgets.mixedHistory.reverse).typeCount = 1 ∧
      (Widgets.cache Widgets.mixedHistory.reverse).kindCount = 2 := by
  have permuted : Widgets.mixedHistory.Perm Widgets.mixedHistory.reverse :=
    (List.reverse_perm _).symm
  exact ⟨(Registry.sameKeys_of_perm Widgets.registry Widgets.config _ _ permuted).2, by decide,
    by decide⟩

end KindResolution
