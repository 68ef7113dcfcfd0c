import KindResolution.RestMapper.History
import Mathlib.Tactic.Lemma

/-!
# Consistency of mappers

A mapper is consistent if every kind that it knows is mapped to a resource of its own group and
version. The empty mapper is consistent, and `Consistent.change` shows that each of the ways in which
a mapper is filled keeps it so, hence `Consistent.after` a whole history.
-/

namespace KindResolution.RestMapper

/-- Every kind is mapped to a resource of its own group and version. -/
def Consistent (m : RestMapper) : Prop :=
  ∀ kind mapping, m.mappings.find? kind = some mapping →
    ∃ plural scope, mapping = .ofPlural kind plural scope

/-- The empty mapper is consistent. -/
lemma Consistent.empty : Consistent {} := by
  intro kind mapping found
  cases found

/-- To add a kind keeps a mapper consistent. -/
lemma Consistent.insert {m kind plural scope} (con : Consistent m) :
    Consistent (m.insert kind plural scope) := by
  intro k mapping found
  simp only [RestMapper.insert, Table.find?_insert] at found
  split at found
  · next e =>
    cases found
    exact ⟨plural, scope, by rw [e]⟩
  · exact con k mapping found

/-- To add a kind under its regular plural keeps a mapper consistent. -/
lemma Consistent.insertRegular {m kind scope} (con : Consistent m) :
    Consistent (m.insertRegular kind scope) :=
  con.insert

/-- A resource of a list keeps a mapper consistent, whatever group and version it names. -/
lemma Consistent.insertServed {m gv r} (con : Consistent m) : Consistent (insertServed gv m r) := by
  unfold RestMapper.insertServed
  split
  · exact con
  · exact con.insert

/-- The resources of a list keep a mapper consistent, one after the other. -/
lemma Consistent.insertResources {gv m} (resources : List ServedResource) (con : Consistent m) :
    Consistent (resources.foldl (RestMapper.insertServed gv) m) := by
  induction resources generalizing m with
  | nil => exact con
  | cons r rest ih => exact ih con.insertServed

/-- To add a list keeps a mapper consistent. -/
lemma Consistent.insertList {m l m'} (con : Consistent m) (ok : m.insertList l = .ok m') :
    Consistent m' := by
  unfold RestMapper.insertList at ok
  cases parsed : GroupVersion.parse l.groupVersion with
  | error e => rw [parsed] at ok; cases ok
  | ok gv =>
    rw [parsed] at ok
    cases ok
    exact con.insertResources l.resources

/-- Every change keeps a mapper consistent. -/
lemma Consistent.change {m} (con : Consistent m) (c : Change) : Consistent (m.change c) := by
  cases c with
  | insert kind plural scope => exact con.insert
  | insertRegular kind scope => exact con.insertRegular
  | insertType type => exact con.insert
  | insertList list =>
    cases ok : m.insertList list with
    | ok m' =>
      simp only [RestMapper.change, ok]
      exact con.insertList ok
    | error e =>
      simp only [RestMapper.change, ok]
      exact con

/-- A mapper is consistent after every history. -/
theorem Consistent.after {m} (con : Consistent m) (history : List Change) :
    Consistent (m.after history) := by
  induction history generalizing m with
  | nil => exact con
  | cons c rest ih => exact ih (con.change c)

end KindResolution.RestMapper
