import KindResolution.KindRecord
import KindResolution.Proofs.Collection.Parameters

/-!
# Label selectors

What a selector of labels selects by can be read off it: the parts between commas are labels, each
cut at its first equals sign (`ListOptions.labelsOf`). If no key of the labels holds a comma or an
equals sign and no value a comma, the selector that is made for them says exactly which they are
(`ListOptions.denotes_matchingLabels`), and so does the address of the list of objects with the
labels of an object: `ResolvedObject.labels_survive`.
-/

namespace KindResolution

open Http Text

namespace ListOptions

/-- Cuts a part of a selector at its first equals sign. -/
def cutLabel (part : List Char) : String × String :=
  (String.ofList (part.takeWhile (· != '=')), String.ofList ((part.dropWhile (· != '=')).drop 1))

/-- The labels that a selector selects by, one for each part between commas. -/
def labelsOf (selector : String) : List (String × String) :=
  (FormEncoding.splitAt ',' selector.toList).map cutLabel

/-- Labels whose keys and values do not hold what separates them in a selector. -/
def PlainLabels (labels : SortedMap String) : Prop :=
  ∀ label ∈ labels.entries,
    ',' ∉ label.1.toList ∧ '=' ∉ label.1.toList ∧ ',' ∉ label.2.toList

/-- A selector, or none, says which labels are selected by. -/
def Denotes (labels : SortedMap String) : Option String → Prop
  | none => labels.entries = []
  | some selector => labels.entries ≠ [] ∧ labelsOf selector = labels.entries

/-- The text of one label in a selector. -/
def labelText (label : String × String) : List Char :=
  label.1.toList ++ '=' :: label.2.toList

/-- A label is read off its text if there is no equals sign in its key. -/
lemma cutLabel_labelText {label : String × String} (key : '=' ∉ label.1.toList) :
    cutLabel (labelText label) = label := by
  have goes := forall_bne_of_not_mem key
  have stops : ('=' != '=') = false := by decide
  unfold cutLabel labelText
  rw [takeWhile_append_cons _ goes stops, dropWhile_append_cons _ goes stops, List.drop_one,
    List.tail_cons, String.ofList_toList, String.ofList_toList]

/-- All parts but the first have a comma in front of them. -/
lemma intercalate_cons (part : List Char) (parts : List (List Char)) :
    [','].intercalate (part :: parts) = part ++ parts.flatMap fun part => ',' :: part := by
  induction parts generalizing part with
  | nil => simp
  | cons next rest ih =>
    rw [List.intercalate_cons_cons, ih]
    simp

/-- Parts without commas are what stands between the commas. -/
lemma splitAt_intercalate {parts : List (List Char)} (nonempty : parts ≠ [])
    (absent : ∀ part ∈ parts, ',' ∉ part) :
    FormEncoding.splitAt ',' ([','].intercalate parts) = parts := by
  cases parts with
  | nil => exact absurd rfl nonempty
  | cons part parts =>
    rw [List.forall_mem_cons] at absent
    have split := FormEncoding.splitAt_append_flatMap (f := id) absent.2 part
    simpa [intercalate_cons, FormEncoding.splitAt_of_not_mem absent.1] using split

/-- Plain labels are read off their selector. -/
lemma labelsOf_selectorOf {labels : SortedMap String} (plain : PlainLabels labels)
    (nonempty : labels.entries ≠ []) :
    labelsOf (String.ofList (selectorOf labels)) = labels.entries := by
  have absent : ∀ part ∈ labels.entries.map labelText, ',' ∉ part := by
    intro part member
    obtain ⟨label, listed, rfl⟩ := List.mem_map.1 member
    obtain ⟨key, _, value⟩ := plain label listed
    simp [labelText, key, value]
  have parts : FormEncoding.splitAt ',' (selectorOf labels) = labels.entries.map labelText :=
    splitAt_intercalate (by simpa using nonempty) absent
  have read : ∀ label ∈ labels.entries, (cutLabel ∘ labelText) label = id label := by
    intro label listed
    exact cutLabel_labelText (plain label listed).2.1
  rw [labelsOf, String.toList_ofList, parts, List.map_map, List.map_congr_left read, List.map_id]

/-- Only the selector of no labels is empty. -/
lemma selectorOf_eq_nil_iff {labels : SortedMap String} :
    selectorOf labels = [] ↔ labels.entries = [] := by
  unfold selectorOf
  cases labels.entries with
  | nil => simp
  | cons label rest => simp [intercalate_cons]

/-- There is no selector for no labels, and otherwise one that says which they are. -/
lemma denotes_matchingLabels {labels : SortedMap String} (plain : PlainLabels labels) :
    Denotes labels (matchingLabels labels).labelSelector := by
  unfold matchingLabels
  cases entries : labels.entries with
  | nil =>
    have empty := selectorOf_eq_nil_iff.2 entries
    simp [empty, Denotes, entries]
  | cons label rest =>
    -- a single label without key and value still leaves an equals sign in the selector
    have nonempty : labels.entries ≠ [] := by simp [entries]
    have selector : (selectorOf labels).isEmpty = false := by
      simpa using mt selectorOf_eq_nil_iff.1 nonempty
    simp only [selector]
    exact ⟨nonempty, labelsOf_selectorOf plain nonempty⟩

/-- A selector says of one map of labels only. -/
lemma Denotes.unique {labels labels' : SortedMap String} {selector : Option String}
    (denotes : Denotes labels selector) (denotes' : Denotes labels' selector) :
    labels = labels' := by
  have entries : labels.entries = labels'.entries := by
    cases selector with
    | none => exact denotes.trans denotes'.symm
    | some selector => exact denotes.2.symm.trans denotes'.2
  cases labels; cases labels'
  cases entries
  rfl

/-- Different plain labels make different options of a list. -/
lemma eq_of_matchingLabels {labels labels' : SortedMap String} (plain : PlainLabels labels)
    (plain' : PlainLabels labels') (same : matchingLabels labels = matchingLabels labels') :
    labels = labels' := by
  have denotes := denotes_matchingLabels plain
  rw [same] at denotes
  exact denotes.unique (denotes_matchingLabels plain')

/-- There is no selector where there are no labels. -/
lemma Denotes.eq_none {labels : SortedMap String} {selector : Option String}
    (denotes : Denotes labels selector) (empty : labels.entries = []) : selector = none := by
  cases selector with
  | none => rfl
  | some selector => exact absurd empty denotes.1

end ListOptions

namespace ResolvedObject

open ListOptions

/-- The labels that an object carries: those in its metadata, and none if it has none there. -/
inductive Carries {C : Type} (o : ResolvedObject C) (labels : SortedMap String) : Prop where
  | given :
    o.objectMeta.labels = some labels →
    Carries o labels
  | absent :
    o.objectMeta.labels = none →
    labels.entries = [] →
    Carries o labels

/-- The labels of an object are those that it carries. -/
lemma carries_labels {C : Type} (o : ResolvedObject C) : o.Carries o.labels := by
  unfold labels
  cases given : o.objectMeta.labels with
  | none => exact .absent given rfl
  | some labels => exact .given given

/-- If the labels in the metadata of an object are plain, so are all that it carries. -/
lemma Carries.plain {C : Type} {o : ResolvedObject C} {labels : SortedMap String}
    (carries : o.Carries labels) (plain : ∀ labels ∈ o.objectMeta.labels, PlainLabels labels) :
    PlainLabels labels := by
  cases carries with
  | given given => exact plain labels given
  | absent _ empty =>
    intro label listed
    rw [empty] at listed
    cases listed

/-- The query of a list of the objects with all the labels of an object decodes to parameters whose
selector says which labels these are. -/
lemma denotes_of_list {C : Type} {o : ResolvedObject C} {c : Collection} {r : Request}
    (plain : PlainLabels o.labels) (rooted : c.Rooted) (listed : c.list o.matchingLabels = .ok r) :
    ∃ query pairs, r.uri.query = some query ∧ FormEncoding.decodePairs query.toList = some pairs ∧
      Denotes o.labels (Entries.find? "labelSelector" pairs) := by
  have call : Collection.Plain c (.list o.matchingLabels) := ⟨rooted, nofun⟩
  obtain ⟨_, query, asked, decoded⟩ := call.decoded rfl listed
  have selector : Entries.find? "labelSelector" (presentParameters o.matchingLabels.parameters) =
      o.matchingLabels.labelSelector := by
    unfold matchingLabels ListOptions.matchingLabels
    dsimp only
    split <;> rfl
  refine ⟨query, _, asked, decoded, ?_⟩
  rw [selector]
  exact denotes_matchingLabels plain

/-- The selector in the address of a list says which labels are in the metadata of an object, and
there is none if the metadata has no labels. -/
lemma selector_of_list {C : Type} {o : ResolvedObject C} {c : Collection} {r : Request}
    (plain : ∀ labels ∈ o.objectMeta.labels, PlainLabels labels) (rooted : c.Rooted)
    (listed : c.list o.matchingLabels = .ok r) :
    ∃ query pairs, r.uri.query = some query ∧ FormEncoding.decodePairs query.toList = some pairs ∧
      (∀ labels ∈ o.objectMeta.labels, Denotes labels (Entries.find? "labelSelector" pairs)) ∧
      (o.objectMeta.labels = none → Entries.find? "labelSelector" pairs = none) := by
  obtain ⟨query, pairs, asked, decoded, denotes⟩ :=
    denotes_of_list (o.carries_labels.plain plain) rooted listed
  refine ⟨query, pairs, asked, decoded, ?_, ?_⟩
  · intro labels given
    rwa [ResolvedObject.labels, given] at denotes
  · intro absent
    rw [ResolvedObject.labels, absent] at denotes
    exact denotes.eq_none rfl

/-- Plain labels are read off their selector, and off the one in the address of a list of the
objects with the labels of an object. -/
theorem labels_survive :
    (∀ {labels : SortedMap String}, PlainLabels labels →
      Denotes labels (ListOptions.matchingLabels labels).labelSelector) ∧
    (∀ {labels labels' : SortedMap String}, PlainLabels labels → PlainLabels labels' →
      ListOptions.matchingLabels labels = .matchingLabels labels' → labels = labels') ∧
    (∀ {C : Type} {o : ResolvedObject C} {c : Collection} {r : Request},
      (∀ labels ∈ o.objectMeta.labels, PlainLabels labels) → c.Rooted →
      c.list o.matchingLabels = .ok r →
      ∃ query pairs, r.uri.query = some query ∧
        FormEncoding.decodePairs query.toList = some pairs ∧
        (∀ labels ∈ o.objectMeta.labels, Denotes labels (Entries.find? "labelSelector" pairs)) ∧
        (o.objectMeta.labels = none → Entries.find? "labelSelector" pairs = none)) ∧
    ∀ {C C' : Type} {o : ResolvedObject C} {o' : ResolvedObject C'} {c c' : Collection}
      {r r' : Request}, (∀ labels ∈ o.objectMeta.labels, PlainLabels labels) →
      (∀ labels ∈ o'.objectMeta.labels, PlainLabels labels) → c.Rooted → c'.Rooted →
      c.list o.matchingLabels = .ok r → c'.list o'.matchingLabels = .ok r' → r.uri = r'.uri →
      ∃ labels, o.Carries labels ∧ o'.Carries labels := by
  refine ⟨denotes_matchingLabels, eq_of_matchingLabels, selector_of_list, ?_⟩
  intro C C' o o' c c' r r' plain plain' rooted rooted' listed listed' same
  obtain ⟨query, pairs, asked, decoded, denotes⟩ :=
    denotes_of_list (o.carries_labels.plain plain) rooted listed
  obtain ⟨query', pairs', asked', decoded', denotes'⟩ :=
    denotes_of_list (o'.carries_labels.plain plain') rooted' listed'
  -- one address has one query, and this has one selector
  rw [same, asked'] at asked
  cases asked
  cases decoded.symm.trans decoded'
  have carries := o'.carries_labels
  rw [← denotes.unique denotes'] at carries
  exact ⟨o.labels, o.carries_labels, carries⟩

/-- A widget of which the metadata says some labels, or nothing of labels. -/
def labelledWidget (labels : Option (SortedMap String)) : ResolvedObject Unit where
  record := { client := (), kind := ⟨"apps", "v1", "Widget"⟩
              mapping := .regular ⟨"apps", "v1", "Widget"⟩ .namespaced }
  objectMeta := { labels := labels }

/-- Two labels: one has no value, the value of the other an equals sign in it. -/
def trickyLabels : SortedMap String :=
  .ofList [("tier", ""), ("app", "a=b")]

/-- The selector in the address of a list of widgets says by which labels they are selected, and for
a widget without labels there is none. -/
theorem labels_survive_widget :
    PlainLabels trickyLabels ∧ Collection.widgets.Rooted ∧
      (∃ r query pairs,
        Collection.widgets.list (labelledWidget (some trickyLabels)).matchingLabels = .ok r ∧
        r.uri.query = some query ∧ FormEncoding.decodePairs query.toList = some pairs ∧
        Denotes trickyLabels (Entries.find? "labelSelector" pairs)) ∧
      ∃ r query pairs, Collection.widgets.list (labelledWidget none).matchingLabels = .ok r ∧
        r.uri.query = some query ∧ FormEncoding.decodePairs query.toList = some pairs ∧
        Entries.find? "labelSelector" pairs = none := by
  have plain : PlainLabels trickyLabels := by
    unfold PlainLabels
    decide
  have listed : Collection.widgets.list (labelledWidget (some trickyLabels)).matchingLabels =
      .ok (Collection.widgetsRequest "GET" "" (some "&labelSelector=app%3Da%3Db%2Ctier%3D")
        none) := by
    decide +kernel
  have listedAll : Collection.widgets.list (labelledWidget none).matchingLabels =
      .ok (Collection.widgetsRequest "GET" "" (some "") none) := by
    decide +kernel
  have given : ∀ labels ∈ (labelledWidget (some trickyLabels)).objectMeta.labels,
      PlainLabels labels := by
    rintro _ ⟨⟩
    exact plain
  have unlabelled : ∀ labels ∈ (labelledWidget none).objectMeta.labels, PlainLabels labels := by
    rintro _ ⟨⟩
  obtain ⟨query, pairs, asked, decoded, denotes, _⟩ :=
    labels_survive.2.2.1 given Collection.rooted_widgets listed
  obtain ⟨queryAll, pairsAll, askedAll, decodedAll, _, absent⟩ :=
    labels_survive.2.2.1 unlabelled Collection.rooted_widgets listedAll
  exact ⟨plain, Collection.rooted_widgets, ⟨_, query, pairs, listed, asked, decoded, denotes _ rfl⟩,
    _, queryAll, pairsAll, listedAll, askedAll, decodedAll, absent rfl⟩

end ResolvedObject

end KindResolution
