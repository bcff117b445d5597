import Mathlib.Data.List.Nodup
import Mathlib.Data.List.Pairwise
import RelPlan.Catalogue.Text
import RelPlan.Proofs.Plan.Reach

/-!
# Valid catalogues

The rules of catalogues (`Catalogue.Valid`). A catalogue that is built up from the empty one, or
from one that a text describes, by entering relations and attributes (`Catalogue.Built`) obeys them
(`Catalogue.Built.valid`): each entry that succeeds keeps them, and loading is a run of entries.
What follows for queries is that two relations of the catalogue never have an attribute name in
common (`Catalogue.Valid.apart`).
-/

namespace RelPlan.Catalogue

variable {c d : Catalogue} {relation name : String} {tuples values : Count}

/-- The names of all attributes, relation by relation. -/
def attributeNames (c : Catalogue) : List String := c.relations.flatMap fun r => r.relation.names

/-- The rules of catalogues. -/
structure Valid (c : Catalogue) : Prop where
  /-- No relation name is taken twice. -/
  relations : (c.relations.map BaseRelation.name).Nodup
  /-- No attribute name is taken twice, be it in one relation or in two. -/
  attributes : c.attributeNames.Nodup
  /-- Every attribute has a positive value count. -/
  values : ∀ r ∈ c.relations, ∀ a ∈ r.relation.attributes, a.values ≠ 0

/-! ### What entering looks at -/

theorem isSome_relation?_iff :
    (c.relation? name).isSome ↔ name ∈ c.relations.map BaseRelation.name := by
  simp [relation?]

theorem isSome_attribute?_iff : (c.attribute? name).isSome ↔ name ∈ c.attributeNames := by
  simp only [attribute?, attributeNames, List.isSome_findSome?, List.any_eq_true,
    List.mem_flatMap, Relation.isSome_attribute?_iff, Relation.Has]

/-- An attribute is added behind those of the first relation of that name. The other relations stay
as they are. -/
theorem addTo?_eq_some {a : Attribute} {rs ss : List BaseRelation}
    (h : addTo? relation a rs = some ss) :
    ∃ before r after, rs = before ++ r :: after ∧ r.name = relation ∧
      (∀ s ∈ before, s.name ≠ relation) ∧
      ss = before ++ { r with relation := r.relation.addAttribute a } :: after := by
  induction rs generalizing ss with
  | nil => simp [addTo?] at h
  | cons r rs ih =>
    rw [addTo?] at h
    split at h
    · next hr =>
      cases h
      exact ⟨[], r, rs, rfl, hr, nofun, rfl⟩
    · next hr =>
      obtain ⟨ts, hts, rfl⟩ := Option.map_eq_some_iff.1 h
      obtain ⟨before, s, after, rfl, hs, hbefore, rfl⟩ := ih hts
      exact ⟨r :: before, s, after, rfl, hs, List.forall_mem_cons.2 ⟨hr, hbefore⟩, rfl⟩

/-! ### Entering keeps the rules -/

theorem valid_empty : empty.Valid := ⟨.nil, .nil, nofun⟩

theorem Valid.createRelation (hc : c.Valid) (h : c.createRelation name tuples = .ok d) :
    d.Valid := by
  unfold Catalogue.createRelation at h
  split at h
  · cases h
  · next hn =>
    cases h
    rw [isSome_relation?_iff] at hn
    refine ⟨?_, ?_, ?_⟩
    · rw [List.map_append, List.nodup_append]
      refine ⟨hc.relations, List.nodup_singleton _, ?_⟩
      rintro m hm _ hm' rfl
      obtain rfl := List.mem_singleton.1 hm'
      exact hn hm
    · simpa [attributeNames, Relation.names] using hc.attributes
    · intro r hr a ha
      rcases List.mem_append.1 hr with hr | hr
      · exact hc.values r hr a ha
      · obtain rfl := List.mem_singleton.1 hr
        cases ha

theorem Valid.createAttribute (hc : c.Valid)
    (h : c.createAttribute relation name values = .ok d) : d.Valid := by
  unfold Catalogue.createAttribute at h
  split_ifs at h with hv hn
  rw [isSome_attribute?_iff] at hn
  split at h
  · cases h
  · next rs hrs =>
    cases h
    obtain ⟨rs⟩ := c
    obtain ⟨before, r, after, rfl, -, -, rfl⟩ := addTo?_eq_some hrs
    -- the new name stands between two parts of the old list of names
    have hnames : attributeNames
        ⟨before ++ { r with relation := r.relation.addAttribute ⟨name, values⟩ } :: after⟩ =
        (attributeNames ⟨before⟩ ++ r.relation.names) ++ name :: attributeNames ⟨after⟩ := by
      simp [attributeNames, Relation.names, Relation.addAttribute]
    have hold : attributeNames ⟨before ++ r :: after⟩ =
        (attributeNames ⟨before⟩ ++ r.relation.names) ++ attributeNames ⟨after⟩ := by
      simp [attributeNames]
    refine ⟨?_, ?_, ?_⟩
    · simpa using hc.relations
    · rw [hnames, List.nodup_middle, ← hold, List.nodup_cons]
      exact ⟨hn, hc.attributes⟩
    · intro s hs a ha
      rcases List.mem_append.1 hs with hs | hs
      · exact hc.values s (List.mem_append_left _ hs) a ha
      · rcases List.mem_cons.1 hs with rfl | hs
        · rcases List.mem_append.1 ha with ha | ha
          · exact hc.values r (by simp) a ha
          · obtain rfl := List.mem_singleton.1 ha
            exact hv
        · exact hc.values s (by simp [hs]) a ha

/-! ### Loading keeps the rules -/

theorem Valid.enter {r : BaseRelation} (hc : c.Valid) (h : (c.enter r).result = .ok d) :
    d.Valid := by
  simp only [Catalogue.enter, Logged.result_bind_eq_ok_iff, Logged.result_ofExcept] at h
  obtain ⟨b, hb, e, he, -, -, h⟩ := h
  cases h
  exact of_foldlM_eq_ok (hc.createRelation hb) (fun _ hd _ _ _ h => hd.createAttribute h) he

theorem valid_of_load {rs : List BaseRelation} (h : (load rs).result = .ok c) : c.Valid := by
  rw [load, Logged.result_bind_eq_ok_iff, Logged.result_foldlM] at h
  obtain ⟨d, hd, h⟩ := h
  cases h
  exact of_foldlM_eq_ok valid_empty (fun _ hb _ _ _ h => hb.enter h) hd

theorem valid_of_ofText {text : String} (h : (ofText text).result = .ok c) : c.Valid := by
  rw [ofText, Logged.result_bind_eq_ok_iff] at h
  obtain ⟨rs, -, h⟩ := h
  exact valid_of_load h

/-! ### Building catalogues -/

/-- The catalogues that can be built by loading a text, or from nothing, and by entering relations
and attributes one by one. -/
inductive Built : Catalogue → Prop where
  /-- Nothing is entered yet. -/
  | empty : Built empty
  /-- A text is loaded. -/
  | loaded {text : String} {c : Catalogue} (h : (ofText text).result = .ok c) : Built c
  /-- A relation is entered. -/
  | createRelation {c d : Catalogue} {name : String} {tuples : Count} (hc : Built c)
    (h : c.createRelation name tuples = .ok d) : Built d
  /-- An attribute is added to a relation. -/
  | createAttribute {c d : Catalogue} {relation name : String} {values : Count} (hc : Built c)
    (h : c.createAttribute relation name values = .ok d) : Built d

/-- Catalogues that were built obey the rules. -/
theorem Built.valid (h : Built c) : c.Valid := by
  induction h with
  | empty => exact valid_empty
  | loaded h => exact valid_of_ofText h
  | createRelation _ h ih => exact ih.createRelation h
  | createAttribute _ h ih => exact ih.createAttribute h

theorem Valid.pairwise_apart (hc : c.Valid) : c.relations.Pairwise BaseRelation.Apart :=
  (List.nodup_flatMap.1 hc.attributes).2.imp fun h _ hn hn' => h hn hn'

/-- Two relations of a catalogue have no attribute name in common. -/
theorem Valid.apart (hc : c.Valid) {r s : BaseRelation} (hr : r ∈ c.relations)
    (hs : s ∈ c.relations) (hne : r ≠ s) : r.Apart s :=
  hc.pairwise_apart.forall hr hs hne

end RelPlan.Catalogue
