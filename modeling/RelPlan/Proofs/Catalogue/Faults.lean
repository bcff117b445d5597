import Mathlib.Data.List.Induction
import RelPlan.Proofs.Catalogue.Loading

/-!
# Loading a catalogue that breaks the rules

Loading checks the rules of catalogues. It goes through the relations and their attributes in the
order in which a text lists them and stops at the first entry that breaks a rule
(`Catalogue.FirstFault`). What stands before that entry obeys the rules, so the catalogue has been
built up from it by then, and the relation to which an attribute is added is the last one. Whenever
a rule is broken some entry is the first to break one; so loading succeeds exactly if the relations
obey the rules, and reports the first fault otherwise (`Catalogue.ofText_validates`).
-/

namespace RelPlan.Catalogue

variable {before after rs : List BaseRelation} {r : BaseRelation} {name text : String}
  {tuples : Count} {former later as : List Attribute} {a : Attribute} {e : PlanError}

/-- The first fault of some relations and the error that reports it: what stands before it obeys
the rules. The name of a relation is looked at before its attributes, and the value count of an
attribute before its name. -/
inductive FirstFault : List BaseRelation → PlanError → Prop where
  /-- A relation has the name of an earlier one. -/
  | relationTaken {before after : List BaseRelation} {r : BaseRelation} :
      Valid ⟨before⟩ → r.name ∈ before.map BaseRelation.name →
        FirstFault (before ++ r :: after) (.duplicateRelation r.name)
  /-- An attribute has no values. -/
  | noValues {before after : List BaseRelation} {name : String} {tuples : Count}
      {former later : List Attribute} {a : Attribute} :
      Valid ⟨before ++ [⟨name, tuples, former⟩]⟩ → a.values = 0 →
        FirstFault (before ++ ⟨name, tuples, former ++ a :: later⟩ :: after) (.noValues a.name)
  /-- An attribute has values, and the name of an earlier one of the same or another relation. -/
  | attributeTaken {before after : List BaseRelation} {name : String} {tuples : Count}
      {former later : List Attribute} {a : Attribute} :
      Valid ⟨before ++ [⟨name, tuples, former⟩]⟩ → a.values ≠ 0 →
        a.name ∈ attributeNames ⟨before ++ [⟨name, tuples, former⟩]⟩ →
        FirstFault (before ++ ⟨name, tuples, former ++ a :: later⟩ :: after)
          (.duplicateAttribute a.name)

/-- What is listed later does not matter. -/
theorem FirstFault.append (h : FirstFault rs e) (more : List BaseRelation) :
    FirstFault (rs ++ more) e := by
  cases h with
  | relationTaken hv hr =>
    rw [List.append_assoc]
    exact .relationTaken hv hr
  | noValues hv ha =>
    rw [List.append_assoc]
    exact .noValues hv ha
  | attributeTaken hv ha hn =>
    rw [List.append_assoc]
    exact .attributeTaken hv ha hn

/-! ### The next entry -/

/-- A relation is entered unless its name is taken. -/
theorem createRelation_eq (c : Catalogue) (name : String) (tuples : Count) :
    c.createRelation name tuples =
      if name ∈ c.relations.map BaseRelation.name then .error (.duplicateRelation name)
      else .ok ⟨c.relations ++ [⟨name, tuples, []⟩]⟩ := by
  rw [createRelation]
  exact if_congr isSome_relation?_iff rfl rfl

/-- An attribute is added to the last relation unless it has no values or its name is taken. -/
theorem createAttribute_last (hname : ∀ s ∈ before, s.name ≠ name) (tuples : Count)
    (former : List Attribute) (a : Attribute) :
    createAttribute ⟨before ++ [⟨name, tuples, former⟩]⟩ name a.name a.values =
      if a.values = 0 then .error (.noValues a.name)
      else if a.name ∈ attributeNames ⟨before ++ [⟨name, tuples, former⟩]⟩ then
        .error (.duplicateAttribute a.name)
      else .ok ⟨before ++ [⟨name, tuples, former ++ [a]⟩]⟩ := by
  rw [createAttribute, addTo?_append hname]
  exact if_congr Iff.rfl rfl (if_congr isSome_attribute?_iff rfl rfl)

/-! ### Some entry is the first to break a rule -/

/-- If the relations obey the rules as long as the last one has no attributes, then one of these is
the first to break a rule. -/
theorem exists_attribute_fault (hv : Valid ⟨before ++ [⟨name, tuples, []⟩]⟩)
    (h : ¬ Valid ⟨before ++ [⟨name, tuples, as⟩]⟩) :
    ∃ former a later, as = former ++ a :: later ∧ Valid ⟨before ++ [⟨name, tuples, former⟩]⟩ ∧
      (a.values = 0 ∨
        a.values ≠ 0 ∧ a.name ∈ attributeNames ⟨before ++ [⟨name, tuples, former⟩]⟩) := by
  induction as using List.reverseRecOn with
  | nil => exact absurd hv h
  | append_singleton former a ih =>
    by_cases hformer : Valid ⟨before ++ [⟨name, tuples, former⟩]⟩
    · refine ⟨former, a, [], rfl, hformer, ?_⟩
      by_contra hgood
      obtain ⟨ha, hn⟩ := not_or.1 hgood
      have hc := createAttribute_last hformer.name_not_mem tuples former a
      rw [if_neg ha, if_neg fun hmem => hn ⟨ha, hmem⟩] at hc
      exact h (hformer.createAttribute hc)
    · obtain ⟨front, b, later, rfl, hfront, hb⟩ := ih hformer
      exact ⟨front, b, later ++ [a], List.append_assoc _ _ _, hfront, hb⟩

/-- Relations that break the rules have a first fault. -/
theorem exists_firstFault (h : ¬ Valid ⟨rs⟩) : ∃ e, FirstFault rs e := by
  induction rs using List.reverseRecOn with
  | nil => exact absurd valid_empty h
  | append_singleton before r ih =>
    by_cases hbefore : Valid ⟨before⟩
    · by_cases hr : r.name ∈ before.map BaseRelation.name
      · exact ⟨_, .relationTaken hbefore hr⟩
      · have hc := createRelation_eq ⟨before⟩ r.name r.relation.tuples
        rw [if_neg hr] at hc
        obtain ⟨name, tuples, as⟩ := r
        obtain ⟨former, a, later, rfl, hformer, ha | ⟨ha, hn⟩⟩ :=
          exists_attribute_fault (hbefore.createRelation hc) h
        · exact ⟨_, .noValues hformer ha⟩
        · exact ⟨_, .attributeTaken hformer ha hn⟩
    · obtain ⟨e, he⟩ := ih hbefore
      exact ⟨e, he.append [r]⟩

/-! ### Loading stops there -/

theorem result_load (rs : List BaseRelation) :
    (load rs).result = rs.foldlM (fun c r => (enter c r).result) empty := by
  rw [load, Logged.result_bind, Logged.result_foldlM]
  exact bind_pure _

/-- Loading fails if the relations before the next one are loaded and that one cannot be entered. -/
theorem result_load_of_enter_error (h : Valid ⟨before⟩)
    (he : (enter ⟨before⟩ r).result = .error e) :
    (load (before ++ r :: after)).result = .error e := by
  have hall : Valid ⟨[] ++ before⟩ := h
  rw [result_load, List.foldlM_append, bind_eq_error_iff]
  refine Or.inr ⟨_, foldlM_enter_of_valid hall, ?_⟩
  rw [List.foldlM_cons, bind_eq_error_iff]
  exact Or.inl he

/-- A relation cannot be entered if its attributes can be only up to the next one. -/
theorem result_enter_of_attribute_error (h : Valid ⟨before ++ [⟨name, tuples, former⟩]⟩)
    (he : createAttribute ⟨before ++ [⟨name, tuples, former⟩]⟩ name a.name a.values = .error e) :
    (enter ⟨before⟩ ⟨name, tuples, former ++ a :: later⟩).result = .error e := by
  have hall : Valid ⟨before ++ [⟨name, tuples, [] ++ former⟩]⟩ := h
  rw [enter, Logged.result_bind, bind_eq_error_iff]
  refine Or.inr ⟨_, createRelation_of_valid hall.front_attributes, ?_⟩
  rw [Logged.result_bind, bind_eq_error_iff, Logged.result_ofExcept, List.foldlM_append,
    bind_eq_error_iff]
  refine Or.inl (Or.inr ⟨_, foldlM_createAttribute_of_valid hall, ?_⟩)
  rw [List.foldlM_cons, bind_eq_error_iff]
  exact Or.inl he

theorem FirstFault.result_load (h : FirstFault rs e) : (load rs).result = .error e := by
  cases h with
  | relationTaken hv hr =>
    refine result_load_of_enter_error hv ?_
    rw [enter, Logged.result_bind, Logged.result_ofExcept, createRelation_eq, if_pos hr]
    rfl
  | noValues hv ha =>
    refine result_load_of_enter_error hv.front (result_enter_of_attribute_error hv ?_)
    rw [createAttribute_last hv.name_not_mem, if_pos ha]
  | attributeTaken hv ha hn =>
    refine result_load_of_enter_error hv.front (result_enter_of_attribute_error hv ?_)
    rw [createAttribute_last hv.name_not_mem, if_neg ha, if_pos hn]

/-- **Validation**: the catalogue that a text describes is loaded exactly if the relations that the
text lists obey the rules, and then it lists them as the text does. Otherwise the error is that of
the first fault, which is never a relation that is not known. -/
theorem ofText_validates (h : relationsOfText text = .ok rs) :
    (∀ c, (ofText text).result = .ok c ↔ Valid ⟨rs⟩ ∧ c = ⟨rs⟩) ∧
    (∀ e, (ofText text).result = .error e ↔ FirstFault rs e) ∧
    ∀ name, (ofText text).result ≠ .error (.unknownRelation name) := by
  have hload : (ofText text).result = (load rs).result := by
    rw [ofText, Logged.result_bind, Logged.result_ofExcept, h]
    rfl
  have herror : ∀ e, (ofText text).result = .error e ↔ FirstFault rs e := by
    intro e
    rw [hload]
    constructor
    · intro he
      have hbad : ¬ Valid ⟨rs⟩ := by
        intro hv
        rw [result_load_of_valid hv] at he
        cases he
      obtain ⟨e', he'⟩ := exists_firstFault hbad
      rw [he'.result_load] at he
      cases he
      exact he'
    · exact FirstFault.result_load
  refine ⟨fun c => ?_, herror, fun name he => ?_⟩
  · rw [hload]
    constructor
    · intro hc
      by_cases hv : Valid ⟨rs⟩
      · rw [result_load_of_valid hv] at hc
        cases hc
        exact ⟨hv, rfl⟩
      · obtain ⟨e, he⟩ := exists_firstFault hv
        rw [he.result_load] at hc
        cases hc
    · rintro ⟨hv, rfl⟩
      exact result_load_of_valid hv
  · cases (herror _).1 he

/-- Teas and the shops that sell them. The name of a leaf is listed twice, the second time without
values, and the teas are listed twice. -/
def teasTwice : String :=
  "\x7b\"relations\": [
    \x7b\"name\": \"teas\", \"tuple_count\": 9, \"attributes\": [
      \x7b\"name\": \"leaf\", \"value_count\": 4\x7d]\x7d,
    \x7b\"name\": \"shops\", \"tuple_count\": 3, \"attributes\": [
      \x7b\"name\": \"shop\", \"value_count\": 3\x7d, \x7b\"name\": \"leaf\", \"value_count\": 0\x7d]\x7d,
    \x7b\"name\": \"teas\", \"tuple_count\": 9\x7d]\x7d"

/-- The teas of `teasTwice`. -/
def teas : BaseRelation := ⟨"teas", .clamp 9, [⟨"leaf", .clamp 4⟩]⟩

/-- What `teasTwice` lists. -/
def teasTwiceRelations : List BaseRelation :=
  [teas, ⟨"shops", .clamp 3, [⟨"shop", .clamp 3⟩, ⟨"leaf", 0⟩]⟩, ⟨"teas", .clamp 9, []⟩]

theorem ofText_teasTwice :
    relationsOfText teasTwice = .ok teasTwiceRelations ∧
      (ofText teasTwice).result = .error (.noValues "leaf") := by
  have h : relationsOfText teasTwice = .ok teasTwiceRelations := by decide +kernel
  have hfront : Valid ⟨[teas] ++ [⟨"shops", .clamp 3, [⟨"shop", .clamp 3⟩]⟩]⟩ :=
    ⟨by decide, by decide, by decide⟩
  have hfault : FirstFault teasTwiceRelations (.noValues "leaf") := .noValues hfront rfl
  exact ⟨h, ((ofText_validates h).2.1 _).2 hfault⟩

end RelPlan.Catalogue
