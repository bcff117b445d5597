import RelPlan.Proofs.Catalogue.Valid

/-!
# Loading a valid catalogue

The relations of a valid catalogue can be entered into the empty one, and so are their attributes:
at every moment the catalogue is a front part of the whole (`Valid.front`), so that the next name is
not taken, and the relation that an attribute is added to is the last one. Hence loading gives the
very relations that are loaded (`result_load_of_valid`).
-/

namespace RelPlan.Catalogue

variable {before after : List BaseRelation} {name : String} {tuples : Count}
  {former as : List Attribute} {a : Attribute}

/-! ### Front parts -/

/-- The rules hold for the relations in front. -/
theorem Valid.front (h : Valid ⟨before ++ after⟩) : Valid ⟨before⟩ where
  relations := by
    have hnames := h.relations
    rw [List.map_append] at hnames
    exact hnames.of_append_left
  attributes := by
    have hnames := h.attributes
    rw [attributeNames, List.flatMap_append] at hnames
    exact hnames.of_append_left
  values := fun r hr => h.values r (List.mem_append_left _ hr)

/-- The rules hold if the last relation has only its first attributes. -/
theorem Valid.front_attributes (h : Valid ⟨before ++ [⟨name, tuples, former ++ as⟩]⟩) :
    Valid ⟨before ++ [⟨name, tuples, former⟩]⟩ where
  relations := by simpa using h.relations
  attributes := by
    have hnames := h.attributes
    simp only [attributeNames, List.flatMap_append, List.flatMap_singleton, Relation.names,
      namesOf_append] at hnames ⊢
    rw [← List.append_assoc] at hnames
    exact hnames.of_append_left
  values := by
    intro r hr a ha
    rcases List.mem_append.1 hr with hr | hr
    · exact h.values r (List.mem_append_left _ hr) a ha
    · obtain rfl := List.mem_singleton.1 hr
      exact h.values ⟨name, tuples, former ++ as⟩ (by simp) a (List.mem_append_left _ ha)

/-! ### Entering the next relation or attribute -/

/-- An attribute is added to the last relation if no other has that name. -/
theorem addTo?_append (hname : ∀ s ∈ before, s.name ≠ name) (r : Relation) (a : Attribute) :
    addTo? name a (before ++ [⟨name, r⟩]) = some (before ++ [⟨name, r.addAttribute a⟩]) := by
  induction before with
  | nil => simp [addTo?]
  | cons s before ih =>
    obtain ⟨hs, hbefore⟩ := List.forall_mem_cons.1 hname
    rw [List.cons_append, addTo?, if_neg hs, ih hbefore]
    rfl

theorem Valid.name_not_mem {r : BaseRelation} (h : Valid ⟨before ++ [r]⟩) :
    ∀ s ∈ before, s.name ≠ r.name := by
  have hnames := h.relations
  rw [List.map_append, List.nodup_append] at hnames
  exact fun s hs => hnames.2.2 s.name (List.mem_map_of_mem hs) r.name (by simp)

theorem createRelation_of_valid (h : Valid ⟨before ++ [⟨name, tuples, []⟩]⟩) :
    createRelation ⟨before⟩ name tuples = .ok ⟨before ++ [⟨name, tuples, []⟩]⟩ := by
  have hnew : ¬ ((⟨before⟩ : Catalogue).relation? name).isSome := by
    rw [isSome_relation?_iff, List.mem_map]
    rintro ⟨s, hs, hname⟩
    exact h.name_not_mem s hs hname
  rw [createRelation, if_neg hnew]

theorem createAttribute_of_valid (h : Valid ⟨before ++ [⟨name, tuples, former ++ [a]⟩]⟩) :
    createAttribute ⟨before ++ [⟨name, tuples, former⟩]⟩ name a.name a.values =
      .ok ⟨before ++ [⟨name, tuples, former ++ [a]⟩]⟩ := by
  have hvalues : a.values ≠ 0 := h.values ⟨name, tuples, former ++ [a]⟩ (by simp) a (by simp)
  have hnew : ¬ ((⟨before ++ [⟨name, tuples, former⟩]⟩ : Catalogue).attribute? a.name).isSome := by
    have hnames := h.attributes
    simp only [attributeNames, List.flatMap_append, List.flatMap_singleton, Relation.names,
      namesOf_append, ← List.append_assoc] at hnames
    rw [isSome_attribute?_iff]
    simp only [attributeNames, List.flatMap_append, List.flatMap_singleton, Relation.names]
    exact fun hmem => (List.nodup_append.1 hnames).2.2 _ hmem a.name (by simp) rfl
  rw [createAttribute, if_neg hvalues, if_neg hnew, addTo?_append h.name_not_mem]
  rfl

/-! ### Entering relations -/

/-- The attributes of the last relation are entered one by one. -/
theorem foldlM_createAttribute_of_valid
    (h : Valid ⟨before ++ [⟨name, tuples, former ++ as⟩]⟩) :
    as.foldlM (fun c a => createAttribute c name a.name a.values)
      ⟨before ++ [⟨name, tuples, former⟩]⟩ = .ok ⟨before ++ [⟨name, tuples, former ++ as⟩]⟩ := by
  induction as generalizing former with
  | nil =>
    rw [List.append_nil]
    rfl
  | cons a as ih =>
    rw [List.append_cons former a as] at h ⊢
    rw [List.foldlM_cons, createAttribute_of_valid h.front_attributes]
    exact ih h

theorem result_enter_of_valid {r : BaseRelation} (h : Valid ⟨before ++ [r]⟩) :
    (enter ⟨before⟩ r).result = .ok ⟨before ++ [r]⟩ := by
  obtain ⟨name, tuples, as⟩ := r
  have hall : Valid ⟨before ++ [⟨name, tuples, [] ++ as⟩]⟩ := h
  rw [enter, Logged.result_bind_eq_ok_iff]
  refine ⟨_, createRelation_of_valid hall.front_attributes, ?_⟩
  rw [Logged.result_bind_eq_ok_iff]
  exact ⟨_, foldlM_createAttribute_of_valid hall, rfl⟩

theorem foldlM_enter_of_valid (h : Valid ⟨before ++ after⟩) :
    after.foldlM (fun c r => (enter c r).result) ⟨before⟩ = .ok ⟨before ++ after⟩ := by
  induction after generalizing before with
  | nil =>
    rw [List.append_nil]
    rfl
  | cons r after ih =>
    rw [List.append_cons] at h ⊢
    rw [List.foldlM_cons, result_enter_of_valid h.front]
    exact ih h

/-- The relations of a valid catalogue are loaded as they are. -/
theorem result_load_of_valid {c : Catalogue} (hc : c.Valid) :
    (load c.relations).result = .ok c := by
  obtain ⟨rs⟩ := c
  have hall : Valid ⟨[] ++ rs⟩ := hc
  rw [load, Logged.result_bind_eq_ok_iff, Logged.result_foldlM]
  exact ⟨⟨rs⟩, foldlM_enter_of_valid hall, rfl⟩

end RelPlan.Catalogue
