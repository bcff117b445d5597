import RelPlan.Proofs.Optimise.Vocabulary
import RelPlan.Proofs.Plan.Compact
import RelPlan.Proofs.Query.Canonical
import RelPlan.Proofs.Query.Parsing

/-!
# Plain queries have plain plans

The compact form of a plan identifies it if the names in it can be told from what stands around
them (`Plan.PlainRoot`). Plans that come from queries are like that. What a text spells is plain: its
names are made of name characters, and its literals hold no quotes (`Query.plain_of_parse`). Names
are looked up, but they stay the same names; so the canonical plan of a plain query is plain in every
node (`Query.Plain.everywhere_plan`), and so is what that plan is optimised to
(`Query.Plain.everywhere_optimise`). The compact form of a canonical plan even tells which query it
is the plan of (`Query.Plain.eq_of_compact_eq`).
-/

namespace RelPlan

/-! ### Plain plans -/

theorem Predicate.Plain.of_unsided_eq {p q : Predicate} (hq : q.Plain) (h : q.unsided = p.unsided) :
    p.Plain := by
  rcases unsided_eq_iff.1 h with rfl | rfl
  · exact hq
  · cases p with
    | literal a v => exact hq
    | equality a b => exact hq.symm

theorem Predicate.Plain.isName {p : Predicate} (hp : p.Plain) {n : String} (hn : n ∈ p.names) :
    IsName n := by
  cases p with
  | literal a v =>
    obtain rfl := List.mem_singleton.1 hn
    exact hp.1
  | equality a b =>
    rcases List.mem_pair.1 hn with rfl | rfl
    · exact hp.1
    · exact hp.2

namespace Plan

variable {x p q : Plan} {options : Options}

/-- The parts of a plan are plain exactly if every node is. -/
theorem everywhere_plainRoot_iff : x.Everywhere PlainRoot ↔
    (∀ r ∈ x.scans, IsName r.name) ∧ (∀ p ∈ x.predicates, p.Plain) ∧
      x.Everywhere (Lists IsName) := by
  induction x with
  | scan r o => simp [Everywhere, PlainRoot, Lists, scans, predicates]
  | select p i o ih =>
    simp only [Everywhere, PlainRoot, Lists, scans, predicates, List.forall_mem_append,
      List.forall_mem_singleton, ih]
    tauto
  | project as i o ih =>
    simp only [Everywhere, PlainRoot, Lists, scans, predicates, ih]
    tauto
  | product l r o ihl ihr =>
    simp only [Everywhere, PlainRoot, Lists, scans, predicates, List.forall_mem_append, ihl, ihr]
    tauto
  | join p l r o ihl ihr =>
    simp only [Everywhere, PlainRoot, Lists, scans, predicates, List.forall_mem_append,
      List.forall_mem_singleton, ihl, ihr]
    tauto

/-- Plans that are the same have the same parts, statistics aside. -/
theorem SameAs.parts (h : p.SameAs q) :
    p.scans.map BaseRelation.name = q.scans.map BaseRelation.name ∧
      List.Forall₂ Predicate.SameAs p.predicates q.predicates ∧
      p.projections.map namesOf = q.projections.map namesOf := by
  induction h using SameAs.induction with
  | scan hname => simp [scans, predicates, projections, hname]
  | select hp _ ih =>
    exact ⟨ih.1, List.rel_append ih.2.1 (.cons hp .nil), ih.2.2⟩
  | project hnames _ ih => simp [scans, predicates, projections, hnames, ih]
  | product _ _ ihl ihr =>
    refine ⟨?_, List.rel_append ihl.2.1 ihr.2.1, rfl⟩
    rw [scans, scans, List.map_append, List.map_append, ihl.1, ihr.1]
  | join hp _ _ ihl ihr =>
    refine ⟨?_, List.rel_append (List.rel_append ihl.2.1 ihr.2.1) (.cons hp .nil), rfl⟩
    rw [scans, scans, List.map_append, List.map_append, ihl.1, ihr.1]

theorem PlainRoot.clearOutputs (h : x.PlainRoot) : x.clearOutputs.PlainRoot := by
  cases x <;> exact h

/-- Optimising leaves a plain plan plain, if the projections that are put on top are its own. -/
theorem Distinct.everywhere_plainRoot_optimise (hd : p.Distinct) (hp : p.Everywhere PlainRoot)
    (hout : p.outermost = p.projections) (h : (p.optimise options).result = .ok q) :
    q.Everywhere PlainRoot := by
  obtain ⟨hscans, hps, hlists⟩ := everywhere_plainRoot_iff.1 hp
  have hneeded : ∀ n ∈ namesOf (neededAttributes p.outermost p.predicates), IsName n := by
    intro n hn
    rcases mem_names_neededAttributes.1 hn with ⟨k, hk, hn⟩ | ⟨as, has, hn⟩
    · exact (hps k hk).isName hn
    · exact hlists.of_mem_projections as (hout ▸ has) n hn
  rcases optimise_lists hd h hneeded with rfl | hlists
  · exact hp.clearOutputs fun _ => PlainRoot.clearOutputs
  · have hw := hd.rearranges_optimise h
    refine everywhere_plainRoot_iff.2 ⟨?_, ?_, hlists⟩
    · intro r hr
      exact hscans r (hw.scans.mem_iff.1 hr)
    · intro k hk
      obtain ⟨k', hk', he⟩ := Predicate.exists_mem_of_perm_unsided hw.predicates hk
      exact (hps k' hk').of_unsided_eq he

end Plan

/-! ### Plain queries -/

/-- The condition has names of name characters, and no quote in its literal. -/
def Condition.Plain : Condition → Prop
  | literal name value => IsName name ∧ '"' ∉ value.toList
  | equality left right => IsName left ∧ IsName right

namespace Query

variable {c c' : Catalogue} {q q' : Query} {p p' o : Plan} {options : Options} {cs : List Char}
  {name : String}

/-- The names in the query are made of name characters, and its literals hold no quotes. -/
structure Plain (q : Query) : Prop where
  /-- The attributes to put out. -/
  attributes : ∀ ns, q.attributes = some ns → ∀ n ∈ ns, IsName n
  /-- The relations to read. -/
  relations : ∀ n ∈ q.relations, IsName n
  /-- The conditions to meet. -/
  conditions : ∀ k ∈ q.conditions, k.Plain

/-! ### Texts that spell plain queries -/

theorem NameForm.isName (h : NameForm name cs) : IsName name := by
  cases h with
  | mk hne hall => exact ⟨by simpa using hne, by simpa using hall⟩

theorem DigitsForm.not_mem_quote (h : DigitsForm cs) : '"' ∉ cs :=
  fun hquote => absurd (h.2 _ hquote) (by decide)

theorem UnsignedForm.not_mem_quote (h : UnsignedForm cs) : '"' ∉ cs := by
  cases h with
  | whole hds => exact hds.not_mem_quote
  | decimal hds hes =>
    simp [hds.not_mem_quote, hes.not_mem_quote]

theorem NumberForm.not_mem_quote (h : NumberForm cs) : '"' ∉ cs := by
  cases h with
  | positive h => exact h.not_mem_quote
  | negative h => simp [h.not_mem_quote]

theorem ConditionForm.plain {k : Condition} (h : ConditionForm k cs) : k.Plain := by
  obtain ⟨hleft, -, hcomparison⟩ := h
  cases hcomparison with
  | quoted hbody => exact ⟨hleft.isName, by simpa using hbody⟩
  | number hn => exact ⟨hleft.isName, by simpa using hn.not_mem_quote⟩
  | name hright _ => exact ⟨hleft.isName, hright.isName⟩

/-- What every item of its form has, every item of a list has. -/
theorem ListForm.forall_mem {α : Type} {item : α → List Char → Prop} {P : α → Prop} {as : List α}
    (hitem : ∀ {a cs}, item a cs → P a) (h : ListForm item as cs) : ∀ a ∈ as, P a := by
  induction h with
  | one ha => exact List.forall_mem_singleton.2 (hitem ha)
  | more ha _ _ ih => exact List.forall_mem_cons.2 ⟨hitem ha, ih⟩

theorem Spells.plain (h : Spells q cs) : q.Plain := by
  obtain ⟨-, -, -, hattributes, -, -, -, hrelations, hwhere, -⟩ := h
  refine ⟨?_, hrelations.forall_mem NameForm.isName, ?_⟩
  · intro ns hns
    cases hattributes with
    | all => cases hns
    | listed hnames =>
      cases hns
      exact hnames.forall_mem NameForm.isName
  · cases hwhere with
    | absent => exact List.forall_mem_nil _
    | present _ _ _ hconditions => exact hconditions.forall_mem ConditionForm.plain

/-- **Queries that are read** are plain. -/
theorem plain_of_parse {text : String} (h : parse text = .ok q) : q.Plain := by
  unfold parse at h
  split at h
  · next q' hq =>
    cases h
    exact (spells_of_query (whole_eq_ok_iff.1 hq)).plain
  · cases h

/-! ### Their plans -/

theorem Denotes.isName {rs : List BaseRelation} {a : Attribute} (h : Denotes rs name a)
    (hname : IsName name) : IsName a.name := h.1 ▸ hname

theorem Means.plain {rs : List BaseRelation} {k : Condition} {p : Predicate} (h : Means rs k p)
    (hk : k.Plain) : p.Plain := by
  cases h with
  | literal ha => exact ⟨ha.isName hk.1, hk.2⟩
  | equality ha hb => exact ⟨ha.isName hk.1, hb.isName hk.2⟩

/-- **The canonical plan** of a plain query is plain in every node. -/
theorem Plain.everywhere_plan (hq : q.Plain) (h : q.plan c = .ok p) :
    p.Everywhere Plan.PlainRoot := by
  obtain ⟨rs, scanned, ps, tops, hrs, hscanned, hps, htops, rfl⟩ := plan_eq_ok h
  obtain ⟨-, -, hscans, -⟩ := scanAll_eq_ok hscanned
  obtain ⟨-, hpredicates, hunnarrowed⟩ := contents_of_scanAll hscanned
  refine Plan.everywhere_plainRoot_iff.2 ⟨?_, ?_, ?_⟩
  · rw [Plan.scans_foldl_narrowed, Plan.scans_foldl_filtered, hscans]
    intro r hr
    apply hq.relations
    rw [← names_of_resolveRelations hrs]
    exact List.mem_map_of_mem hr
  · rw [Plan.predicates_foldl_narrowed, Plan.predicates_foldl_filtered, hpredicates,
      List.nil_append]
    intro k' hk'
    obtain ⟨k, hk, hkk'⟩ := exists_of_mapM_eq_ok hps k' hk'
    exact (means_of_resolveCondition hkk').plain (hq.conditions k hk)
  · refine Plan.Everywhere.foldl_narrowed ?_
      (Plan.Everywhere.foldl_filtered (fun _ _ _ => trivial) hunnarrowed.everywhere_lists)
    rcases htops with ⟨-, rfl⟩ | ⟨names, as, hnames, has, rfl⟩
    · exact List.forall_mem_nil _
    · rw [List.forall_mem_singleton]
      intro _ n hn
      obtain ⟨a, ha, rfl⟩ := List.mem_map.1 hn
      obtain ⟨name, hname, hlooked⟩ := exists_of_mapM_eq_ok has a ha
      exact (denotes_of_resolveAttribute hlooked).isName (hq.attributes names hnames name hname)

/-- Over a valid catalogue, what the canonical plan of a plain query is **optimised** to is plain in
every node. -/
theorem Plain.everywhere_optimise (hq : q.Plain) (hc : c.Valid) (hp : q.plan c = .ok p)
    (h : (p.optimise options).result = .ok o) : o.Everywhere Plan.PlainRoot := by
  have hcanonical := canonical_of_plan hc.attributes hp
  have hout : p.outermost = p.projections := by
    rw [Plan.outermost_eq, if_neg fun hinner => hinner.2.ne' hcanonical.inner]
  exact (distinct_of_plan hc hp).everywhere_plainRoot_optimise (hq.everywhere_plan hp) hout h

/-! ### Plans that tell their queries -/

/-- Two lists are equal if the lists that they stand for are the same item by item. -/
theorem eq_of_forall₂ {α β : Type} {R R' : α → β → Prop} {S : β → β → Prop} {as as' : List α}
    {bs bs' : List β} (h : List.Forall₂ R as bs) (h' : List.Forall₂ R' as' bs')
    (hbs : List.Forall₂ S bs bs') (hS : ∀ a a' b b', R a b → R' a' b' → S b b' → a = a') :
    as = as' := by
  induction hbs generalizing as as' with
  | nil =>
    cases h
    cases h'
    rfl
  | cons hb _ ih =>
    cases h with
    | cons ha has =>
      cases h' with
      | cons ha' has' => rw [hS _ _ _ _ ha ha' hb, ih has has']

/-- The attributes that a query lists are those of the one projection of its canonical plan. -/
theorem Canonical.attributes_eq (h : Canonical c q p) :
    q.attributes = (p.projections.map namesOf).head? := by
  rw [← Plan.projections_parts]
  cases hq : q.attributes with
  | none =>
    rw [h.all hq]
    rfl
  | some ns =>
    obtain ⟨as, has, hnames⟩ := h.listed ns hq
    have hlisted : List.Forall₂ (· = ·) ns (namesOf as) :=
      List.forall₂_map_right_iff.2 (hnames.imp fun _ _ ha => ha.1.symm)
    rw [List.forall₂_eq_eq_eq] at hlisted
    rw [has, hlisted]
    rfl

/-- Predicates that are the same stand for the same condition. -/
theorem Means.eq_of_sameAs {rs rs' : List BaseRelation} {k k' : Condition} {p p' : Predicate}
    (h : Means rs k p) (h' : Means rs' k' p') (hp : p.SameAs p') : k = k' := by
  cases h with
  | literal ha =>
    cases h' with
    | literal hb => rw [← ha.1, ← hb.1, hp.1, hp.2]
    | equality => exact hp.elim
  | equality ha hb =>
    cases h' with
    | literal => exact hp.elim
    | equality ha' hb' => rw [← ha.1, ← hb.1, ← ha'.1, ← hb'.1, hp.1, hp.2]

/-- Canonical plans that are the same, statistics aside, are plans of the same query. -/
theorem Canonical.eq_of_sameAs (h : Canonical c q p) (h' : Canonical c' q' p') (hp : p.SameAs p') :
    q = q' := by
  obtain ⟨hscans, hpredicates, hprojections⟩ := hp.parts
  have hrelations : q.relations = q'.relations := by
    rw [← h.relations, ← h'.relations, Plan.scans_parts, Plan.scans_parts, hscans]
  have hconditions : q.conditions = q'.conditions := by
    have hmeant := h.predicates
    have hmeant' := h'.predicates
    rw [Plan.predicates_parts] at hmeant hmeant'
    exact eq_of_forall₂ hmeant hmeant' hpredicates fun _ _ _ _ => Means.eq_of_sameAs
  calc q = ⟨q.attributes, q.relations, q.conditions⟩ := rfl
    _ = ⟨q'.attributes, q'.relations, q'.conditions⟩ := by
      rw [h.attributes_eq, h'.attributes_eq, hprojections, hrelations, hconditions]
    _ = q' := rfl

/-- **Identification**: plain queries whose canonical plans have the same compact form are the same,
even if the plans are over different catalogues. -/
theorem Plain.eq_of_compact_eq (hq : q.Plain) (hq' : q'.Plain) (hc : c.attributeNames.Nodup)
    (hc' : c'.attributeNames.Nodup) (hp : q.plan c = .ok p) (hp' : q'.plan c' = .ok p')
    (h : p.compact = p'.compact) : q = q' := by
  have hsame := Plan.sameAs_of_compact_eq (hq.everywhere_plan hp) (hq'.everywhere_plan hp') h
  exact (canonical_of_plan hc hp).eq_of_sameAs (canonical_of_plan hc' hp') hsame

end Query

end RelPlan
