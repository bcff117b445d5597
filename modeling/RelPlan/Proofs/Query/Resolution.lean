import Mathlib.Data.List.Induction
import RelPlan.Proofs.Query.Canonical

/-!
# Resolving the names of a query

The canonical plan of a query is built from what the names in the query stand for. The relations
are resolved first, one by one, and then the attribute names, condition by condition and at last
those to put out; the first name that stands for nothing is reported (`Query.FirstFault`). If every
name stands for something (`Query.Answerable`) there is a canonical plan, and it has just the parts
that the query lists, in the same order (`Query.Canonical`). This holds over every catalogue in
which no name is taken twice (`Query.canonicalPlan_iff`).
-/

namespace RelPlan

namespace Query

variable {α β : Type} {c : Catalogue} {q : Query} {p : Plan} {rs found : List BaseRelation}
  {r : BaseRelation} {name : String} {ns ms before after : List String} {e : PlanError}

/-! ### What a query asks for -/

/-- The attribute names in a query: those in its conditions, then those to put out. -/
def names (q : Query) : List String :=
  q.conditions.flatMap Condition.names ++ q.attributes.getD []

/-- Every name is that of a relation in the catalogue, and none occurs twice. -/
structure Listed (c : Catalogue) (ns : List String) : Prop where
  /-- No name occurs twice. -/
  nodup : ns.Nodup
  /-- There is a relation of each name. -/
  known : ∀ n ∈ ns, n ∈ c.relations.map BaseRelation.name

/-- One of the relations that are listed has an attribute of that name. -/
def InReach (c : Catalogue) (listed : List String) (name : String) : Prop :=
  ∃ r ∈ c.relations, r.name ∈ listed ∧ r.relation.Has name

instance (c : Catalogue) (listed : List String) (name : String) :
    Decidable (InReach c listed name) :=
  inferInstanceAs (Decidable (∃ r ∈ c.relations, r.name ∈ listed ∧ r.relation.Has name))

/-- Every name in the query stands for something. -/
structure Answerable (q : Query) (c : Catalogue) : Prop where
  /-- Some relation is read. -/
  ne_nil : q.relations ≠ []
  /-- The relations are in the catalogue, and none is read twice. -/
  listed : Listed c q.relations
  /-- Each attribute belongs to one of the relations that are read. -/
  reached : ∀ n ∈ q.names, InReach c q.relations n

/-- The first name in a query that stands for nothing, and the error that reports it. The relations
come before the attributes, and that a relation is read again is reported before that it is not
known. -/
inductive FirstFault (c : Catalogue) (q : Query) : PlanError → Prop where
  /-- A relation is read again. -/
  | repeated {before after : List String} {name : String} :
      q.relations = before ++ name :: after → Listed c before → name ∈ before →
        FirstFault c q (.duplicateRelation name)
  /-- A relation is not in the catalogue. -/
  | unknown {before after : List String} {name : String} :
      q.relations = before ++ name :: after → Listed c before → name ∉ before →
        name ∉ c.relations.map BaseRelation.name → FirstFault c q (.unknownRelation name)
  /-- No relation is read. -/
  | empty : q.relations = [] → FirstFault c q .emptyPlan
  /-- An attribute belongs to none of the relations that are read. -/
  | outOfReach {before after : List String} {name : String} :
      q.relations ≠ [] → Listed c q.relations → q.names = before ++ name :: after →
        (∀ n ∈ before, InReach c q.relations n) → ¬ InReach c q.relations name →
        FirstFault c q (.attributeNotFound name)

/-! ### Relations -/

theorem pick_of_mem (hn : name ∈ found.map BaseRelation.name) :
    pick c found name = .error (.duplicateRelation name) :=
  if_pos hn

theorem pick_of_unknown (hn : name ∉ found.map BaseRelation.name)
    (hc : name ∉ c.relations.map BaseRelation.name) :
    pick c found name = .error (.unknownRelation name) := by
  have hnone : c.relation? name = none := by
    rwa [← Option.not_isSome_iff_eq_none, Catalogue.isSome_relation?_iff]
  rw [pick, if_neg hn, hnone]

theorem exists_pick (hn : name ∉ found.map BaseRelation.name)
    (hc : name ∈ c.relations.map BaseRelation.name) :
    ∃ r ∈ c.relations, r.name = name ∧ pick c found name = .ok (found ++ [r]) := by
  obtain ⟨r, hr⟩ := Option.isSome_iff_exists.1 (Catalogue.isSome_relation?_iff.2 hc)
  refine ⟨r, List.mem_of_find?_eq_some hr, by simpa using List.find?_some hr, ?_⟩
  rw [pick, if_neg hn, hr]

theorem Listed.of_append (h : Listed c (before ++ after)) : Listed c before where
  nodup := h.nodup.of_append_left
  known := fun n hn => h.known n (List.mem_append_left _ hn)

/-- Names that stand for relations are resolved to these. -/
theorem Listed.exists_resolveRelations (h : Listed c ns) :
    ∃ rs, resolveRelations c ns = .ok rs ∧ rs.map BaseRelation.name = ns := by
  induction ns using List.reverseRecOn with
  | nil => exact ⟨[], rfl, rfl⟩
  | append_singleton ns name ih =>
    obtain ⟨rs, hrs, rfl⟩ := ih h.of_append
    have hnew : name ∉ rs.map BaseRelation.name := fun hmem =>
      (List.nodup_append.1 h.nodup).2.2 name hmem name (by simp) rfl
    obtain ⟨r, -, rfl, hr⟩ := exists_pick hnew (h.known name (by simp))
    refine ⟨rs ++ [r], ?_, by simp⟩
    rw [resolveRelations_eq] at hrs ⊢
    rw [List.foldlM_append, bind_eq_ok_iff]
    refine ⟨rs, hrs, ?_⟩
    rw [List.foldlM_cons, hr]
    rfl

/-- A name that cannot be picked behind names that stand for relations ends the resolution. -/
theorem resolveRelations_of_pick_error (hrs : resolveRelations c before = .ok rs)
    (h : pick c rs name = .error e) :
    resolveRelations c (before ++ name :: after) = .error e := by
  rw [resolveRelations_eq] at hrs ⊢
  rw [List.foldlM_append, bind_eq_error_iff]
  refine Or.inr ⟨rs, hrs, ?_⟩
  rw [List.foldlM_cons, bind_eq_error_iff]
  exact Or.inl h

/-- Of names that do not all stand for relations of their own, there is a first that does not. -/
theorem exists_not_listed (h : ¬ Listed c ns) :
    ∃ before name after, ns = before ++ name :: after ∧ Listed c before ∧
      (name ∈ before ∨ name ∉ before ∧ name ∉ c.relations.map BaseRelation.name) := by
  induction ns using List.reverseRecOn with
  | nil => exact absurd ⟨.nil, by simp⟩ h
  | append_singleton ns name ih =>
    by_cases hns : Listed c ns
    · refine ⟨ns, name, [], rfl, hns, ?_⟩
      by_contra hgood
      rw [not_or, not_and, not_not] at hgood
      obtain ⟨hnew, hknown⟩ := hgood
      refine h ⟨?_, ?_⟩
      · rw [← List.concat_eq_append]
        exact hns.nodup.concat hnew
      · intro n hn
        rcases List.mem_append.1 hn with hn | hn
        · exact hns.known n hn
        · obtain rfl := List.mem_singleton.1 hn
          exact hknown hnew
    · obtain ⟨before, n, after, rfl, hbefore, hn⟩ := ih hns
      exact ⟨before, n, after ++ [name], List.append_assoc _ _ _, hbefore, hn⟩

/-! ### Attributes -/

/-- None of the relations has an attribute of that name. -/
def Missing (rs : List BaseRelation) (name : String) : Prop := ∀ r ∈ rs, ¬ r.relation.Has name

instance (rs : List BaseRelation) : DecidablePred (Missing rs) := fun name =>
  inferInstanceAs (Decidable (∀ r ∈ rs, ¬ r.relation.Has name))

/-- The computation looks up attribute names in turn: it fails at the first one that is missing, and
it does not fail otherwise. -/
structure LooksUp (rs : List BaseRelation) (ns : List String) (x : Except PlanError α) : Prop where
  /-- No name is missing. -/
  ok : ns.find? (Missing rs ·) = none → ∃ a, x = .ok a
  /-- A name is missing, and none before it is. -/
  error (name : String) : ns.find? (Missing rs ·) = some name → x = .error (.attributeNotFound name)

namespace LooksUp

theorem of_ok (rs : List BaseRelation) (a : α) : LooksUp rs [] (.ok a : Except PlanError α) :=
  ⟨fun _ => ⟨a, rfl⟩, fun _ h => absurd h (by simp)⟩

theorem resolveAttribute (rs : List BaseRelation) (name : String) :
    LooksUp rs [name] (resolveAttribute rs name) := by
  have hsome : (rs.findSome? fun r => r.relation.attribute? name).isSome ↔ ¬ Missing rs name := by
    simp [Missing, List.isSome_findSome?, Relation.isSome_attribute?_iff]
  constructor
  · intro h
    have hfound : ¬ Missing rs name := by simpa using h
    obtain ⟨a, ha⟩ := Option.isSome_iff_exists.1 (hsome.2 hfound)
    exact ⟨a, by rw [Query.resolveAttribute, ha]⟩
  · intro n h
    obtain ⟨hmissing, rfl⟩ : Missing rs name ∧ name = n := by simpa using h
    have hnone : (rs.findSome? fun r => r.relation.attribute? name) = none := by
      rw [← Option.not_isSome_iff_eq_none, hsome, not_not]
      exact hmissing
    rw [Query.resolveAttribute, hnone]

/-- What is computed in sequence is looked up in sequence. -/
theorem bind {x : Except PlanError α} {f : α → Except PlanError β} (hx : LooksUp rs ns x)
    (hf : ∀ a, LooksUp rs ms (f a)) : LooksUp rs (ns ++ ms) (x >>= f) := by
  constructor
  · intro h
    rw [List.find?_append, Option.or_eq_none_iff] at h
    obtain ⟨a, rfl⟩ := hx.ok h.1
    exact (hf a).ok h.2
  · intro n h
    rw [List.find?_append, Option.or_eq_some_iff] at h
    rcases h with h | ⟨hnone, h⟩
    · rw [hx.error n h]
      rfl
    · obtain ⟨a, rfl⟩ := hx.ok hnone
      exact (hf a).error n h

theorem map {x : Except PlanError α} (hx : LooksUp rs ns x) (f : α → β) :
    LooksUp rs ns (x >>= fun a => .ok (f a)) := by
  rw [← List.append_nil ns]
  exact hx.bind fun a => of_ok rs (f a)

theorem mapM {f : α → Except PlanError β} {g : α → List String}
    (hf : ∀ a, LooksUp rs (g a) (f a)) (as : List α) :
    LooksUp rs (as.flatMap g) (as.mapM f) := by
  induction as with
  | nil => exact of_ok rs []
  | cons a as ih =>
    rw [List.mapM_cons, List.flatMap_cons]
    exact (hf a).bind fun b => ih.map _

theorem resolveCondition (rs : List BaseRelation) (k : Condition) :
    LooksUp rs k.names (resolveCondition rs k) := by
  cases k with
  | literal name value => exact (resolveAttribute rs name).map _
  | equality left right =>
    exact (resolveAttribute rs left).bind fun a => (resolveAttribute rs right).map _

end LooksUp

/-! ### The plan is built, or the first fault is reported -/

/-- Once the relations are resolved, the attribute names are looked up in them. -/
theorem looksUp_plan (hrs : resolveRelations c q.relations = .ok rs) (hne : rs ≠ []) :
    LooksUp rs q.names (q.plan c) := by
  obtain ⟨r, rs, rfl⟩ := List.exists_cons_of_ne_nil hne
  rw [plan, hrs]
  refine (LooksUp.mapM (LooksUp.resolveCondition _) q.conditions).bind fun ps => ?_
  cases q.attributes with
  | none => exact .of_ok _ _
  | some listed =>
    have hlisted := LooksUp.mapM (LooksUp.resolveAttribute (r :: rs)) listed
    rw [List.flatMap_singleton'] at hlisted
    exact hlisted.map _

theorem plan_of_resolveRelations_error (h : resolveRelations c q.relations = .error e) :
    q.plan c = .error e := by
  rw [plan, h]
  rfl

/-- Where no relation name is taken twice, a name is in reach exactly if one of the relations that
were resolved has it. -/
theorem inReach_iff (hc : (c.relations.map BaseRelation.name).Nodup)
    (hrs : resolveRelations c ns = .ok rs) (hnames : rs.map BaseRelation.name = ns) :
    InReach c ns name ↔ ¬ Missing rs name := by
  have hpicked := picked_of_resolveRelations hrs
  simp only [Missing, not_forall, not_not, exists_prop]
  constructor
  · rintro ⟨r, hr, hlisted, hhas⟩
    rw [← hnames] at hlisted
    obtain ⟨s, hs, hsr⟩ := List.mem_map.1 hlisted
    obtain rfl := List.inj_on_of_nodup_map hc (hpicked.mem s hs) hr hsr
    exact ⟨s, hs, hhas⟩
  · rintro ⟨r, hr, hhas⟩
    exact ⟨r, hpicked.mem r hr, hnames ▸ List.mem_map_of_mem hr, hhas⟩

theorem FirstFault.plan_eq_error (hc : (c.relations.map BaseRelation.name).Nodup)
    (h : FirstFault c q e) : q.plan c = .error e := by
  cases h with
  | repeated hq hbefore hn =>
    obtain ⟨rs, hrs, rfl⟩ := hbefore.exists_resolveRelations
    refine plan_of_resolveRelations_error ?_
    rw [hq, resolveRelations_of_pick_error hrs (pick_of_mem hn)]
  | unknown hq hbefore hn hunknown =>
    obtain ⟨rs, hrs, rfl⟩ := hbefore.exists_resolveRelations
    refine plan_of_resolveRelations_error ?_
    rw [hq, resolveRelations_of_pick_error hrs (pick_of_unknown hn hunknown)]
  | empty hq =>
    rw [plan, hq]
    rfl
  | @outOfReach before after name hne hlisted hq hbefore hn =>
    obtain ⟨rs, hrs, hnames⟩ := hlisted.exists_resolveRelations
    have hrs_ne : rs ≠ [] := by
      rintro rfl
      exact hne hnames.symm
    refine (looksUp_plan hrs hrs_ne).error name ?_
    rw [List.find?_eq_some_iff_append]
    refine ⟨?_, before, after, hq, ?_⟩
    · simpa [inReach_iff hc hrs hnames] using hn
    · intro n hmem
      simpa [inReach_iff hc hrs hnames] using hbefore n hmem

theorem Answerable.exists_plan (hc : (c.relations.map BaseRelation.name).Nodup)
    (h : q.Answerable c) : ∃ p, q.plan c = .ok p := by
  obtain ⟨rs, hrs, hnames⟩ := h.listed.exists_resolveRelations
  have hrs_ne : rs ≠ [] := by
    rintro rfl
    exact h.ne_nil hnames.symm
  refine (looksUp_plan hrs hrs_ne).ok (List.find?_eq_none.2 fun n hn => ?_)
  simpa [inReach_iff hc hrs hnames] using h.reached n hn

/-- A query in which some name stands for nothing has a first fault. -/
theorem exists_firstFault (h : ¬ q.Answerable c) : ∃ e, FirstFault c q e := by
  by_cases hlisted : Listed c q.relations
  · by_cases hne : q.relations = []
    · exact ⟨_, .empty hne⟩
    · have hsome : (q.names.find? fun n => ¬ InReach c q.relations n).isSome := by
        by_contra hnone
        rw [Option.not_isSome_iff_eq_none, List.find?_eq_none] at hnone
        exact h ⟨hne, hlisted, fun n hn => by simpa using hnone n hn⟩
      obtain ⟨name, hname⟩ := Option.isSome_iff_exists.1 hsome
      obtain ⟨hn, before, after, hq, hbefore⟩ := List.find?_eq_some_iff_append.1 hname
      refine ⟨_, .outOfReach hne hlisted hq ?_ (by simpa using hn)⟩
      intro n hmem
      simpa using hbefore n hmem
  · obtain ⟨before, name, after, hq, hbefore, hn | ⟨hn, hunknown⟩⟩ := exists_not_listed hlisted
    · exact ⟨_, .repeated hq hbefore hn⟩
    · exact ⟨_, .unknown hq hbefore hn hunknown⟩

/-! ### Resolution -/

theorem result_canonicalPlan (q : Query) (c : Catalogue) :
    (q.canonicalPlan c).result = q.plan c := by
  rw [canonicalPlan, Logged.result_bind, Logged.result_ofExcept]
  exact bind_pure _

/-- **Resolution**: over a catalogue in which no name is taken twice, a query has a canonical plan
exactly if every name in it stands for something. Otherwise the error is that of the first name that
does not. The parts of the plan are those that the query lists. -/
theorem canonicalPlan_iff (hr : (c.relations.map BaseRelation.name).Nodup)
    (ha : c.attributeNames.Nodup) (q : Query) :
    ((∃ p, (q.canonicalPlan c).result = .ok p) ↔ q.Answerable c) ∧
      (∀ e, (q.canonicalPlan c).result = .error e ↔ FirstFault c q e) ∧
      ∀ p, (q.canonicalPlan c).result = .ok p → Canonical c q p := by
  rw [result_canonicalPlan]
  refine ⟨⟨?_, fun h => h.exists_plan hr⟩, fun e => ⟨?_, fun h => h.plan_eq_error hr⟩,
    fun p => canonical_of_plan ha⟩
  · rintro ⟨p, hp⟩
    by_contra hbad
    obtain ⟨e, he⟩ := exists_firstFault hbad
    rw [he.plan_eq_error hr] at hp
    cases hp
  · intro he
    have hbad : ¬ q.Answerable c := by
      intro hgood
      obtain ⟨p, hp⟩ := hgood.exists_plan hr
      rw [hp] at he
      cases he
    obtain ⟨e', he'⟩ := exists_firstFault hbad
    rw [he'.plan_eq_error hr] at he
    cases he
    exact he'

/-- The wines of a house; nothing is known of their vintages. -/
def wines : BaseRelation :=
  ⟨"wines", .clamp 70, [⟨"wine", .clamp 70⟩, ⟨"region", .clamp 12⟩, ⟨"vintage", 0⟩]⟩

/-- The cellars and what is stored there. -/
def cellars : BaseRelation :=
  ⟨"cellars", .clamp 300, [⟨"cellar", .clamp 4⟩, ⟨"stored", .clamp 65⟩]⟩

/-- The relations of a wine house. -/
def wineHouse : Catalogue := ⟨[wines, cellars]⟩

/-- Which wines of a region are stored. -/
def storedWines : Query :=
  ⟨some ["wine"], ["cellars", "wines"],
    [.equality "stored" "wine", .literal "region" "Jura"]⟩

/-- The same, but the cellars are not read. -/
def unreadCellars : Query := { storedWines with relations := ["wines"] }

theorem storedWines_canonicalPlan :
    (wineHouse.relations.map BaseRelation.name).Nodup ∧ wineHouse.attributeNames.Nodup ∧
      (∃ p, (storedWines.canonicalPlan wineHouse).result = .ok p ∧
        Canonical wineHouse storedWines p) ∧
      (unreadCellars.canonicalPlan wineHouse).result = .error (.attributeNotFound "stored") := by
  have hr : (wineHouse.relations.map BaseRelation.name).Nodup := by decide
  have ha : wineHouse.attributeNames.Nodup := by decide
  obtain ⟨haccepts, -, hcanonical⟩ := canonicalPlan_iff hr ha storedWines
  have hgood : storedWines.Answerable wineHouse := ⟨by decide, ⟨by decide, by decide⟩, by decide⟩
  have hnames : unreadCellars.names = [] ++ "stored" :: ["wine", "region", "wine"] := rfl
  have hfault : FirstFault wineHouse unreadCellars (.attributeNotFound "stored") :=
    .outOfReach (by decide) ⟨by decide, by decide⟩ hnames (by simp) (by decide)
  obtain ⟨p, hp⟩ := haccepts.2 hgood
  exact ⟨hr, ha, ⟨p, hp, hcanonical p hp⟩, ((canonicalPlan_iff hr ha unreadCellars).2.1 _).2 hfault⟩

end Query

end RelPlan
