import Mathlib.Data.Sym.Sym2
import RelPlan.Optimise.Parts
import RelPlan.Proofs.Plan.Reach

/-!
# The contents of a plan

Which predicates a plan applies and which projections stand above its products and joins, as
functions on the tree that do not ask from where the tree is looked at (`predicates_parts`,
`projections_parts`). Rearranging may exchange the sides of an equality, so predicates are
compared as `Predicate.unsided` shows them.
-/

namespace RelPlan

/-! ### Predicates without sides -/

namespace Predicate

/-- A predicate without the order of its sides: a comparison with a literal, or the unordered
pair of the attributes that are equated. -/
def unsided : Predicate → (Attribute × String) ⊕ Sym2 Attribute
  | literal a v => .inl (a, v)
  | equality a b => .inr s(a, b)

@[simp] theorem unsided_reversed (p : Predicate) : p.reversed.unsided = p.unsided := by
  cases p with
  | literal => rfl
  | equality a b => exact congrArg Sum.inr Sym2.eq_swap

/-- What is lost is only whether the sides were exchanged. -/
theorem unsided_eq_iff {p q : Predicate} : p.unsided = q.unsided ↔ p = q ∨ p = q.reversed := by
  constructor
  · intro h
    cases p with
    | literal a v =>
      cases q with
      | literal b w => exact Or.inl (by simpa [unsided] using h)
      | equality b c => simp [unsided] at h
    | equality a b =>
      cases q with
      | literal c w => simp [unsided] at h
      | equality c d =>
        rcases Sym2.eq_iff.1 (Sum.inr_injective h) with ⟨rfl, rfl⟩ | ⟨rfl, rfl⟩
        · exact Or.inl rfl
        · exact Or.inr rfl
  · rintro (rfl | rfl)
    · rfl
    · exact unsided_reversed q

@[simp] theorem unsided_oriented (p : Predicate) (l : Relation) :
    (p.oriented l).unsided = p.unsided := by
  unfold oriented
  split
  · rfl
  · exact unsided_reversed p

theorem mem_names_reversed {p : Predicate} {n : String} : n ∈ p.reversed.names ↔ n ∈ p.names := by
  cases p with
  | literal => rfl
  | equality a b => simp [reversed, names, attributes, or_comm]

theorem names_ne_nil (p : Predicate) : p.names ≠ [] := by
  cases p <;> simp [names, attributes]

/-- All names of the predicate are among `ns`. -/
def Inside (p : Predicate) (ns : List String) : Prop := ∀ n ∈ p.names, n ∈ ns

instance (p : Predicate) (ns : List String) : Decidable (p.Inside ns) :=
  inferInstanceAs (Decidable (∀ n ∈ p.names, n ∈ ns))

theorem Inside.mono {p : Predicate} {ns ms : List String} (h : p.Inside ns)
    (hs : ∀ n ∈ ns, n ∈ ms) : p.Inside ms := fun n hn => hs n (h n hn)

theorem mem_names_of_unsided_eq {p q : Predicate} (h : p.unsided = q.unsided) {n : String} :
    n ∈ p.names ↔ n ∈ q.names := by
  rcases unsided_eq_iff.1 h with rfl | rfl
  · rfl
  · exact mem_names_reversed

theorem inside_of_unsided_eq {p q : Predicate} (h : p.unsided = q.unsided) (ns : List String) :
    p.Inside ns ↔ q.Inside ns := by
  simp only [Inside, mem_names_of_unsided_eq h]

/-- A predicate is inside one list of names at most, if the lists have nothing in common. -/
theorem Inside.not_of_disjoint {p : Predicate} {ns ms : List String} (h : p.Inside ns)
    (hd : ns.Disjoint ms) : ¬ p.Inside ms := by
  obtain ⟨n, hn⟩ := List.exists_mem_of_ne_nil _ p.names_ne_nil
  exact fun h' => hd (h n hn) (h' n hn)

/-- A choice among predicates that does not look at sides is a choice among unsided ones. -/
theorem exists_filter_unsided {f : Predicate → Bool}
    (hf : ∀ p q : Predicate, p.unsided = q.unsided → f p = f q) :
    ∃ g, ∀ ps : List Predicate, (ps.filter f).map unsided = (ps.map unsided).filter g := by
  refine ⟨Function.extend unsided f fun _ => false, fun ps => ?_⟩
  have hg : Function.extend unsided f (fun _ => false) ∘ unsided = f :=
    Function.FactorsThrough.extend_comp _ fun p q h => hf p q h
  rw [List.filter_map, hg]

theorem map_unsided_filter {f : Predicate → Bool}
    (hf : ∀ p q : Predicate, p.unsided = q.unsided → f p = f q) {ps qs : List Predicate}
    (h : ps.map unsided = qs.map unsided) :
    (ps.filter f).map unsided = (qs.filter f).map unsided := by
  obtain ⟨g, hg⟩ := exists_filter_unsided hf
  rw [hg, hg, h]

theorem exists_mem_of_perm_unsided {ps qs : List Predicate}
    (h : (ps.map unsided).Perm (qs.map unsided)) {p : Predicate} (hp : p ∈ ps) :
    ∃ q ∈ qs, q.unsided = p.unsided :=
  List.mem_map.1 (h.subset (List.mem_map_of_mem hp))

end Predicate

/-! ### Predicates and projections of a plan -/

namespace Plan

/-- The predicates of the selections and joins, inputs before the node above them. -/
def predicates : Plan → List Predicate
  | scan _ _ => []
  | select p i _ => i.predicates ++ [p]
  | project _ i _ => i.predicates
  | product l r _ => l.predicates ++ r.predicates
  | join p l r _ => l.predicates ++ r.predicates ++ [p]

/-- The projections above every product and join, the lowest first. -/
def projections : Plan → List (List Attribute)
  | scan _ _ => []
  | select _ i _ => i.projections
  | project as i _ => i.projections ++ [as]
  | product _ _ _ => []
  | join _ _ _ _ => []

/-- No node of the tree is a projection. -/
def Unnarrowed : Plan → Prop
  | scan _ _ => True
  | select _ i _ => i.Unnarrowed
  | project _ _ _ => False
  | product l r _ => l.Unnarrowed ∧ r.Unnarrowed
  | join _ l r _ => l.Unnarrowed ∧ r.Unnarrowed

theorem predicates_partsFrom (p : Plan) (above : Bool) :
    (p.partsFrom above).predicates = p.predicates := by
  induction p generalizing above with
  | scan => rfl
  | select q i o ih => exact congrArg (· ++ [q]) (ih above)
  | project as i o ih => cases above <;> exact ih _
  | product l r o ihl ihr =>
    show (l.partsFrom false).predicates ++ (r.partsFrom false).predicates = _
    rw [ihl, ihr]
    rfl
  | join q l r o ihl ihr =>
    show (l.partsFrom false).predicates ++ (r.partsFrom false).predicates ++ [q] = _
    rw [ihl, ihr]
    rfl

@[simp] theorem predicates_parts (p : Plan) : p.parts.predicates = p.predicates :=
  p.predicates_partsFrom true

@[simp] theorem scans_parts (p : Plan) : p.parts.scans = p.scans := p.scans_partsFrom true

/-- A plan that reads one base relation has no products. -/
theorem products_parts (p : Plan) : p.parts.products = p.scans.length - 1 := by
  have h := p.length_scans_partsFrom true
  rw [p.scans_partsFrom] at h
  exact Nat.eq_sub_of_add_eq h.symm

theorem projections_partsFrom_false (p : Plan) : (p.partsFrom false).projections = [] := by
  induction p with
  | scan => rfl
  | select q i o ih => exact ih
  | project as i o ih => exact ih
  | product l r o ihl ihr => exact List.append_eq_nil_iff.2 ⟨ihl, ihr⟩
  | join q l r o ihl ihr => exact List.append_eq_nil_iff.2 ⟨ihl, ihr⟩

@[simp] theorem projections_parts (p : Plan) : p.parts.projections = p.projections := by
  induction p with
  | scan => rfl
  | select q i o ih => exact ih
  | project as i o ih => exact congrArg (· ++ [as]) ih
  | product l r o =>
    exact List.append_eq_nil_iff.2 ⟨l.projections_partsFrom_false, r.projections_partsFrom_false⟩
  | join q l r o =>
    exact List.append_eq_nil_iff.2 ⟨l.projections_partsFrom_false, r.projections_partsFrom_false⟩

theorem unnarrowed_iff_partsFrom_false {p : Plan} :
    p.Unnarrowed ↔ (p.partsFrom false).innerProjections = 0 := by
  induction p with
  | scan => exact ⟨fun _ => rfl, fun _ => trivial⟩
  | select q i o ih => exact ih
  | project as i o ih => exact ⟨False.elim, fun h => Nat.succ_ne_zero _ h⟩
  | product l r o ihl ihr => exact (and_congr ihl ihr).trans Nat.add_eq_zero_iff.symm
  | join q l r o ihl ihr => exact (and_congr ihl ihr).trans Nat.add_eq_zero_iff.symm

/-- A plan has no projection if none is listed and none is counted. -/
theorem unnarrowed_iff_parts {p : Plan} :
    p.Unnarrowed ↔ p.projections = [] ∧ p.parts.innerProjections = 0 := by
  induction p with
  | scan => exact ⟨fun _ => ⟨rfl, rfl⟩, fun _ => trivial⟩
  | select q i o ih => exact ih
  | project as i o ih => simp [Unnarrowed, projections]
  | product l r o =>
    exact unnarrowed_iff_partsFrom_false.trans (and_iff_right rfl).symm
  | join q l r o =>
    exact unnarrowed_iff_partsFrom_false.trans (and_iff_right rfl).symm

/-! ### Contents do not depend on estimates -/

theorem scans_clearOutputs (p : Plan) : p.clearOutputs.scans = p.scans := by
  induction p <;> simp_all [clearOutputs, scans]

theorem predicates_clearOutputs (p : Plan) : p.clearOutputs.predicates = p.predicates := by
  induction p <;> simp_all [clearOutputs, predicates]

theorem visible_clearOutputs (p : Plan) : p.clearOutputs.visible = p.visible := by
  induction p <;> simp_all [clearOutputs, visible]

theorem partsFrom_clearOutputs (p : Plan) (above : Bool) :
    p.clearOutputs.partsFrom above = p.partsFrom above := by
  induction p generalizing above <;> simp only [clearOutputs, partsFrom, *]

theorem parts_clearOutputs (p : Plan) : p.clearOutputs.parts = p.parts :=
  p.partsFrom_clearOutputs true

theorem clearOutputs_clearOutputs (p : Plan) : p.clearOutputs.clearOutputs = p.clearOutputs :=
  bare_iff_clearOutputs_eq.1 p.bare_clearOutputs

/-! ### Contents and names -/

/-- Without projections every name of a base relation is visible. -/
theorem Unnarrowed.mem_visible_iff {p : Plan} (h : p.Unnarrowed) {n : String} :
    n ∈ p.visible ↔ n ∈ p.baseNames := by
  induction p with
  | scan r o => rw [baseNames_scan]; rfl
  | select q i o ih => exact ih h
  | project as i o ih => exact h.elim
  | product l r o ihl ihr =>
    rw [mem_visible_product, baseNames_product, List.mem_append, ihl h.1, ihr h.2]
  | join q l r o ihl ihr =>
    rw [mem_visible_join, baseNames_join, List.mem_append, ihl h.1, ihr h.2]

/-- The predicates of a resolved plan compare attributes of its base relations. -/
theorem Resolved.inside_baseNames {p : Plan} (h : p.Resolved) :
    ∀ q ∈ p.predicates, q.Inside p.baseNames := by
  induction p with
  | scan r o => simp [predicates]
  | select q i o ih =>
    intro q' hq
    rcases List.mem_append.1 hq with hq | hq
    · exact ih h.1 q' hq
    · rw [List.mem_singleton.1 hq]
      exact fun n hn => mem_baseNames_of_mem_visible (h.2 n hn)
  | project as i o ih => exact ih h.1
  | product l r o ihl ihr =>
    intro q' hq
    rw [baseNames_product]
    rcases List.mem_append.1 hq with hq | hq
    · exact (ihl h.1 q' hq).mono fun n => List.mem_append_left _
    · exact (ihr h.2 q' hq).mono fun n => List.mem_append_right _
  | join q l r o ihl ihr =>
    intro q' hq
    rw [baseNames_join]
    rcases List.mem_append.1 hq with hq | hq
    · rcases List.mem_append.1 hq with hq | hq
      · exact (ihl h.1 q' hq).mono fun n => List.mem_append_left _
      · exact (ihr h.2.1 q' hq).mono fun n => List.mem_append_right _
    · obtain ⟨a, b, rfl, ha, hb⟩ := h.2.2
      rw [List.mem_singleton.1 hq]
      intro n hn
      simp only [Predicate.names, Predicate.attributes, namesOf_cons, namesOf_nil, List.mem_cons,
        List.not_mem_nil, or_false] at hn
      rcases hn with rfl | rfl
      · exact List.mem_append_left _ (mem_baseNames_of_mem_visible ha)
      · exact List.mem_append_right _ (mem_baseNames_of_mem_visible hb)

theorem Resolved.filter_inside_baseNames {p : Plan} (h : p.Resolved) :
    (p.predicates.filter fun q => q.Inside p.baseNames) = p.predicates :=
  List.filter_eq_self.2 fun q hq => decide_eq_true (h.inside_baseNames q hq)

theorem Resolved.filter_inside_of_disjoint {p : Plan} (h : p.Resolved) {ns : List String}
    (hd : p.baseNames.Disjoint ns) : (p.predicates.filter fun q => q.Inside ns) = [] :=
  List.filter_eq_nil_iff.2 fun q hq => by
    simpa using (h.inside_baseNames q hq).not_of_disjoint hd

/-- The projections of a resolved plan list attributes of its base relations. -/
theorem Resolved.namesOf_projections {p : Plan} (h : p.Resolved) :
    ∀ as ∈ p.projections, ∀ n ∈ namesOf as, n ∈ p.baseNames := by
  induction p with
  | scan r o => simp [projections]
  | select q i o ih => exact ih h.1
  | project as i o ih =>
    intro bs hb n hn
    rcases List.mem_append.1 hb with hb | hb
    · exact ih h.1 bs hb n hn
    · rw [List.mem_singleton.1 hb] at hn
      rw [baseNames_project]
      exact mem_baseNames_of_mem_visible (h.2 n hn)
  | product l r o => simp [projections]
  | join q l r o => simp [projections]

/-! ### Stacks of selections -/

section Filtered

variable (ps : List Predicate) (x : Plan)

@[simp] theorem visible_foldl_filtered : (ps.foldl filtered x).visible = x.visible := by
  induction ps generalizing x with
  | nil => rfl
  | cons p ps ih => exact ih (x.filtered p)

@[simp] theorem scans_foldl_filtered : (ps.foldl filtered x).scans = x.scans := by
  induction ps generalizing x with
  | nil => rfl
  | cons p ps ih => exact ih (x.filtered p)

@[simp] theorem baseNames_foldl_filtered : (ps.foldl filtered x).baseNames = x.baseNames := by
  rw [baseNames, scans_foldl_filtered, baseNames]

@[simp] theorem predicates_foldl_filtered :
    (ps.foldl filtered x).predicates = x.predicates ++ ps := by
  induction ps generalizing x with
  | nil => exact (List.append_nil _).symm
  | cons p ps ih =>
    rw [List.foldl_cons, ih]
    exact List.append_assoc _ [p] ps

@[simp] theorem projections_foldl_filtered :
    (ps.foldl filtered x).projections = x.projections := by
  induction ps generalizing x with
  | nil => rfl
  | cons p ps ih => exact ih (x.filtered p)

@[simp] theorem unnarrowed_foldl_filtered :
    (ps.foldl filtered x).Unnarrowed ↔ x.Unnarrowed := by
  induction ps generalizing x with
  | nil => rfl
  | cons p ps ih => exact ih (x.filtered p)

variable {ps x}

theorem Bare.foldl_filtered (h : x.Bare) : (ps.foldl filtered x).Bare := by
  induction ps generalizing x with
  | nil => exact h
  | cons p ps ih => exact ih ⟨rfl, h⟩

theorem resolved_foldl_filtered :
    (ps.foldl filtered x).Resolved ↔ x.Resolved ∧ ∀ p ∈ ps, p.Inside x.visible := by
  induction ps generalizing x with
  | nil => simp
  | cons p ps ih =>
    rw [List.foldl_cons, ih, List.forall_mem_cons]
    exact and_assoc

end Filtered

/-! ### Stacks of projections -/

section Narrowed

variable (lists : List (List Attribute)) (x : Plan)

@[simp] theorem scans_foldl_narrowed : (lists.foldl narrowed x).scans = x.scans := by
  induction lists generalizing x with
  | nil => rfl
  | cons as lists ih => exact ih (x.narrowed as)

@[simp] theorem predicates_foldl_narrowed : (lists.foldl narrowed x).predicates = x.predicates := by
  induction lists generalizing x with
  | nil => rfl
  | cons as lists ih => exact ih (x.narrowed as)

@[simp] theorem projections_foldl_narrowed :
    (lists.foldl narrowed x).projections = x.projections ++ lists := by
  induction lists generalizing x with
  | nil => exact (List.append_nil _).symm
  | cons as lists ih =>
    rw [List.foldl_cons, ih]
    exact List.append_assoc _ [as] lists

variable {lists x}

theorem Bare.foldl_narrowed (h : x.Bare) : (lists.foldl narrowed x).Bare := by
  induction lists generalizing x with
  | nil => exact h
  | cons as lists ih => exact ih ⟨rfl, h⟩

/-- The projections of a resolved plan can be put on every resolved plan that shows what they
list, and then show what they show on the plan itself. -/
theorem Resolved.foldl_narrowed {p : Plan} (h : p.Resolved) (hx : x.Resolved)
    (hs : ∀ as ∈ p.projections, ∀ n ∈ namesOf as, n ∈ x.visible) :
    (p.projections.foldl narrowed x).Resolved ∧
      (p.projections ≠ [] → ∀ n, n ∈ (p.projections.foldl narrowed x).visible ↔ n ∈ p.visible) := by
  induction p with
  | scan r o => exact ⟨hx, fun hne => absurd rfl hne⟩
  | select q i o ih => exact ih h.1 hs
  | project as i o ih =>
    rw [projections, List.forall_mem_append, List.forall_mem_singleton] at hs
    obtain ⟨hr, hv⟩ := ih h.1 hs.1
    have has : ∀ n ∈ namesOf as, n ∈ (i.projections.foldl narrowed x).visible := by
      intro n hn
      by_cases hi : i.projections = []
      · rw [hi]
        exact hs.2 n hn
      · exact (hv hi n).2 (h.2 n hn)
    rw [projections, List.foldl_append]
    refine ⟨⟨hr, has⟩, fun _ n => ?_⟩
    show n ∈ ((i.projections.foldl narrowed x).narrowed as).visible ↔ _
    rw [mem_visible_project, mem_visible_project]
    exact ⟨fun hn => ⟨h.2 n hn.2, hn.2⟩, fun hn => ⟨has n hn.2, hn.2⟩⟩
  | product l r o => exact ⟨hx, fun hne => absurd rfl hne⟩
  | join q l r o => exact ⟨hx, fun hne => absurd rfl hne⟩

end Narrowed

end Plan

end RelPlan
