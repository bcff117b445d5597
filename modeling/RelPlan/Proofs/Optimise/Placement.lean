import RelPlan.Optimise.Search
import RelPlan.Proofs.Plan.Contents

/-!
# Placing predicates

What `place` does, said by the predicates and not by their positions. The predicates that the two
sides can evaluate together are the ones that are placed: the first that links the sides becomes
the join's, turned to the left side, and the others are stacked in their order (`joinOn_place`,
`stacked_place`). They can be taken out by the positions that are applied, and this leaves exactly
the other predicates (`takeOut?_applied_place`), so no predicate is lost or placed twice
(`unsided_place_perm`).

Resolved inputs are combined to a resolved plan unless the predicate they are to be joined on is
`Lopsided` (`Plan.resolved_combine_iff`), which it never is if they have no name in common.
-/

namespace RelPlan

/-! ### Predicates that link two schemas -/

namespace Predicate

variable {l r : Relation}

/-- The left schema has both attributes of the equality, and the right one has the left attribute
alone. Such an equality links the schemas by its right attribute on the left, but its left attribute
is found there too, so it is not turned. -/
def Lopsided : Predicate → Relation → Relation → Prop
  | literal _ _, _, _ => False
  | equality a b, l, r => l.Has a.name ∧ l.Has b.name ∧ r.Has a.name ∧ ¬ r.Has b.name

instance : (p : Predicate) → (l r : Relation) → Decidable (p.Lopsided l r)
  | literal _ _, _, _ => inferInstanceAs (Decidable False)
  | equality a b, l, r =>
    inferInstanceAs (Decidable (l.Has a.name ∧ l.Has b.name ∧ r.Has a.name ∧ ¬ r.Has b.name))

theorem Lopsided.within_left {p : Predicate} (h : p.Lopsided l r) : p.Within l := by
  cases p with
  | literal => exact h.elim
  | equality a b => exact within_equality.2 ⟨h.1, h.2.1⟩

/-- A predicate that links two schemas, turned to the left one, is fit for their join unless it is
lopsided. -/
theorem Links.exists_oriented_iff {p : Predicate} (h : p.Links l r) :
    (∃ a b, p.oriented l = .equality a b ∧ l.Has a.name ∧ r.Has b.name) ↔ ¬ p.Lopsided l r := by
  cases p with
  | literal => exact h.elim
  | equality a b =>
    by_cases ha : l.Has a.name
    · have ho : (equality a b).oriented l = equality a b := if_pos ha
      rw [ho]
      constructor
      · rintro ⟨_, _, he, -, hb⟩ hlop
        cases he
        exact hlop.2.2.2 hb
      · intro hlop
        refine ⟨a, b, rfl, ha, ?_⟩
        rcases h with ⟨-, hb⟩ | ⟨hb, ha'⟩
        · exact hb
        · exact by_contra fun hb' => hlop ⟨ha, hb, ha', hb'⟩
    · have ho : (equality a b).oriented l = equality b a := if_neg ha
      rw [ho]
      obtain ⟨hb, ha'⟩ := h.resolve_left fun h => ha h.1
      exact ⟨fun _ hlop => ha hlop.1, fun _ => ⟨b, a, rfl, hb, ha'⟩⟩

/-- A predicate that links schemas without a common name, turned to the left one, is fit for their
join. -/
theorem Links.exists_oriented {p : Predicate} (h : p.Links l r) (hd : l.names.Disjoint r.names) :
    ∃ a b, p.oriented l = .equality a b ∧ l.Has a.name ∧ r.Has b.name := by
  refine h.exists_oriented_iff.2 fun hlop => ?_
  cases p with
  | literal => exact h
  | equality a b => exact hd hlop.1 hlop.2.2.1

/-- A predicate that both schemas together can evaluate, and neither alone, links them. -/
theorem links_of_within_beside {p : Predicate} (h : p.Within (l.beside r)) (hl : ¬ p.Within l)
    (hr : ¬ p.Within r) : p.Links l r := by
  cases p with
  | literal a v =>
    rw [within_literal, Relation.has_beside] at h
    rw [within_literal] at hl hr
    exact (h.elim hl hr).elim
  | equality a b =>
    rw [within_equality, Relation.has_beside, Relation.has_beside] at h
    rw [within_equality] at hl hr
    obtain ⟨ha | ha, hb | hb⟩ := h
    · exact absurd ⟨ha, hb⟩ hl
    · exact Or.inl ⟨ha, hb⟩
    · exact Or.inr ⟨hb, ha⟩
    · exact absurd ⟨ha, hb⟩ hr

/-- Between schemas without a common name there is one way to turn a linking predicate. -/
theorem oriented_eq_of_unsided_eq {p q : Predicate} (h : p.unsided = q.unsided)
    (hp : p.Links l r) (hd : l.names.Disjoint r.names) : p.oriented l = q.oriented l := by
  rcases unsided_eq_iff.1 h with rfl | rfl
  · rfl
  · cases q with
    | literal => rfl
    | equality a b =>
      unfold oriented
      rcases hp with ⟨hb, ha⟩ | ⟨ha, hb⟩
      · have ha' : ¬ l.Has a.name := fun h => hd h ha
        simp [left, reversed, hb, ha']
      · have hb' : ¬ l.Has b.name := fun h => hd h hb
        simp [left, reversed, ha, hb']

end Predicate

/-! ### Taking elements out of a list -/

section TakeOut

variable {α : Type}

/-- The elements at the given positions and the rest of the list, if they can be taken out one
after another, the last first: each position has to be in range at its turn. -/
def takeOut? : List Nat → List α → Option (List α × List α)
  | [], xs => some ([], xs)
  | i :: positions, xs =>
    (takeOut? positions xs).bind fun taken =>
      taken.2[i]?.map fun x => (x :: taken.1, taken.2.eraseIdx i)

/-- One more element is taken out from in front of the others. -/
theorem takeOut?_cons {i : Nat} {positions : List Nat} {xs taken rest : List α} {x : α}
    (h : takeOut? positions xs = some (taken, rest)) (hx : rest[i]? = some x) :
    takeOut? (i :: positions) xs = some (x :: taken, rest.eraseIdx i) := by
  rw [takeOut?, h, Option.bind_some, hx]
  rfl

theorem takeOut?_singleton {j : Nat} {xs : List α} {y : α} (hy : xs[j]? = some y) :
    takeOut? [j] xs = some ([y], xs.eraseIdx j) :=
  takeOut?_cons rfl hy

/-- The earlier of two positions is not moved when the later one is taken out first. -/
theorem takeOut?_pair {i j : Nat} {xs : List α} {x y : α} (hij : i < j) (hx : xs[i]? = some x)
    (hy : xs[j]? = some y) :
    takeOut? [i, j] xs = some ([x, y], (xs.eraseIdx j).eraseIdx i) :=
  takeOut?_cons (takeOut?_singleton hy) (by rw [List.getElem?_eraseIdx_of_lt hij, hx])

/-- Where elements can be taken out, erasing their positions leaves the rest. -/
theorem eraseAll_of_takeOut? {positions : List Nat} {xs taken rest : List α}
    (h : takeOut? positions xs = some (taken, rest)) : Search.eraseAll positions xs = rest := by
  induction positions generalizing taken rest with
  | nil =>
    cases h
    rfl
  | cons i positions ih =>
    obtain ⟨⟨others, left⟩, hothers, h⟩ := Option.bind_eq_some_iff.1 h
    obtain ⟨x, -, h⟩ := Option.map_eq_some_iff.1 h
    obtain ⟨-, rfl⟩ := Prod.mk.inj h
    exact congrArg (fun ys => ys.eraseIdx i) (ih hothers)

end TakeOut

/-! ### The placement -/

section Place

variable (l r : Relation)

theorem stacked_placeFrom_false (i : Nat) (ps : List Predicate) :
    (placeFrom l r false i ps).stacked = ps.filter fun p => p.Within (l.beside r) := by
  induction ps generalizing i with
  | nil => rfl
  | cons p ps ih =>
    rw [placeFrom, if_neg (by simp), List.filter_cons]
    by_cases hp : p.Within (l.beside r)
    · simp only [hp, decide_true, if_true, ih]
    · simp only [hp, decide_false, if_false, ih, Bool.false_eq_true]

theorem joinOn_placeFrom_true (i : Nat) (ps : List Predicate) :
    (placeFrom l r true i ps).joinOn =
      (ps.find? fun p => p.Links l r).map fun p => p.oriented l := by
  induction ps generalizing i with
  | nil => rfl
  | cons p ps ih =>
    rw [placeFrom, List.find?_cons]
    by_cases hp : p.Links l r
    · simp only [hp, and_self, if_true, decide_true, Option.map_some]
    · simp only [hp, and_false, if_false, decide_false]
      split
      · exact ih (i + 1)
      · exact ih (i + 1)

theorem stacked_placeFrom_true (i : Nat) (ps : List Predicate) :
    (placeFrom l r true i ps).stacked =
      (ps.filter fun p => p.Within (l.beside r)).eraseP fun p => p.Links l r := by
  induction ps generalizing i with
  | nil => rfl
  | cons p ps ih =>
    rw [placeFrom, List.filter_cons]
    by_cases hp : p.Links l r
    · simp only [hp, and_self, if_true, hp.within_beside, decide_true, List.eraseP_cons_of_pos,
        stacked_placeFrom_false]
    · by_cases hw : p.Within (l.beside r)
      · simp only [hp, hw, and_false, if_false, if_true, decide_true, ih]
        rw [List.eraseP_cons_of_neg (by simpa using hp)]
      · simp only [hp, hw, and_false, if_false, decide_false, ih, Bool.false_eq_true]

/-- The positions that a placement applies are in range, and at them are the predicates that both
sides can evaluate. -/
theorem takeOut?_applied_placeFrom (seeking : Bool) (front ps : List Predicate) :
    takeOut? (placeFrom l r seeking front.length ps).applied (front ++ ps) =
      some (ps.filter fun p => p.Within (l.beside r),
        front ++ ps.filter fun p => ¬ p.Within (l.beside r)) := by
  induction ps generalizing seeking front with
  | nil => rfl
  | cons p ps ih =>
    have hnext : ∀ seeking, takeOut? (placeFrom l r seeking (front.length + 1) ps).applied
        (front ++ p :: ps) = some (ps.filter fun p => p.Within (l.beside r),
          front ++ p :: ps.filter fun p => ¬ p.Within (l.beside r)) := by
      intro seeking
      simpa using ih seeking (front ++ [p])
    have htaken : p.Within (l.beside r) → ∀ seeking, takeOut? (front.length ::
        (placeFrom l r seeking (front.length + 1) ps).applied) (front ++ p :: ps) =
          some ((p :: ps).filter fun p => p.Within (l.beside r),
            front ++ (p :: ps).filter fun p => ¬ p.Within (l.beside r)) := by
      intro hw seeking
      have hfirst : (front ++ p :: ps.filter fun p => ¬ p.Within (l.beside r))[front.length]? =
          some p := by simp
      rw [takeOut?_cons (hnext seeking) hfirst,
        List.eraseIdx_append_of_length_le (Nat.le_refl _)]
      simp [hw]
    rw [placeFrom]
    by_cases hs : seeking = true ∧ p.Links l r
    · rw [if_pos hs]
      exact htaken hs.2.within_beside false
    · rw [if_neg hs]
      by_cases hw : p.Within (l.beside r)
      · rw [if_pos hw]
        exact htaken hw seeking
      · rw [if_neg hw, hnext]
        simp [hw]

variable (ps : List Predicate)

/-- The join is on the first predicate that links the two sides. -/
theorem joinOn_place :
    (place l r ps).joinOn = (ps.find? fun p => p.Links l r).map fun p => p.oriented l :=
  joinOn_placeFrom_true l r 0 ps

/-- Stacked are the predicates that both sides can evaluate, less the first that links them. -/
theorem stacked_place :
    (place l r ps).stacked =
      (ps.filter fun p => p.Within (l.beside r)).eraseP fun p => p.Links l r :=
  stacked_placeFrom_true l r 0 ps

/-- What is applied is taken out, and what the two sides cannot evaluate stays. -/
theorem takeOut?_applied_place :
    takeOut? (place l r ps).applied ps = some (ps.filter fun p => p.Within (l.beside r),
      ps.filter fun p => ¬ p.Within (l.beside r)) :=
  takeOut?_applied_placeFrom l r true [] ps

/-- What is not applied is what the two sides cannot evaluate. -/
theorem eraseAll_applied_place :
    Search.eraseAll (place l r ps).applied ps = ps.filter fun p => ¬ p.Within (l.beside r) :=
  eraseAll_of_takeOut? (takeOut?_applied_place l r ps)

/-- Only the predicates that both sides can evaluate have a say in the placement. -/
theorem find?_links_filter_within :
    ((ps.filter fun p => p.Within (l.beside r)).find? fun p => p.Links l r) =
      ps.find? fun p => p.Links l r := by
  rw [List.find?_filter]
  congr 1
  funext p
  by_cases hp : p.Links l r
  · simp [hp, hp.within_beside]
  · simp [hp]

end Place

/-! ### The predicates of a placement -/

/-- The predicates that are placed: the join's, then the stacked ones. -/
def Placement.predicates (placement : Placement) : List Predicate :=
  placement.joinOn.toList ++ placement.stacked

/-- The placed predicates are the ones that both sides can evaluate, each once. -/
theorem unsided_place_perm (l r : Relation) (ps : List Predicate) :
    ((place l r ps).predicates.map Predicate.unsided).Perm
      ((ps.filter fun p => p.Within (l.beside r)).map Predicate.unsided) := by
  rw [Placement.predicates, joinOn_place, stacked_place, ← find?_links_filter_within]
  generalize ps.filter (fun p => p.Within (l.beside r)) = qs
  cases hq : qs.find? fun p => p.Links l r with
  | none =>
    rw [List.eraseP_of_forall_not (List.find?_eq_none.1 hq)]
    exact .refl _
  | some q =>
    obtain ⟨hl, pre, post, rfl, hpre⟩ := List.find?_eq_some_iff_append.1 hq
    rw [List.eraseP_append_right _ (by simpa using hpre), List.eraseP_cons_of_pos
      (p := fun p : Predicate => decide (p.Links l r)) hl]
    simp only [Option.map_some, Option.toList_some, List.singleton_append, List.map_cons,
      Predicate.unsided_oriented, List.map_append]
    exact List.perm_middle.symm

/-! ### The combined plan -/

namespace Placement

variable (placement : Placement) (left right : Plan)

/-- The join or the product under the stacked selections. -/
def core : Plan :=
  match placement.joinOn with
  | some p => left.joined right p
  | none => left.times right

theorem combine_eq :
    placement.combine left right = placement.stacked.foldl Plan.filtered
      (placement.core left right) := rfl

@[simp] theorem scans_combine :
    (placement.combine left right).scans = left.scans ++ right.scans := by
  rw [combine_eq, Plan.scans_foldl_filtered, core]
  cases placement.joinOn <;> rfl

@[simp] theorem baseNames_combine :
    (placement.combine left right).baseNames = left.baseNames ++ right.baseNames := by
  rw [Plan.baseNames, scans_combine]
  exact List.flatMap_append

@[simp] theorem predicates_combine :
    (placement.combine left right).predicates =
      left.predicates ++ right.predicates ++ placement.predicates := by
  rw [combine_eq, Plan.predicates_foldl_filtered, core, predicates]
  cases placement.joinOn <;> simp [Plan.predicates]

@[simp] theorem projections_combine : (placement.combine left right).projections = [] := by
  rw [combine_eq, Plan.projections_foldl_filtered, core]
  cases placement.joinOn <;> rfl

theorem unnarrowed_combine :
    (placement.combine left right).Unnarrowed ↔ left.Unnarrowed ∧ right.Unnarrowed := by
  rw [combine_eq, Plan.unnarrowed_foldl_filtered, core]
  cases placement.joinOn <;> rfl

theorem bare_combine {left right : Plan} (hl : left.Bare) (hr : right.Bare) :
    (placement.combine left right).Bare := by
  rw [combine_eq]
  refine Plan.Bare.foldl_filtered ?_
  rw [core]
  cases placement.joinOn <;> exact ⟨rfl, hl, hr⟩

theorem mem_visible_combine {n : String} :
    n ∈ (placement.combine left right).visible ↔ n ∈ left.visible ∨ n ∈ right.visible := by
  rw [combine_eq, Plan.visible_foldl_filtered, core]
  cases placement.joinOn with
  | none => exact Plan.mem_visible_product
  | some p => exact Plan.mem_visible_join

end Placement

/-- Resolved inputs are combined to a resolved plan unless the predicate they are to be joined on is
lopsided. -/
theorem Plan.resolved_combine_iff {left right : Plan} (hl : left.Resolved) (hr : right.Resolved)
    (ps : List Predicate) :
    ((place left.schema right.schema ps).combine left right).Resolved ↔
      ∀ p, ps.find? (fun p => p.Links left.schema right.schema) = some p →
        ¬ p.Lopsided left.schema right.schema := by
  -- What is stacked is evaluated by both inputs together, so only the join is in question.
  have hstacked : ∀ p ∈ (place left.schema right.schema ps).stacked,
      p.Inside ((place left.schema right.schema ps).core left right).visible := by
    intro p hp n hn
    rw [stacked_place] at hp
    have hw : p.Within (left.schema.beside right.schema) := by
      simpa using (List.mem_filter.1 (List.mem_of_mem_eraseP hp)).2
    have hv := Predicate.within_iff.1 hw n hn
    rw [Relation.names_beside, hl.names_schema, hr.names_schema, List.mem_append] at hv
    have hc := (place left.schema right.schema ps).mem_visible_combine left right (n := n)
    rw [Placement.combine_eq, Plan.visible_foldl_filtered] at hc
    exact hc.2 hv
  rw [Placement.combine_eq, Plan.resolved_foldl_filtered, and_iff_left hstacked, Placement.core,
    joinOn_place]
  cases hp : ps.find? fun p => p.Links left.schema right.schema with
  | none => simp [Plan.Resolved, hl, hr]
  | some p =>
    have hlinks : p.Links left.schema right.schema := by simpa using List.find?_some hp
    have hfit := hlinks.exists_oriented_iff
    simp only [Relation.Has, hl.names_schema, hr.names_schema] at hfit
    simp [Plan.Resolved, hl, hr, hfit]

/-- Resolved inputs without a common name are combined to a resolved plan. -/
theorem Plan.Resolved.combine {left right : Plan} (hl : left.Resolved) (hr : right.Resolved)
    (hd : left.visible.Disjoint right.visible) (ps : List Predicate) :
    ((place left.schema right.schema ps).combine left right).Resolved := by
  refine (Plan.resolved_combine_iff hl hr ps).2 fun p hp hlop => ?_
  have hlinks : p.Links left.schema right.schema := by simpa using List.find?_some hp
  refine hlinks.exists_oriented_iff.1 (hlinks.exists_oriented ?_) hlop
  rwa [hl.names_schema, hr.names_schema]

end RelPlan
