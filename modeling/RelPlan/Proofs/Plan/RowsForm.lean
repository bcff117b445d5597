import Mathlib.Data.List.Perm.Basic
import RelPlan.Plan.Rows
import RelPlan.Proofs.Plan.Contents

/-!
# The rows of a plan from its contents

A resolved plan over distinct attribute names puts out, whatever its shape, what its contents say:
all combinations of rows of its base relations, of these the ones on which its predicates hold,
cut down to its visible names (`Plan.Resolved.rows_eq`). So two such plans with the same contents
put out the same bag of rows (`Plan.Resolved.rows_perm`).
-/

namespace RelPlan

variable {V : Type}

/-! ### Pairs of rows -/

/-- The row without any value. -/
def Row.empty : Row V := fun _ => none

@[simp] theorem Row.empty_beside (x : Row V) : Row.empty.beside x = x := by
  funext n
  simp [Row.empty]

@[simp] theorem Row.beside_empty (x : Row V) : x.beside Row.empty = x := by
  funext n
  simp [Row.empty]

theorem Row.beside_assoc (x y z : Row V) : (x.beside y).beside z = x.beside (y.beside z) := by
  funext n
  simp [Option.or_assoc]

theorem pairRows_cons (x : Row V) (a b : List (Row V)) :
    pairRows (x :: a) b = b.map (fun y => x.beside y) ++ pairRows a b := rfl

@[simp] theorem pairRows_empty_left (b : List (Row V)) : pairRows [Row.empty] b = b := by
  simp [pairRows]

@[simp] theorem pairRows_empty_right (a : List (Row V)) : pairRows a [Row.empty] = a := by
  simp [pairRows]

theorem pairRows_assoc (a b c : List (Row V)) :
    pairRows (pairRows a b) c = pairRows a (pairRows b c) := by
  simp only [pairRows, List.flatMap_assoc, List.flatMap_map, List.map_flatMap, List.map_map]
  simp only [Function.comp_def, Row.beside_assoc]

theorem pairRows_perm {a a' b b' : List (Row V)} (ha : a.Perm a') (hb : b.Perm b') :
    (pairRows a b).Perm (pairRows a' b') :=
  ha.flatMap fun _ _ => hb.map _

/-- Rows that may be put together in either order pair up in either order. -/
theorem pairRows_comm {a b : List (Row V)} (h : ∀ x ∈ a, ∀ y ∈ b, x.beside y = y.beside x) :
    (pairRows a b).Perm (pairRows b a) := by
  induction a with
  | nil => simp [pairRows]
  | cons x a ih =>
    rw [List.forall_mem_cons] at h
    have hx : b.map (fun y => x.beside y) = b.map fun y => y.beside x :=
      List.map_congr_left h.1
    rw [pairRows_cons, hx]
    exact ((ih h.2).append_left _).trans
      (List.map_append_flatMap_perm b (fun y => y.beside x) fun y => a.map fun x => y.beside x)

theorem pairRows_map {a b : List (Row V)} {f g k : Row V → Row V}
    (h : ∀ x ∈ a, ∀ y ∈ b, (f x).beside (g y) = k (x.beside y)) :
    pairRows (a.map f) (b.map g) = (pairRows a b).map k := by
  simp only [pairRows, List.flatMap_map, List.map_flatMap, List.map_map]
  exact List.flatMap_congr fun x hx => List.map_congr_left fun y hy => h x hx y hy

theorem pairRows_filter {a b : List (Row V)} {f g k : Row V → Bool}
    (h : ∀ x ∈ a, ∀ y ∈ b, k (x.beside y) = (f x && g y)) :
    pairRows (a.filter f) (b.filter g) = (pairRows a b).filter k := by
  induction a with
  | nil => rfl
  | cons x a ih =>
    rw [List.forall_mem_cons] at h
    rw [pairRows_cons, List.filter_append, ← ih h.2, List.filter_map]
    have hx : b.filter (k ∘ fun y => x.beside y) = b.filter fun y => f x && g y :=
      List.filter_congr fun y hy => h.1 y hy
    rw [hx]
    cases hf : f x <;> simp [hf, pairRows_cons]

/-! ### Combinations of rows of base relations -/

/-- All ways to put one row of each relation side by side. -/
def Database.combinations (db : Database V) : List BaseRelation → List (Row V)
  | [] => [Row.empty]
  | r :: rs => pairRows (db.rows r) (db.combinations rs)

namespace Database

variable (db : Database V)

/-- A combination has values for the attributes of the relations and for no others. -/
theorem isSome_combination {rs : List BaseRelation} {row : Row V} (h : row ∈ db.combinations rs)
    (n : String) : (row n).isSome ↔ n ∈ rs.flatMap fun r => r.relation.names := by
  induction rs generalizing row with
  | nil =>
    rw [List.mem_singleton.1 h]
    simp [Row.empty]
  | cons r rs ih =>
    obtain ⟨x, hx, y, hy, rfl⟩ := mem_pairRows.1 h
    rw [List.flatMap_cons, List.mem_append, ← ih hy, Row.beside_apply, Option.isSome_or,
      Bool.or_eq_true, db.isSome_iff r x hx n]
    rfl

theorem combinations_append (rs ss : List BaseRelation) :
    db.combinations (rs ++ ss) = pairRows (db.combinations rs) (db.combinations ss) := by
  induction rs with
  | nil => simp [combinations]
  | cons r rs ih => rw [List.cons_append, combinations, ih, combinations, pairRows_assoc]

/-- Rows of relations without a common name may be put together in either order. -/
theorem beside_comm {r s : BaseRelation} (h : r.Apart s) {x y : Row V} (hx : x ∈ db.rows r)
    (hy : y ∈ db.rows s) : x.beside y = y.beside x := by
  funext n
  rw [Row.beside_apply, Row.beside_apply]
  have hxn := db.isSome_iff r x hx n
  have hyn := db.isSome_iff s y hy n
  cases hx' : x n with
  | none => simp
  | some v =>
    cases hy' : y n with
    | none => simp
    | some w => exact (h n (hxn.1 (by simp [hx'])) (hyn.1 (by simp [hy']))).elim

/-- The order of the relations does not matter to the bag of combinations. -/
theorem combinations_perm {rs ss : List BaseRelation} (h : rs.Perm ss)
    (hd : rs.Pairwise BaseRelation.Apart) :
    (db.combinations rs).Perm (db.combinations ss) := by
  induction h with
  | nil => exact .refl _
  | cons r _ ih => exact pairRows_perm (.refl _) (ih (List.pairwise_cons.1 hd).2)
  | swap r s rs =>
    have hdj := (List.pairwise_cons.1 hd).1 r List.mem_cons_self
    rw [combinations, combinations, ← pairRows_assoc, combinations, combinations, ← pairRows_assoc]
    exact pairRows_perm (pairRows_comm fun x hx y hy => db.beside_comm hdj hx hy) (.refl _)
  | trans h₁ _ ih₁ ih₂ => exact (ih₁ hd).trans (ih₂ (BaseRelation.pairwise_apart_of_perm h₁ hd))

end Database

/-! ### Predicates on rows -/

namespace Predicate

variable {db : Database V}

/-- Whether a predicate holds depends on the attributes it names alone. -/
theorem holds_congr {p : Predicate} {x y : Row V} (h : ∀ n ∈ p.names, x n = y n) :
    p.Holds db x ↔ p.Holds db y := by
  cases p with
  | literal a v =>
    have ha : x a.name = y a.name := h _ (by simp [names, attributes])
    rw [Holds, Holds, ha]
  | equality a b =>
    have ha : x a.name = y a.name := h _ (by simp [names, attributes])
    have hb : x b.name = y b.name := h _ (by simp [names, attributes])
    rw [Holds, Holds, ha, hb]

theorem holds_of_unsided_eq {p q : Predicate} (h : p.unsided = q.unsided) {row : Row V} :
    p.Holds db row ↔ q.Holds db row := by
  rcases unsided_eq_iff.1 h with rfl | rfl
  · rfl
  · exact holds_reversed

/-- Predicates that are the same but for their sides hold together. -/
theorem forall_holds_of_perm {ps qs : List Predicate}
    (h : (ps.map unsided).Perm (qs.map unsided)) {row : Row V} :
    (∀ p ∈ ps, p.Holds db row) ↔ ∀ q ∈ qs, q.Holds db row := by
  constructor
  · intro hp q hq
    obtain ⟨p, hm, he⟩ := exists_mem_of_perm_unsided h.symm hq
    exact (holds_of_unsided_eq he).1 (hp p hm)
  · intro hq p hp
    obtain ⟨q, hm, he⟩ := exists_mem_of_perm_unsided h hp
    exact (holds_of_unsided_eq he).1 (hq q hm)

end Predicate

/-! ### Rows and contents -/

namespace Plan

variable [DecidableEq V] (db : Database V)

/-- The combinations of rows that a plan selects, before any projection. -/
def selected (p : Plan) : List (Row V) :=
  (db.combinations p.scans).filter fun row => ∀ q ∈ p.predicates, q.Holds db row

variable {db}

theorem mem_selected {p : Plan} {row : Row V} :
    row ∈ p.selected db ↔
      row ∈ db.combinations p.scans ∧ ∀ q ∈ p.predicates, q.Holds db row := by
  simp [selected]

/-- Two plans without a common name select side by side what each of them selects. -/
theorem pairRows_selected {l r : Plan} (hl : l.Resolved) (hr : r.Resolved)
    (hd : l.baseNames.Disjoint r.baseNames) (o : Option Relation) :
    pairRows (l.selected db) (r.selected db) = (product l r o).selected db := by
  unfold selected
  rw [scans, db.combinations_append]
  refine pairRows_filter fun x hx y hy => ?_
  have hxn := db.isSome_combination hx
  have hleft : ∀ q ∈ l.predicates, q.Holds db (x.beside y) ↔ q.Holds db x := fun q hq =>
    Predicate.holds_congr fun n hn => by
      obtain ⟨v, hv⟩ := Option.isSome_iff_exists.1 ((hxn n).2 (hl.inside_baseNames q hq n hn))
      simp [hv]
  have hright : ∀ q ∈ r.predicates, q.Holds db (x.beside y) ↔ q.Holds db y := fun q hq =>
    Predicate.holds_congr fun n hn => by
      have hnone : x n = none := by
        rw [← Option.not_isSome_iff_eq_none, hxn n]
        exact fun h => hd h (hr.inside_baseNames q hq n hn)
      simp [hnone]
  rw [predicates, ← Bool.decide_and, decide_eq_decide, List.forall_mem_append]
  exact and_congr (forall₂_congr hleft) (forall₂_congr hright)

/-- Cutting two rows down before or after they are put side by side. -/
theorem beside_restrict {l r : Plan} (hd : l.baseNames.Disjoint r.baseNames) {x y : Row V}
    (hx : x ∈ l.selected db) {ns : List String}
    (hns : ∀ n, n ∈ ns ↔ n ∈ l.visible ∨ n ∈ r.visible) :
    (x.restrict l.visible).beside (y.restrict r.visible) = (x.beside y).restrict ns := by
  have hxn := db.isSome_combination (mem_selected.1 hx).1
  funext n
  simp only [Row.beside_apply, Row.restrict_apply, hns]
  by_cases hl : n ∈ l.visible
  · obtain ⟨v, hv⟩ := Option.isSome_iff_exists.1 ((hxn n).2 (mem_baseNames_of_mem_visible hl))
    simp [hl, hv]
  · by_cases hr : n ∈ r.visible
    · have hnone : x n = none := by
        rw [← Option.not_isSome_iff_eq_none, hxn n]
        exact fun h => hd h (mem_baseNames_of_mem_visible hr)
      simp [hl, hr, hnone]
    · simp [hl, hr]

/-- A predicate on visible names may be checked before or after a row is cut down. -/
theorem filter_map_restrict {rows : List (Row V)} {q : Predicate} {ns : List String}
    (h : q.Inside ns) :
    (rows.map fun row => row.restrict ns).filter (fun row => q.Holds db row) =
      (rows.filter fun row => q.Holds db row).map fun row => row.restrict ns := by
  have hq : ∀ row : Row V, q.Holds db (row.restrict ns) ↔ q.Holds db row := fun row =>
    Predicate.holds_congr fun n hn => by rw [Row.restrict_apply, if_pos (h n hn)]
  simp only [List.filter_map, Function.comp_def, hq]

/-- One more predicate selects among what was selected. -/
theorem filter_selected {p p' : Plan} {q : Predicate} (hs : p'.scans = p.scans)
    (hp : p'.predicates = p.predicates ++ [q]) :
    ((p.selected db).filter fun row => q.Holds db row) = p'.selected db := by
  rw [selected, selected, hs, hp, List.filter_filter]
  refine List.filter_congr fun row _ => ?_
  rw [← Bool.decide_and, decide_eq_decide, List.forall_mem_append, List.forall_mem_singleton]
  exact and_comm

theorem Distinct.of_product {l r : Plan} {o : Option Relation} (h : (product l r o).Distinct) :
    l.Distinct ∧ r.Distinct ∧ l.baseNames.Disjoint r.baseNames :=
  BaseRelation.pairwise_apart_append.1 h

/-- The rows of a resolved plan over distinct names, from its contents. -/
theorem Resolved.rows_eq {p : Plan} (h : p.Resolved) (hd : p.Distinct) :
    p.rows db = (p.selected db).map fun row => row.restrict p.visible := by
  induction p with
  | scan r o =>
    have hid : ∀ row ∈ db.rows r, row.restrict r.relation.names = row := by
      intro row hrow
      funext n
      rw [Row.restrict_apply]
      by_cases hn : n ∈ r.relation.names
      · rw [if_pos hn]
      · rw [if_neg hn]
        have hnone : ¬ (row n).isSome := fun hs => hn ((db.isSome_iff r row hrow n).1 hs)
        exact (Option.not_isSome_iff_eq_none.1 hnone).symm
    have hsel : (scan r o).selected db = db.rows r := by
      simp [selected, predicates, scans, Database.combinations]
    rw [hsel, rows]
    exact ((List.map_congr_left hid).trans (List.map_id _)).symm
  | select q i o ih =>
    rw [rows, ih h.1 hd, filter_map_restrict h.2]
    exact congrArg _ (filter_selected rfl rfl)
  | project as i o ih =>
    rw [rows, ih h.1 hd, List.map_map]
    refine List.map_congr_left fun row _ => ?_
    funext n
    simp only [Function.comp_apply, Row.restrict_apply, mem_visible_project]
    by_cases hv : n ∈ i.visible <;> by_cases ha : n ∈ namesOf as <;> simp [hv, ha]
  | product l r o ihl ihr =>
    obtain ⟨hdl, hdr, hdj⟩ := hd.of_product
    rw [rows, ihl h.1 hdl, ihr h.2 hdr, ← pairRows_selected h.1 h.2 hdj o]
    exact pairRows_map fun x hx y _ => beside_restrict hdj hx fun n => mem_visible_product
  | join q l r o ihl ihr =>
    obtain ⟨hdl, hdr, hdj⟩ := Distinct.of_product (o := o) hd
    obtain ⟨a, b, rfl, ha, hb⟩ := h.2.2
    have hpair : pairRows (l.rows db) (r.rows db) = ((product l r o).selected db).map fun row =>
        row.restrict (join (.equality a b) l r o).visible := by
      rw [ihl h.1 hdl, ihr h.2.1 hdr, ← pairRows_selected h.1 h.2.1 hdj o]
      exact pairRows_map fun x hx y _ => beside_restrict hdj hx fun n => mem_visible_join
    have hin : (Predicate.equality a b).Inside (join (.equality a b) l r o).visible := by
      intro n hn
      rw [mem_visible_join]
      simp only [Predicate.names, Predicate.attributes, namesOf_cons, namesOf_nil, List.mem_cons,
        List.not_mem_nil, or_false] at hn
      rcases hn with rfl | rfl
      · exact Or.inl ha
      · exact Or.inr hb
    rw [rows, hpair, filter_map_restrict hin]
    exact congrArg _ (filter_selected rfl rfl)

/-- Plans with the same contents put out the same bag of rows. -/
theorem Resolved.rows_perm {p q : Plan} (hp : p.Resolved) (hq : q.Resolved) (hd : p.Distinct)
    (hs : p.scans.Perm q.scans)
    (hc : (p.predicates.map Predicate.unsided).Perm (q.predicates.map Predicate.unsided))
    (hv : ∀ n, n ∈ p.visible ↔ n ∈ q.visible) : (p.rows db).Perm (q.rows db) := by
  have hd' : q.Distinct := BaseRelation.pairwise_apart_of_perm hs hd
  rw [hp.rows_eq hd, hq.rows_eq hd']
  have hf : (p.selected db).Perm (q.selected db) := by
    rw [selected, selected]
    simp only [Predicate.forall_holds_of_perm hc]
    exact (db.combinations_perm hs hd).filter _
  have hr : (fun row : Row V => row.restrict p.visible) = fun row => row.restrict q.visible := by
    funext row n
    simp only [Row.restrict_apply, hv]
  rw [hr]
  exact hf.map _

end Plan

end RelPlan
