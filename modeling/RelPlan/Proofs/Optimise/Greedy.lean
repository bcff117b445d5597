import RelPlan.Proofs.Optimise.Bookkeeping

/-!
# The greedy choice

What a step chooses, and what its candidate is made of. Nothing is assumed of the plans at hand, the
pending predicates or the needed attributes, except that no candidate fails.

The choices stand in the lexicographic order of their positions (`Search.pairwise_used_choices`),
and the cheapest one is the first of least cost (`exists_append_of_argmin`), so among equally cheap
choices the one with the least positions is taken (`Search.exists_cheapest`). A candidate applies
the pending predicates that its two sides can evaluate together: the first that links them makes a
join of the product, and the others are stacked in their order (`Situation.exists_builds`).
-/

namespace RelPlan

/-! ### The first of least cost -/

/-- In front of the first element of least cost all elements cost more, and behind it none costs
less. -/
theorem exists_append_of_argmin {α : Type} {f : α → Nat} {xs : List α} {m : α}
    (h : List.argmin f xs = some m) :
    ∃ pre post, xs = pre ++ m :: post ∧ (∀ x ∈ pre, f m < f x) ∧ ∀ x ∈ post, f m ≤ f x := by
  induction xs generalizing m with
  | nil => cases h
  | cons x xs ih =>
    rw [List.argmin_cons] at h
    cases hxs : List.argmin f xs with
    | none =>
      rw [hxs] at h
      obtain rfl := List.argmin_eq_none.1 hxs
      cases h
      exact ⟨[], [], rfl, List.forall_mem_nil _, List.forall_mem_nil _⟩
    | some n =>
      rw [hxs] at h
      dsimp only [Option.casesOn] at h
      by_cases hlt : f n < f x
      · rw [if_pos hlt] at h
        cases h
        obtain ⟨pre, post, rfl, hpre, hpost⟩ := ih hxs
        exact ⟨x :: pre, post, rfl, List.forall_mem_cons.2 ⟨hlt, hpre⟩, hpost⟩
      · rw [if_neg hlt] at h
        cases h
        refine ⟨[], xs, rfl, List.forall_mem_nil _, fun y hy => ?_⟩
        exact (Nat.le_of_not_lt hlt).trans (List.le_of_mem_argmin hy hxs)

/-- Pairs stand in lexicographic order if the list is in order. -/
theorem pairwise_pairs {α : Type} {R : α → α → Prop} {xs : List α} (h : xs.Pairwise R) :
    (pairs xs).Pairwise fun a b => R a.1 b.1 ∨ (a.1 = b.1 ∧ R a.2 b.2) := by
  induction xs with
  | nil => exact List.Pairwise.nil
  | cons x xs ih =>
    obtain ⟨hx, hxs⟩ := List.pairwise_cons.1 h
    rw [pairs_cons, List.pairwise_append, List.pairwise_map]
    refine ⟨hxs.imp fun hab => Or.inr ⟨rfl, hab⟩, ih hxs, ?_⟩
    intro a ha b hb
    obtain ⟨y, -, rfl⟩ := List.mem_map.1 ha
    obtain ⟨i, -, -, hi, -⟩ := mem_pairs_iff.1 hb
    exact Or.inl (hx b.1 (List.mem_of_getElem? hi))

theorem pairwise_zipIdx {α : Type} (xs : List α) : xs.zipIdx.Pairwise fun a b => a.2 < b.2 := by
  have h : (xs.zipIdx.map Prod.snd).Pairwise (· < ·) := by
    rw [List.zipIdx_map_snd]
    exact List.pairwise_lt_range'
  exact List.pairwise_map.1 h

namespace Search

/-- The choices stand in the lexicographic order of their positions. -/
theorem pairwise_used_choices (s : Search) : s.choices.Pairwise fun c d => c.used < d.used := by
  have hpool := pairwise_zipIdx s.pool
  unfold choices
  cases s.combined with
  | none =>
    refine List.pairwise_map.2 ((pairwise_pairs hpool).imp ?_)
    rintro ⟨⟨l, i⟩, r, j⟩ ⟨⟨l', i'⟩, r', j'⟩ (hi | ⟨he, hj⟩)
    · exact List.cons_lt_cons_iff.2 (Or.inl hi)
    · obtain ⟨-, rfl⟩ := Prod.mk.inj he
      exact List.cons_lt_cons_iff.2 (Or.inr ⟨rfl, List.cons_lt_cons_iff.2 (Or.inl hj)⟩)
  | some plan =>
    refine List.pairwise_map.2 (hpool.imp ?_)
    rintro ⟨r, j⟩ ⟨r', j'⟩ hj
    exact List.cons_lt_cons_iff.2 (Or.inl hj)

end Search

/-! ### The cheapest choice -/

/-- A candidate that does not fail is the costed combination of its inputs, which are resolved. -/
theorem Situation.eq_costed_of_candidate {σ : Situation} {left right : Plan} {c : Candidate}
    (h : (σ.candidate left right).result = .ok c) : c = σ.costed left right := by
  have hresolved : ∀ {x y : Plan} {schema : Relation}, (σ.narrow x).result = .ok (y, schema) →
      x.Resolved := by
    intro x y schema hx
    rw [narrow, Logged.result_bind_eq_ok_iff] at hx
    obtain ⟨input, hinput, -⟩ := hx
    exact Plan.resolved_iff.2 ⟨input, hinput⟩
  obtain ⟨l, ls, r, rs, -, hl, hr, -⟩ := candidate_eq_ok h
  exact ((candidate_eq_ok_iff (hresolved hl) (hresolved hr)).1 h).2

namespace Search

variable {σ : Situation}

/-- If there are choices and no candidate fails, the cheapest choice is found: no other costs less,
and those that come before it cost more. -/
theorem exists_cheapest {cs : List Choice} (hne : cs ≠ [])
    (hsorted : cs.Pairwise fun c d => c.used < d.used)
    (hall : ∀ c ∈ cs, ∃ best, (σ.candidate c.left c.right).result = .ok best) :
    ∃ c ∈ cs, ∃ best, (σ.candidate c.left c.right).result = .ok best ∧
      (cheapest σ cs).result = .ok (some (best, c)) ∧
      ∀ d ∈ cs, ∀ other, (σ.candidate d.left d.right).result = .ok other →
        best.cost ≤ other.cost ∧ (d.used < c.used → best.cost < other.cost) := by
  have hcosted : ∀ c ∈ cs, (σ.candidate c.left c.right).result = .ok (σ.costed c.left c.right) := by
    intro c hc
    obtain ⟨best, hbest⟩ := hall c hc
    rw [hbest, Situation.eq_costed_of_candidate hbest]
  have hcheapest := result_cheapest hcosted
  cases hmin : List.argmin (cost σ) cs with
  | none => exact absurd (List.argmin_eq_none.1 hmin) hne
  | some c =>
    rw [hmin] at hcheapest
    have hc : c ∈ cs := List.argmin_mem hmin
    refine ⟨c, hc, _, hcosted c hc, hcheapest, ?_⟩
    intro d hd other hother
    rw [Situation.eq_costed_of_candidate hother]
    refine ⟨List.le_of_mem_argmin hd hmin, fun hlt => ?_⟩
    -- What has lesser positions does not come after the choice, so it costs more.
    obtain ⟨pre, post, rfl, hpre, -⟩ := exists_append_of_argmin hmin
    obtain ⟨-, hpost, -⟩ := List.pairwise_append.1 hsorted
    obtain ⟨hafter, -⟩ := List.pairwise_cons.1 hpost
    rcases List.mem_append.1 hd with hd | hd
    · exact hpre d hd
    rcases List.mem_cons.1 hd with rfl | hd
    · exact absurd hlt (lt_irrefl _)
    · exact absurd hlt (lt_asymm (hafter d hd))

end Search

/-! ### The make of a candidate -/

section Place

variable (l r : Relation) (ps : List Predicate)

/-- The positions that a placement applies are those of the predicates that the two sides can
evaluate together. -/
theorem applied_placeFrom (seeking : Bool) (i : Nat) :
    (placeFrom l r seeking i ps).applied = ps.findIdxs (fun p => p.Within (l.beside r)) i := by
  induction ps generalizing seeking i with
  | nil => rfl
  | cons p ps ih =>
    rw [placeFrom, List.findIdxs_cons]
    by_cases hs : seeking = true ∧ p.Links l r
    · rw [if_pos hs, if_pos (decide_eq_true hs.2.within_beside)]
      exact congrArg (i :: ·) (ih false (i + 1))
    · rw [if_neg hs]
      by_cases hw : p.Within (l.beside r)
      · rw [if_pos hw, if_pos (decide_eq_true hw)]
        exact congrArg (i :: ·) (ih seeking (i + 1))
      · rw [if_neg hw, if_neg (by simpa using hw)]
        exact ih seeking (i + 1)

variable {l r ps}

/-- If a predicate is the first that links the two sides, it is joined on, and the other predicates
that the sides can evaluate are stacked. -/
theorem combine_place_of_links {pre post : List Predicate} {p : Predicate} (left right : Plan)
    (hp : p.Links l r) (hpre : ∀ q ∈ pre, ¬ q.Links l r) :
    (place l r (pre ++ p :: post)).combine left right =
      ((pre ++ post).filter fun q => q.Within (l.beside r)).foldl Plan.filtered
        (left.joined right (p.oriented l)) := by
  have hfind : (pre ++ p :: post).find? (fun q => q.Links l r) = some p := by
    refine List.find?_eq_some_iff_append.2 ⟨decide_eq_true hp, pre, post, rfl, ?_⟩
    simpa using hpre
  have hstacked : ((pre ++ p :: post).filter fun q => q.Within (l.beside r)).eraseP
      (fun q => q.Links l r) = (pre ++ post).filter fun q => q.Within (l.beside r) := by
    have hnot : ∀ q ∈ pre.filter (fun q => q.Within (l.beside r)), ¬ q.Links l r := by
      intro q hq
      exact hpre q (List.mem_filter.1 hq).1
    have hwithin : (p :: post).filter (fun q => q.Within (l.beside r)) =
        p :: post.filter fun q => q.Within (l.beside r) :=
      List.filter_cons_of_pos (decide_eq_true hp.within_beside)
    rw [List.filter_append, hwithin, List.eraseP_append_right _ (by simpa using hnot),
      List.eraseP_cons_of_pos (p := fun q : Predicate => decide (q.Links l r)) (decide_eq_true hp),
      List.filter_append]
  rw [Placement.combine_eq, Placement.core, joinOn_place, stacked_place, hfind, hstacked]
  rfl

/-- If no predicate links the two sides, a product is made, and the predicates that the sides can
evaluate are stacked. -/
theorem combine_place_of_not_links (left right : Plan) (hps : ∀ q ∈ ps, ¬ q.Links l r) :
    (place l r ps).combine left right =
      (ps.filter fun q => q.Within (l.beside r)).foldl Plan.filtered (left.times right) := by
  have hfind : ps.find? (fun q => q.Links l r) = none := by
    refine List.find?_eq_none.2 ?_
    simpa using hps
  have hstacked : (ps.filter fun q => q.Within (l.beside r)).eraseP (fun q => q.Links l r) =
      ps.filter fun q => q.Within (l.beside r) := by
    refine List.eraseP_of_forall_not fun q hq => ?_
    simpa using hps q (List.mem_filter.1 hq).1
  rw [Placement.combine_eq, Placement.core, joinOn_place, stacked_place, hfind, hstacked]
  rfl

end Place

namespace Situation

/-- How the candidate `c` is made of two sides, if these are estimated at the schemas `ls` and
`rs`. -/
structure Builds (σ : Situation) (left right : Plan) (ls rs : Relation) (c : Candidate) :
    Prop where
  /-- It applies the pending predicates that name nothing but attributes of the two schemas. -/
  applied : c.applied = σ.pending.findIdxs fun p => p.Within (ls.beside rs)
  /-- The first pending predicate that links the schemas is joined on, turned to the left one, and
  the others that are applied are stacked in their order. -/
  joined : ∀ pre p post, σ.pending = pre ++ p :: post → p.Links ls rs →
    (∀ q ∈ pre, ¬ q.Links ls rs) →
      c.plan = ((pre ++ post).filter fun q => q.Within (ls.beside rs)).foldl Plan.filtered
        (left.joined right (p.oriented ls))
  /-- If none links them, all that are applied are stacked on a product. -/
  paired : (∀ q ∈ σ.pending, ¬ q.Links ls rs) →
    c.plan = (σ.pending.filter fun q => q.Within (ls.beside rs)).foldl Plan.filtered
      (left.times right)
  /-- It costs the tuples that are estimated for it afresh. -/
  cost : ∃ output, c.plan.clearOutputs.estimated.result = .ok output ∧ c.cost = output.tuples

/-- A candidate that does not fail is built of its narrowed inputs. -/
theorem exists_builds {σ : Situation} {left right : Plan} {c : Candidate}
    (h : (σ.candidate left right).result = .ok c) :
    ∃ l ls r rs, (σ.narrow left).result = .ok (l, ls) ∧ (σ.narrow right).result = .ok (r, rs) ∧
      σ.Builds l r ls rs c := by
  obtain ⟨l, ls, r, rs, output, hl, hr, hplan, happlied, hestimated, hcost⟩ := candidate_eq_ok h
  refine ⟨l, ls, r, rs, hl, hr, ?_, ?_, ?_, ?_⟩
  · rw [happlied, place, applied_placeFrom]
  · intro pre p post hpending hp hpre
    rw [hplan, hpending]
    exact combine_place_of_links l r hp hpre
  · intro hnone
    rw [hplan]
    exact combine_place_of_not_links l r hnone
  · refine ⟨output, ?_, hcost⟩
    rw [Plan.estimated, Estimation.result_logged, Plan.outcome_clearOutputs]
    exact hestimated

end Situation

namespace Search

variable {σ : Situation} {pool : List Plan} {pending : List Predicate} {x : Plan} {c : Choice}

/-- The choices of a first step. -/
theorem mem_choices_first : c ∈ choices ⟨none, pool, pending⟩ ↔
    ∃ i j : Nat, i < j ∧ pool[i]? = some c.left ∧ pool[j]? = some c.right ∧ c.used = [i, j] := by
  simp [mem_choices_iff]

/-- The choices of a later step. -/
theorem mem_choices_later : c ∈ choices ⟨some x, pool, pending⟩ ↔
    c.left = x ∧ ∃ j : Nat, pool[j]? = some c.right ∧ c.used = [j] := by
  simp [mem_choices_iff, eq_comm]

/-- The first step chooses the first pair of least cost. -/
theorem exists_cheapest_first (pending : List Predicate) (hlen : 2 ≤ pool.length)
    (hall : ∀ (i j : Nat) l r, i < j → pool[i]? = some l → pool[j]? = some r →
      ∃ c, (σ.candidate l r).result = .ok c) :
    ∃ (i j : Nat) (l r : Plan) (best : Candidate), i < j ∧ pool[i]? = some l ∧
      pool[j]? = some r ∧ (σ.candidate l r).result = .ok best ∧
      (cheapest σ (choices ⟨none, pool, pending⟩)).result = .ok (some (best, ⟨l, r, [i, j]⟩)) ∧
      ∀ (i' j' : Nat) l' r' c, i' < j' → pool[i']? = some l' → pool[j']? = some r' →
        (σ.candidate l' r').result = .ok c →
          best.cost ≤ c.cost ∧ (i' < i ∨ i' = i ∧ j' < j → best.cost < c.cost) := by
  have hcandidates : ∀ c ∈ choices ⟨none, pool, pending⟩,
      ∃ best, (σ.candidate c.left c.right).result = .ok best := by
    intro c hc
    obtain ⟨i, j, hij, hl, hr, -⟩ := mem_choices_first.1 hc
    exact hall i j _ _ hij hl hr
  have hne := choices_ne_nil (s := ⟨none, pool, pending⟩) hlen
  obtain ⟨⟨l, r, used⟩, hc, best, hbest, hcheapest, hleast⟩ :=
    exists_cheapest hne (pairwise_used_choices _) hcandidates
  obtain ⟨i, j, hij, hl, hr, rfl⟩ := mem_choices_first.1 hc
  refine ⟨i, j, l, r, best, hij, hl, hr, hbest, hcheapest, ?_⟩
  intro i' j' l' r' c hij' hl' hr' hother
  have hmem : ⟨l', r', [i', j']⟩ ∈ choices ⟨none, pool, pending⟩ :=
    mem_choices_first.2 ⟨i', j', hij', hl', hr', rfl⟩
  obtain ⟨hle, hlt⟩ := hleast _ hmem c hother
  refine ⟨hle, fun hbefore => hlt (List.cons_lt_cons_iff.2 (hbefore.imp_right ?_))⟩
  rintro ⟨rfl, hj⟩
  exact ⟨rfl, List.cons_lt_cons_iff.2 (Or.inl hj)⟩

/-- A later step adds the first input of least cost. -/
theorem exists_cheapest_later (pending : List Predicate) (hne : pool ≠ [])
    (hall : ∀ r ∈ pool, ∃ c, (σ.candidate x r).result = .ok c) :
    ∃ (j : Nat) (r : Plan) (best : Candidate), pool[j]? = some r ∧
      (σ.candidate x r).result = .ok best ∧
      (cheapest σ (choices ⟨some x, pool, pending⟩)).result = .ok (some (best, ⟨x, r, [j]⟩)) ∧
      ∀ (j' : Nat) r' c, pool[j']? = some r' → (σ.candidate x r').result = .ok c →
        best.cost ≤ c.cost ∧ (j' < j → best.cost < c.cost) := by
  have hlen : 2 ≤ (plans ⟨some x, pool, pending⟩).length := by
    have := List.length_pos_of_ne_nil hne
    rw [length_plans]
    show 2 ≤ 1 + pool.length
    omega
  have hcandidates : ∀ c ∈ choices ⟨some x, pool, pending⟩,
      ∃ best, (σ.candidate c.left c.right).result = .ok best := by
    intro c hc
    obtain ⟨hl, j, hr, -⟩ := mem_choices_later.1 hc
    rw [hl]
    exact hall _ (List.mem_of_getElem? hr)
  obtain ⟨⟨l, r, used⟩, hc, best, hbest, hcheapest, hleast⟩ :=
    exists_cheapest (choices_ne_nil hlen) (pairwise_used_choices _) hcandidates
  obtain ⟨rfl, j, hr, rfl⟩ := mem_choices_later.1 hc
  refine ⟨j, r, best, hr, hbest, hcheapest, ?_⟩
  intro j' r' c hr' hother
  have hmem : ⟨l, r', [j']⟩ ∈ choices ⟨some l, pool, pending⟩ :=
    mem_choices_later.2 ⟨rfl, j', hr', rfl⟩
  obtain ⟨hle, hlt⟩ := hleast _ hmem c hother
  exact ⟨hle, fun hj => hlt (List.cons_lt_cons_iff.2 (Or.inl hj))⟩

/-- **Greedy choice**: whatever the situation and the pool, every candidate that does not fail is
built of its narrowed inputs as `Situation.Builds` says. If the pool has two plans or more and no
pair of them has a candidate that fails, the first step chooses a pair: none costs less, and every
pair that comes before it in lexicographic order costs more. If the pool is not empty and nothing in
it fails to be added to what was combined, a later step chooses one plan of it: none costs less, and
every plan before it costs more. -/
theorem cheapest_greedy (σ : Situation) (pool : List Plan) (pending : List Predicate) :
    (∀ left right c, (σ.candidate left right).result = .ok c →
      ∃ l ls r rs, (σ.narrow left).result = .ok (l, ls) ∧ (σ.narrow right).result = .ok (r, rs) ∧
        σ.Builds l r ls rs c) ∧
    (2 ≤ pool.length →
      (∀ (i j : Nat) l r, i < j → pool[i]? = some l → pool[j]? = some r →
        ∃ c, (σ.candidate l r).result = .ok c) →
      ∃ (i j : Nat) (l r : Plan) (best : Candidate), i < j ∧ pool[i]? = some l ∧
        pool[j]? = some r ∧ (σ.candidate l r).result = .ok best ∧
        (cheapest σ (choices ⟨none, pool, pending⟩)).result = .ok (some (best, ⟨l, r, [i, j]⟩)) ∧
        ∀ (i' j' : Nat) l' r' c, i' < j' → pool[i']? = some l' → pool[j']? = some r' →
          (σ.candidate l' r').result = .ok c →
            best.cost ≤ c.cost ∧ (i' < i ∨ i' = i ∧ j' < j → best.cost < c.cost)) ∧
    ∀ x, pool ≠ [] → (∀ r ∈ pool, ∃ c, (σ.candidate x r).result = .ok c) →
      ∃ (j : Nat) (r : Plan) (best : Candidate), pool[j]? = some r ∧
        (σ.candidate x r).result = .ok best ∧
        (cheapest σ (choices ⟨some x, pool, pending⟩)).result = .ok (some (best, ⟨x, r, [j]⟩)) ∧
        ∀ (j' : Nat) r' c, pool[j']? = some r' → (σ.candidate x r').result = .ok c →
          best.cost ≤ c.cost ∧ (j' < j → best.cost < c.cost) := by
  refine ⟨fun left right c h => Situation.exists_builds h, ?_, ?_⟩
  · intro hlen hall
    exact exists_cheapest_first pending hlen hall
  · intro x hne hall
    exact exists_cheapest_later pending hne hall

/-- Goods are matched with items, and nothing is narrowed. -/
def goodsAsItems : Situation :=
  ⟨[.equality ⟨"goods", .clamp 3⟩ ⟨"item", .clamp 3⟩], none⟩

/-- Of three base relations the last two are combined first, for they are joined; and of the other
two the later one is added to the sales. -/
theorem goodsAsItems_cheapest :
    (∃ best, (cheapest goodsAsItems
        (choices ⟨none, [.read Plan.tills, .read Plan.sales, .read Plan.wares], []⟩)).result =
          .ok (some (best, ⟨.read Plan.sales, .read Plan.wares, [1, 2]⟩)) ∧
      best.cost = .clamp 24 ∧ ∃ l ls r rs, goodsAsItems.Builds l r ls rs best) ∧
    ∃ best, (cheapest goodsAsItems
        (choices ⟨some (.read Plan.sales), [.read Plan.tills, .read Plan.wares], []⟩)).result =
          .ok (some (best, ⟨.read Plan.sales, .read Plan.wares, [1]⟩)) ∧
      best.cost = .clamp 24 := by
  have hsome : ∀ {l r : Plan}, ((goodsAsItems.candidate l r).result.toOption).isSome →
      ∃ c, (goodsAsItems.candidate l r).result = .ok c := by
    intro l r h
    cases hc : (goodsAsItems.candidate l r).result with
    | ok c => exact ⟨c, rfl⟩
    | error e => simp [hc, Except.toOption] at h
  constructor
  · have hall : ∀ c ∈ choices ⟨none, [.read Plan.tills, .read Plan.sales, .read Plan.wares], []⟩,
        ((goodsAsItems.candidate c.left c.right).result.toOption).isSome := by decide
    -- Which choice it is, by evaluation.
    have hvalue : (cheapest goodsAsItems
        (choices ⟨none, [.read Plan.tills, .read Plan.sales, .read Plan.wares], []⟩)).result.map
          (Option.map fun a => (a.1.cost, a.2.left, a.2.right, a.2.used)) =
        .ok (some (.clamp 24, .read Plan.sales, .read Plan.wares, [1, 2])) := by decide
    obtain ⟨hbuilds, hfirst, -⟩ := cheapest_greedy goodsAsItems
      [.read Plan.tills, .read Plan.sales, .read Plan.wares] []
    obtain ⟨i, j, l, r, best, -, -, -, hbest, hcheapest, -⟩ := hfirst (by decide)
      fun i j l r hij hl hr => hsome (hall ⟨l, r, [i, j]⟩
        (mem_choices_first.2 ⟨i, j, hij, hl, hr, rfl⟩))
    obtain ⟨sl, ls, sr, rs, -, -, hmake⟩ := hbuilds l r best hbest
    rw [hcheapest] at hvalue
    obtain ⟨hcost, rfl, rfl, hused⟩ := by
      simpa only [Except.map, Option.map, Except.ok.injEq, Option.some.injEq, Prod.mk.injEq]
        using hvalue
    refine ⟨best, ?_, hcost, sl, ls, sr, rs, hmake⟩
    rw [hcheapest, hused]
  · have hall : ∀ x ∈ [Plan.read Plan.tills, .read Plan.wares],
        ((goodsAsItems.candidate (.read Plan.sales) x).result.toOption).isSome := by decide
    have hvalue : (cheapest goodsAsItems
        (choices ⟨some (.read Plan.sales), [.read Plan.tills, .read Plan.wares], []⟩)).result.map
          (Option.map fun a => (a.1.cost, a.2.right, a.2.used)) =
        .ok (some (.clamp 24, .read Plan.wares, [1])) := by decide
    obtain ⟨-, -, hlater⟩ := cheapest_greedy goodsAsItems [.read Plan.tills, .read Plan.wares] []
    obtain ⟨j, r, best, -, -, hcheapest, -⟩ := hlater (.read Plan.sales) (by decide)
      fun x hx => hsome (hall x hx)
    rw [hcheapest] at hvalue
    obtain ⟨hcost, rfl, hused⟩ := by
      simpa only [Except.map, Option.map, Except.ok.injEq, Option.some.injEq, Prod.mk.injEq]
        using hvalue
    refine ⟨best, ?_, hcost⟩
    rw [hcheapest, hused]

end Search

end RelPlan
