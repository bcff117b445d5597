import RelPlan.Proofs.Plan.Places

/-!
# Estimates that fail

`Plan.nodes` lists the nodes of a plan in the order in which they are estimated: inputs before the
node above them, left before right. A plan that cannot be estimated has a first node whose formula
does not work on what the inputs of that node are estimated at (`Plan.RootFails`); the error says
which name the node misses first, or that a join has no equality (`Plan.fault?`). The nodes before
it then carry their own estimates, the failing node and all behind it carry what they carried
before, and nothing else in the tree has changed (`Plan.estimate_fails`).

`Halted` says this of lists of nodes, so that it can be put together from the inputs of a node:
nodes that were all estimated may stand in front, and nodes that were not reached behind.
-/

namespace RelPlan

/-! ### Why a formula fails -/

namespace Estimate

variable {l r : Relation} {e : PlanError}

/-- A selection fails for the first name of its predicate that the schema does not have. -/
theorem select_eq_error {p : Predicate} (h : select p r = .error e) :
    ∃ n, p.names.find? (· ∉ r.names) = some n ∧ e = .attributeNotFound n := by
  cases p with
  | literal a v =>
    rw [select, bind_eq_error_iff, Relation.lookup_error_iff] at h
    obtain ⟨ha, he⟩ | ⟨x, -, h⟩ := h
    · exact ⟨a.name, List.find?_cons_of_pos (decide_eq_true ha), he⟩
    · cases h
  | equality a b =>
    rw [select, bind_eq_error_iff, Relation.lookup_error_iff] at h
    obtain ⟨ha, he⟩ | ⟨x, hx, h⟩ := h
    · exact ⟨a.name, List.find?_cons_of_pos (decide_eq_true ha), he⟩
    · rw [bind_eq_error_iff, Relation.lookup_error_iff] at h
      obtain ⟨hb, he⟩ | ⟨y, -, h⟩ := h
      · refine ⟨b.name, ?_, he⟩
        have ha : a.name ∈ r.names :=
          Relation.has_iff_attribute?.2 ⟨x, Relation.lookup_eq_ok_iff.1 hx⟩
        refine (List.find?_cons_of_neg ?_).trans (List.find?_cons_of_pos (decide_eq_true hb))
        simpa using ha
      · cases h

/-- A projection fails for the first name in its list that the schema does not have. -/
theorem project_eq_error {as : List Attribute} (h : project as r = .error e) :
    ∃ n, (namesOf as).find? (· ∉ r.names) = some n ∧ e = .attributeNotFound n := by
  rw [project] at h
  split at h
  · next a ha =>
    cases h
    refine ⟨a.name, ?_, rfl⟩
    rw [namesOf, List.find?_map]
    exact congrArg (Option.map Attribute.name) ha
  · cases h

/-- A join on an equality fails for its left name on the left, and else for its right name on the
right. -/
theorem join_equality_eq_error {a b : Attribute} (h : join (.equality a b) l r = .error e) :
    a.name ∉ l.names ∧ e = .attributeNotFound a.name ∨
      a.name ∈ l.names ∧ b.name ∉ r.names ∧ e = .attributeNotFound b.name := by
  rw [join, bind_eq_error_iff, Relation.lookup_error_iff] at h
  obtain ⟨ha, he⟩ | ⟨x, hx, h⟩ := h
  · exact .inl ⟨ha, he⟩
  · rw [bind_eq_error_iff, Relation.lookup_error_iff] at h
    obtain ⟨hb, he⟩ | ⟨y, -, h⟩ := h
    · exact .inr ⟨Relation.has_iff_attribute?.2 ⟨x, Relation.lookup_eq_ok_iff.1 hx⟩, hb, he⟩
    · cases h

end Estimate

/-! ### Failing nodes -/

namespace Plan

/-- The inputs of the root can be estimated, but the formula of the root fails on what they are
estimated at. -/
inductive RootFails : Plan → PlanError → Prop
  /-- A selection fails. -/
  | select {p : Predicate} {i : Plan} {o : Option Relation} {r : Relation} {e : PlanError}
    (hi : i.estimated.result = .ok r) (h : Estimate.select p r = .error e) :
    RootFails (select p i o) e
  /-- A projection fails. -/
  | project {as : List Attribute} {i : Plan} {o : Option Relation} {r : Relation} {e : PlanError}
    (hi : i.estimated.result = .ok r) (h : Estimate.project as r = .error e) :
    RootFails (project as i o) e
  /-- A join fails. -/
  | join {p : Predicate} {l r : Plan} {o : Option Relation} {s t : Relation} {e : PlanError}
    (hl : l.estimated.result = .ok s) (hr : r.estimated.result = .ok t)
    (h : Estimate.join p s t = .error e) : RootFails (join p l r o) e

/-- What is wrong at the root: the first name that it does not find, in the order of its predicate
or list, or a join on a literal. -/
def fault? : Plan → Option PlanError
  | scan .. => none
  | select p i _ => (p.names.find? (· ∉ i.visible)).map .attributeNotFound
  | project as i _ => ((namesOf as).find? (· ∉ i.visible)).map .attributeNotFound
  | product .. => none
  | join (.literal a v) _ _ _ => some (.invalidPredicate .join (.literal a v))
  | join (.equality a b) l r _ =>
    if a.name ∉ l.visible then some (.attributeNotFound a.name)
    else if b.name ∉ r.visible then some (.attributeNotFound b.name)
    else none

variable {p i l r f : Plan} {e : PlanError} {s : Relation}

theorem RootFails.fault?_eq (h : f.RootFails e) : f.fault? = some e := by
  cases h with
  | select hi h =>
    obtain ⟨n, hn, rfl⟩ := Estimate.select_eq_error h
    rw [fault?, ← names_of_outcome hi, hn]
    rfl
  | project hi h =>
    obtain ⟨n, hn, rfl⟩ := Estimate.project_eq_error h
    rw [fault?, ← names_of_outcome hi, hn]
    rfl
  | @join q l r o s t e hl hr h =>
    cases q with
    | literal a v =>
      cases h
      rfl
    | equality a b =>
      rw [fault?, ← names_of_outcome hl, ← names_of_outcome hr]
      obtain ⟨ha, rfl⟩ | ⟨ha, hb, rfl⟩ := Estimate.join_equality_eq_error h
      · rw [if_pos ha]
      · rw [if_neg (not_not_intro ha), if_pos hb]

/-- No node is estimated before its inputs. -/
theorem ne_missingInput_of_fault? (h : f.fault? = some e) (operator : Operator) :
    e ≠ .missingInput operator := by
  rintro rfl
  cases f with
  | scan | product => cases h
  | select | project => simp [fault?] at h
  | join q l r o =>
    cases q with
    | literal a v => simp [fault?] at h
    | equality a b =>
      rw [fault?] at h
      split_ifs at h <;> cases h

/-! ### The nodes in order -/

/-- The nodes of the tree, each with the tree below it: inputs before the node above them, left
before right. -/
def nodes : Plan → List Plan
  | scan r o => [scan r o]
  | select p i o => i.nodes ++ [select p i o]
  | project as i o => i.nodes ++ [project as i o]
  | product l r o => l.nodes ++ r.nodes ++ [product l r o]
  | join p l r o => l.nodes ++ r.nodes ++ [join p l r o]

theorem everywhere_iff {P : Plan → Prop} : p.Everywhere P ↔ ∀ n ∈ p.nodes, P n := by
  induction p <;> simp_all [Everywhere, nodes, or_imp, forall_and, and_comm, and_left_comm]

theorem nodes_clearOutputs (p : Plan) : p.clearOutputs.nodes = p.nodes.map clearOutputs := by
  induction p <;> simp_all [clearOutputs, nodes]

/-- What the nodes are estimated at does not depend on what they carry. -/
theorem map_estimated_nodes_congr {q : Plan} (h : p.clearOutputs = q.clearOutputs) :
    (p.nodes.map fun n => n.estimated.result) = q.nodes.map fun n => n.estimated.result := by
  have hclear (x : Plan) : (x.clearOutputs.nodes.map fun n => n.estimated.result) =
      x.nodes.map fun n => n.estimated.result := by
    rw [nodes_clearOutputs, List.map_map]
    exact List.map_congr_left fun n _ => congrArg Logged.result n.estimated_clearOutputs
  rw [← hclear p, h, hclear]

/-- A plan that was estimated carries at its nodes what these are estimated at. -/
theorem outputs_nodes_estimate (h : p.estimate.outcome = .ok s) :
    (∀ n ∈ p.nodes, ∃ t, n.estimated.result = .ok t) ∧
      p.estimate.plan.nodes.map output = p.nodes.map fun n => n.estimated.result.toOption := by
  have hcarries := everywhere_iff.1 (carries_estimate h)
  have hsame := map_estimated_nodes_congr p.clearOutputs_estimate
  constructor
  · intro n hn
    have hmem := List.mem_map_of_mem (f := fun n => n.estimated.result) hn
    rw [← hsame] at hmem
    obtain ⟨m, hm, hmn⟩ := List.mem_map.1 hmem
    obtain ⟨t, -, ht⟩ := hcarries m hm
    exact ⟨t, hmn.symm.trans ht⟩
  · calc
      p.estimate.plan.nodes.map output
          = (p.estimate.plan.nodes.map fun n => n.estimated.result).map Except.toOption := by
        rw [List.map_map]
        refine List.map_congr_left fun m hm => ?_
        obtain ⟨t, hout, ht⟩ := hcarries m hm
        rw [hout, Function.comp_apply, show m.estimated.result = .ok t from ht]
        rfl
      _ = p.nodes.map fun n => n.estimated.result.toOption := by
        rw [hsame, List.map_map]
        rfl

end Plan

/-! ### Where estimating halts -/

open Plan (nodes output)

/-- An estimation that failed with `e` has made the nodes `ms` of the nodes `ns`. One of them is the
first that fails. Those before it carry what they are estimated at, and the others what they carried
before. -/
def Halted (ns ms : List Plan) (e : PlanError) : Prop :=
  ∃ before f after, ns = before ++ f :: after ∧ (∀ n ∈ before, ∃ t, n.estimated.result = .ok t) ∧
    f.RootFails e ∧
    ms.map output = before.map (fun n => n.estimated.result.toOption) ++ (f :: after).map output

namespace Halted

variable {ns ms ks ls : List Plan} {e : PlanError}

theorem root {f g : Plan} (h : f.RootFails e) (ho : g.output = f.output) : Halted [f] [g] e :=
  ⟨[], f, [], rfl, nofun, h, congrArg (fun o => [o]) ho⟩

/-- Nodes that are not reached may stand behind. -/
theorem append_right (h : Halted ns ms e) (hk : ls.map output = ks.map output) :
    Halted (ns ++ ks) (ms ++ ls) e := by
  obtain ⟨before, f, after, rfl, hbefore, hf, hms⟩ := h
  refine ⟨before, f, after ++ ks, by simp, hbefore, hf, ?_⟩
  rw [List.map_append, hms, hk, List.append_assoc, ← List.map_append, List.cons_append]

/-- Nodes that were estimated may stand in front. -/
theorem append_left (h : Halted ks ls e) {p : Plan} {s : Relation}
    (hp : p.estimate.outcome = .ok s) : Halted (p.nodes ++ ks) (p.estimate.plan.nodes ++ ls) e := by
  obtain ⟨before, f, after, rfl, hbefore, hf, hls⟩ := h
  obtain ⟨hnodes, houtputs⟩ := p.outputs_nodes_estimate hp
  refine ⟨p.nodes ++ before, f, after, by simp, ?_, hf, ?_⟩
  · exact List.forall_mem_append.2 ⟨hnodes, hbefore⟩
  · rw [List.map_append, List.map_append, houtputs, hls, List.append_assoc]

end Halted

namespace Plan

variable {p i l r : Plan} {e : PlanError}

/-- A root that fails stays as it is. -/
theorem plan_estimateRoot_of_error (h : p.estimateRoot.outcome = .error e) :
    p.estimateRoot.plan = p := by
  rw [outcome_estimateRoot] at h
  rw [estimateRoot, h]

/-- A node with one input fails in its input or at the root. -/
theorem halted_unary (node : Plan → Plan)
    (hnodes : ∀ x, (node x).nodes = x.nodes ++ [node x])
    (houtput : ∀ x, (node x).output = (node i).output)
    (ih : ∀ {e}, i.estimate.outcome = .error e → Halted i.nodes i.estimate.plan.nodes e)
    (hroot : ∀ {s}, i.estimate.outcome = .ok s → (node i).RootFails e)
    (h : (i.estimate.andThen node fun i' => (node i').estimateRoot).outcome = .error e) :
    Halted (node i).nodes
      (i.estimate.andThen node fun i' => (node i').estimateRoot).plan.nodes e := by
  rw [Estimation.outcome_andThen, bind_eq_error_iff] at h
  rcases h with hi | ⟨s, hi, h⟩
  · rw [Estimation.andThen_of_error hi, hnodes, hnodes]
    exact (ih hi).append_right (congrArg (fun o => [o]) (houtput _))
  · rw [Estimation.plan_andThen_of_ok hi, plan_estimateRoot_of_error h, hnodes, hnodes]
    exact (Halted.root (hroot hi) (houtput _)).append_left hi

/-- A node with two inputs fails in its left input, in its right input or at the root. -/
theorem halted_binary (node : Plan → Plan → Plan)
    (hnodes : ∀ x y, (node x y).nodes = x.nodes ++ y.nodes ++ [node x y])
    (houtput : ∀ x y, (node x y).output = (node l r).output)
    (ihl : ∀ {e}, l.estimate.outcome = .error e → Halted l.nodes l.estimate.plan.nodes e)
    (ihr : ∀ {e}, r.estimate.outcome = .error e → Halted r.nodes r.estimate.plan.nodes e)
    (hroot : ∀ {s t}, l.estimate.outcome = .ok s → r.estimate.outcome = .ok t →
      (node l r).RootFails e)
    (h : (l.estimate.andThen (node · r) fun l' =>
      r.estimate.andThen (node l') fun r' => (node l' r').estimateRoot).outcome = .error e) :
    Halted (node l r).nodes (l.estimate.andThen (node · r) fun l' =>
      r.estimate.andThen (node l') fun r' => (node l' r').estimateRoot).plan.nodes e := by
  rw [Estimation.outcome_andThen, bind_eq_error_iff] at h
  rcases h with hl | ⟨s, hl, h⟩
  · rw [Estimation.andThen_of_error hl, hnodes, hnodes, List.append_assoc, List.append_assoc]
    refine (ihl hl).append_right ?_
    rw [List.map_append, List.map_append]
    exact congrArg (fun o => _ ++ [o]) (houtput _ _)
  · rw [Estimation.plan_andThen_of_ok hl]
    rw [Estimation.outcome_andThen, bind_eq_error_iff] at h
    rcases h with hr | ⟨t, hr, h⟩
    · rw [Estimation.andThen_of_error hr, hnodes, hnodes]
      exact ((ihr hr).append_left hl).append_right (congrArg (fun o => [o]) (houtput _ _))
    · rw [Estimation.plan_andThen_of_ok hr, plan_estimateRoot_of_error h, hnodes, hnodes,
        List.append_assoc, List.append_assoc]
      exact ((Halted.root (hroot hl hr) (houtput _ _)).append_left hr).append_left hl

/-- A plan that cannot be estimated halts somewhere among its nodes. -/
theorem halted_estimate (h : p.estimate.outcome = .error e) :
    Halted p.nodes p.estimate.plan.nodes e := by
  induction p generalizing e with
  | scan r o => cases h
  | select q i o ih =>
    refine halted_unary (select q · o) (fun _ => rfl) (fun _ => rfl) ih (fun hi => .select hi ?_) h
    rwa [outcome_select, hi] at h
  | project as i o ih =>
    refine halted_unary (project as · o) (fun _ => rfl) (fun _ => rfl) ih
      (fun hi => .project hi ?_) h
    rwa [outcome_project, hi] at h
  | product l r o ihl ihr =>
    refine halted_binary (product · · o) (fun _ _ => rfl) (fun _ _ => rfl) ihl ihr
      (fun hl hr => ?_) h
    -- a product has no formula that fails
    rw [outcome_product, hl, hr] at h
    cases h
  | join q l r o ihl ihr =>
    refine halted_binary (join q · · o) (fun _ _ => rfl) (fun _ _ => rfl) ihl ihr
      (fun hl hr => .join hl hr ?_) h
    rwa [outcome_join, hl, hr] at h

/-- **Failure**: if a plan cannot be estimated, one of its nodes, in the order inputs before node
and left before right, is the first whose formula fails on what its inputs are estimated at, and the
error is that of this node. The nodes before it then carry what they are estimated at, whereas it
and the nodes behind it carry what they carried before, and no operator has changed. -/
theorem estimate_fails (h : p.estimated.result = .error e) :
    p.estimate.plan.clearOutputs = p.clearOutputs ∧
    (∀ operator, e ≠ .missingInput operator) ∧
    ∃ before f after, p.nodes = before ++ f :: after ∧
      (∀ n ∈ before, ∃ t, n.estimated.result = .ok t) ∧
      f.RootFails e ∧ f.fault? = some e ∧
      p.estimate.plan.nodes.map output =
        before.map (fun n => n.estimated.result.toOption) ++ (f :: after).map output := by
  obtain ⟨before, f, after, hnodes, hbefore, hf, houtputs⟩ := halted_estimate h
  exact ⟨p.clearOutputs_estimate, ne_missingInput_of_fault? hf.fault?_eq, before, f, after, hnodes,
    hbefore, hf, hf.fault?_eq, houtputs⟩

/-- Payments to accounts; the number of payments was changed after they were estimated. -/
def payments : Plan :=
  scan ⟨"payments", ⟨.clamp 500, [⟨"payer", .clamp 40⟩, ⟨"account", .clamp 8⟩]⟩⟩
    (some ⟨.clamp 300, [⟨"payer", .clamp 40⟩]⟩)

/-- The holders of accounts; neither a street nor a city is known. -/
def holders : Plan := read ⟨"holders", ⟨.clamp 8, [⟨"number", .clamp 8⟩, ⟨"holder", 0⟩]⟩⟩

/-- Payments with the addresses of those who are paid; some nodes carry old estimates. -/
def paymentAddresses : Plan :=
  join (.equality ⟨"account", 1⟩ ⟨"number", 1⟩)
    (select (.literal ⟨"payer", 1⟩ "Ann") payments none)
    (project [⟨"holder", 1⟩, ⟨"street", 1⟩, ⟨"city", 1⟩] holders (some ⟨0, [⟨"street", 1⟩]⟩))
    (some ⟨.clamp 9, []⟩)

theorem paymentAddresses_fails :
    paymentAddresses.estimated.result = .error (.attributeNotFound "street") ∧
      paymentAddresses.estimate.plan.clearOutputs = paymentAddresses.clearOutputs ∧
      ∃ before f after, paymentAddresses.nodes = before ++ f :: after ∧
        (∀ n ∈ before, ∃ t, n.estimated.result = .ok t) ∧
        f.RootFails (.attributeNotFound "street") ∧
        paymentAddresses.estimate.plan.nodes.map output =
          before.map (fun n => n.estimated.result.toOption) ++ (f :: after).map output := by
  have h : paymentAddresses.estimated.result = .error (.attributeNotFound "street") := rfl
  obtain ⟨hclear, -, before, f, after, hnodes, hbefore, hf, -, houtputs⟩ := estimate_fails h
  exact ⟨h, hclear, before, f, after, hnodes, hbefore, hf, houtputs⟩

/-- The payments, the payments by Ann and the holders are estimated anew; the projection and the
join above it are not. -/
example : paymentAddresses.estimate.plan.nodes.map output =
    [some ⟨.clamp 500, [⟨"payer", .clamp 40⟩, ⟨"account", .clamp 8⟩]⟩,
      some ⟨.clamp 13, [⟨"payer", 1⟩, ⟨"account", .clamp 8⟩]⟩,
      some ⟨.clamp 8, [⟨"number", .clamp 8⟩, ⟨"holder", 0⟩]⟩,
      some ⟨0, [⟨"street", 1⟩]⟩, some ⟨.clamp 9, []⟩] := by
  decide

end Plan

end RelPlan
