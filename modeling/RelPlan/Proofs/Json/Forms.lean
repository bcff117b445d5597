import RelPlan.Json.Forms
import RelPlan.Proofs.Json.Written

/-!
# Reading back the JSON forms

Attributes, relations, predicates, base relations, catalogues and options are read as they were
written: each has a law `reads_toJson`, put together from the laws of its parts. The statistics of a
base relation are made out of the members that were kept, which hold all that was written
(`toRelation_keptMembers`).
-/

namespace RelPlan

open Json

variable {depth : Nat}

/-! ### Records -/

/-- An attribute is read as it was written. -/
theorem Attribute.reads_toJson (a : Attribute) : Reads read a.toJson a := by
  have hfields := reads_recordOfTwo (f := ⟨"name", text, none⟩) (g := ⟨"value_count", count, none⟩)
    (by decide) (reads_text a.name) (reads_count a.values)
  refine hfields.of_eq_ok fun cs rest h => ?_
  rw [read, h]
  rfl

/-- A relation is read as it was written. -/
theorem Relation.reads_toJson (r : Relation) : Reads read r.toJson r := by
  have hattributes := reads_list_map Attribute.reads_toJson r.attributes
  have hfields := reads_recordOfTwo (f := ⟨"tuple_count", count, none⟩)
    (g := ⟨"attributes", list Attribute.read, some []⟩) (by decide) (reads_count r.tuples)
    hattributes
  refine hfields.of_eq_ok fun cs rest h => ?_
  rw [read, h]
  rfl

/-- Options are read as they were written. -/
theorem Options.reads_toJson (o : Options) : Reads read o.toJson o := by
  have hfields := reads_recordOfTwo (f := ⟨"push_selections", truth, some true⟩)
    (g := ⟨"push_projections", truth, some true⟩) (by decide) (reads_truth o.pushSelections)
    (reads_truth o.pushProjections)
  refine hfields.of_eq_ok fun cs rest h => ?_
  rw [read, h]
  rfl

/-! ### Predicates -/

namespace Predicate

variable {v : Value} {p : Predicate}

theorem reads_readLiteral (a : Attribute) (value : String) :
    Reads readLiteral (.object [("left", a.toJson), ("value", .text value)])
      (.literal a value) := by
  have hfields := reads_recordOfTwo (f := ⟨"left", Attribute.read, none⟩)
    (g := ⟨"value", Json.text, none⟩) (by decide) a.reads_toJson (reads_text value)
  refine hfields.of_eq_ok fun cs rest h => ?_
  rw [readLiteral, h]
  rfl

theorem reads_readEquality (a b : Attribute) :
    Reads readEquality (.object [("left", a.toJson), ("right", b.toJson)]) (.equality a b) := by
  have hfields := reads_recordOfTwo (f := ⟨"left", Attribute.read, none⟩)
    (g := ⟨"right", Attribute.read, none⟩) (by decide) a.reads_toJson b.reads_toJson
  refine hfields.of_eq_ok fun cs rest h => ?_
  rw [readEquality, h]
  rfl

theorem readKind_gap (layout : Layout) (depth : Nat) (kind : String) (rest : List Char) :
    readKind (layout.gap depth ++ (quote kind ++ rest)) = .ok (kind, rest) := by
  rw [quote, List.cons_append, List.append_assoc, readKind, skipBlanks_gap layout depth rfl]
  exact string_written kind rest

/-- The only member of a predicate is read by its kind. -/
theorem reads_member {kind : String}
    (h : kind = "EqualsValue" ∧ Reads readLiteral v p ∨
      kind = "EqualsAttribute" ∧ Reads readEquality v p) :
    Reads read (.object [(kind, v)]) p := by
  intro layout depth bs rest hbs _
  have hend : Stops isNumeral (layout.gap depth ++ '}' :: rest) := by
    cases layout <;> exact stops_cons.2 rfl
  have hclose : skipBlanks (layout.gap depth ++ '}' :: rest) = '}' :: rest :=
    skipBlanks_gap layout depth rfl
  rw [read, skipBlanks_render hbs, Value.render, Value.renderMembers]
  simp only [List.append_assoc, List.cons_append, List.nil_append]
  refine bind_eq_ok_iff.2 ⟨_, readKind_gap layout (depth + 1) kind _, ?_⟩
  rcases h with ⟨rfl, hv⟩ | ⟨rfl, hv⟩
  -- of either kind, the value is read behind its colon, and the object ends behind the value
  all_goals
    refine bind_eq_ok_iff.2 ⟨_, hv.afterColon layout (depth + 1) _ hend, ?_⟩
    dsimp only
    rw [hclose]
    rfl

/-- A predicate is read as it was written. -/
theorem reads_toJson (p : Predicate) : Reads read p.toJson p := by
  cases p with
  | literal a value => exact reads_member (.inl ⟨rfl, reads_readLiteral a value⟩)
  | equality a b => exact reads_member (.inr ⟨rfl, reads_readEquality a b⟩)

end Predicate

/-! ### What was kept of a base relation -/

namespace Json.Kept

theorem toAttribute_kept (a : Attribute) : toAttribute a.toJson.kept = .ok a := rfl

theorem toAttributes_keptItems (as : List Attribute) :
    toAttributes (.array (Value.keptItems (as.map Attribute.toJson))) = .ok as := by
  rw [toAttributes]
  induction as with
  | nil => rfl
  | cons a as ih =>
    rw [List.map_cons, Value.keptItems, List.mapM_cons, toAttribute_kept, ih]
    rfl

/-- The statistics are made out of the kept members. -/
theorem toRelation_keptMembers (r : Relation) :
    toRelation (Value.keptMembers r.jsonMembers) = .ok r := by
  show (do
    let attributes ← toAttributes (.array (Value.keptItems (r.attributes.map Attribute.toJson)))
    return (⟨r.tuples, attributes⟩ : Relation)) = .ok r
  rw [toAttributes_keptItems]
  rfl

end Json.Kept

namespace BaseRelation

theorem readsMember_name (name : String) (kept : List (String × Kept)) :
    ReadsMember (member depth (none, kept) "name") (.text name) (some name, kept) := by
  intro layout outer rest hrest
  have hname := Field.readsMember_readOnce (f := ⟨"name", Json.text, none⟩) (reads_text name)
    layout outer rest hrest
  rw [member, if_pos rfl, hname]
  rfl

/-- Any other member is kept. -/
theorem readsMember_kept {key : String} (hkey : key ≠ "name") {v : Value}
    (h : v.NestsWithin depth) (met : Option String × List (String × Kept)) :
    ReadsMember (member depth met key) v (met.1, met.2 ++ [(key, v.kept)]) := by
  intro layout outer rest hrest
  rw [member, if_neg hkey, (reads_keep h).afterColon layout outer rest hrest]
  rfl

/-- The attributes are objects in an array. -/
theorem nestsWithin_attributes (as : List Attribute) (depth : Nat) :
    (Value.array (as.map Attribute.toJson)).NestsWithin (depth + 2) := by
  simp [Value.NestsWithin, Attribute.toJson]

theorem readsMembers (r : BaseRelation) (depth : Nat) (hdepth : 2 ≤ depth) :
    ReadsMembers (member depth) (none, []) (("name", .text r.name) :: r.relation.jsonMembers)
      (some r.name, Value.keptMembers r.relation.jsonMembers) := by
  obtain ⟨depth, rfl⟩ := Nat.exists_eq_add_of_le' hdepth
  refine .cons (readsMember_name r.name []) (.cons (readsMember_kept (by decide) ?_ _)
    (.cons (readsMember_kept (by decide) (nestsWithin_attributes _ depth) _) .nil))
  simp [Value.NestsWithin]

/-- A base relation is read wherever it does not stand too deep. -/
theorem reads_toJson (r : BaseRelation) {outer : Nat} (houter : outer ≤ 124) :
    Reads (readWithin outer) r.toJson r := by
  intro layout depth bs rest hbs _
  have hmet := readsMembers r (depthLimit - 1 - outer) (by rw [depthLimit]; omega)
  obtain ⟨body, hbody, hmembers⟩ := exists_members hmet layout depth
  rw [readWithin, skipBlanks_render hbs, toJson, hbody]
  simp only [List.cons_append, hmembers, Kept.toRelation_keptMembers, bind, Except.bind, pure,
    Except.pure]

end BaseRelation

/-! ### Catalogues -/

namespace Catalogue

/-- A catalogue is read as it was written. -/
theorem reads_toJson (c : Catalogue) : Reads read c.toJson c := by
  have hrelations : Reads (list (BaseRelation.readWithin 2))
      (.array (c.relations.map BaseRelation.toJson)) c.relations :=
    reads_list_map (fun r => BaseRelation.reads_toJson r (by decide)) c.relations
  have hfield := reads_recordOfOne
    (f := ⟨"relations", list (BaseRelation.readWithin 2), none⟩) hrelations
  refine hfield.of_eq_ok fun cs rest h => ?_
  rw [read, h]
  rfl

end Catalogue

end RelPlan
