import RelPlan.Proofs.Catalogue.Valid

/-!
# Histories of a catalogue

A catalogue is worked on in place: relations and attributes are entered into it, or it is replaced
by what a text describes. Such work may fail, and what was changed before the failure would stay
changed (`Catalogue.Editing`). It does not come to that: a call does what the corresponding
operation on catalogues does, and if that fails it leaves the catalogue as it was
(`Catalogue.Call.run_perform`). So the rules of catalogues hold after any calls, and a call that
enters something appends it and leaves every name in its place (`Catalogue.valid_afterAll`).
-/

namespace RelPlan.Catalogue

variable {c d : Catalogue} {relation name : String} {tuples values : Count}

/-! ### Places -/

/-- The position of the relation of that name. -/
def position? (c : Catalogue) (name : String) : Option Nat :=
  c.relations.findIdx? fun r => r.name = name

/-- The position of the relation that has the attribute of that name. -/
def home? (c : Catalogue) (name : String) : Option Nat :=
  c.relations.findIdx? fun r => r.relation.Has name

theorem isSome_home?_iff : (c.home? name).isSome ↔ name ∈ c.attributeNames := by
  simp only [home?, attributeNames, List.findIdx?_isSome, List.any_eq_true, List.mem_flatMap,
    decide_eq_true_eq]
  rfl

/-- The relation at position `i` gets one more attribute. -/
def withAttribute (c : Catalogue) (i : Nat) (a : Attribute) : Catalogue :=
  ⟨c.relations.modify i fun r => { r with relation := r.relation.addAttribute a }⟩

theorem addTo?_eq_map (relation : String) (a : Attribute) (rs : List BaseRelation) :
    addTo? relation a rs = (position? ⟨rs⟩ relation).map fun i =>
      (withAttribute ⟨rs⟩ i a).relations := by
  unfold position? withAttribute
  induction rs with
  | nil => rfl
  | cons r rs ih =>
    rw [addTo?, List.findIdx?_cons]
    by_cases h : r.name = relation
    · simp [h]
    · simp [h, ih, Function.comp_def]

/-! ### When entering succeeds -/

theorem createRelation_eq_ok (h : c.createRelation name tuples = .ok d) :
    d = ⟨c.relations ++ [⟨name, tuples, []⟩]⟩ := by
  unfold createRelation at h
  split_ifs at h
  exact (Except.ok.inj h).symm

theorem createAttribute_eq_ok (h : c.createAttribute relation name values = .ok d) :
    name ∉ c.attributeNames ∧
      ∃ i, c.position? relation = some i ∧ d = c.withAttribute i ⟨name, values⟩ := by
  rw [createAttribute, addTo?_eq_map] at h
  split_ifs at h with hv hn
  rw [isSome_attribute?_iff] at hn
  cases hi : c.position? relation with
  | none =>
    rw [hi] at h
    cases h
  | some i =>
    rw [hi] at h
    exact ⟨hn, i, rfl, (Except.ok.inj h).symm⟩

/-! ### Nothing moves -/

/-- What the first catalogue has is in the second one as well, and in the same place: relations keep
their position, name and tuple count, and may have more attributes behind those they had; names
lead to where they led. -/
structure Extends (c d : Catalogue) : Prop where
  /-- Every relation is still there. -/
  relations : ∀ (i : Nat) (r : BaseRelation), c.relations[i]? = some r →
    ∃ s : BaseRelation, d.relations[i]? = some s ∧ s.name = r.name ∧
      s.relation.tuples = r.relation.tuples ∧ r.relation.attributes <+: s.relation.attributes
  /-- The name of a relation leads to the same position. -/
  position : ∀ name i, c.position? name = some i → d.position? name = some i
  /-- The name of an attribute leads to the same statistics. -/
  statistics : ∀ name a, c.attribute? name = some a → d.attribute? name = some a
  /-- The name of an attribute leads to the same relation. -/
  home : ∀ name i, c.home? name = some i → d.home? name = some i

/-- A relation without attributes at the end is in nobody's way. -/
theorem extends_append (c : Catalogue) (name : String) (tuples : Count) :
    c.Extends ⟨c.relations ++ [⟨name, tuples, []⟩]⟩ := by
  refine ⟨fun i r hr => ⟨r, ?_, rfl, rfl, List.prefix_rfl⟩, fun m i hi => ?_, fun m a ha => ?_,
    fun m i hi => ?_⟩
  · exact List.getElem?_append_left (List.getElem?_eq_some_iff.1 hr).1 ▸ hr
  · rw [position?, List.findIdx?_append]
    exact (congrArg (Option.or · _) hi).trans rfl
  · rw [attribute?, List.findSome?_append]
    exact (congrArg (Option.or · _) ha).trans rfl
  · rw [home?, List.findIdx?_append]
    exact (congrArg (Option.or · _) hi).trans rfl

theorem findIdx?_eq_map (f : BaseRelation → Bool) (rs : List BaseRelation) :
    rs.findIdx? f = (rs.map f).findIdx? id := by
  rw [List.findIdx?_map]
  rfl

theorem findSome?_eq_map {β : Type} (f : BaseRelation → Option β) (rs : List BaseRelation) :
    rs.findSome? f = (rs.map f).findSome? id := by
  rw [List.findSome?_map]
  rfl

/-- What is not seen of the relation that is changed is the same of all relations. -/
theorem map_withAttribute {β : Type} {f : BaseRelation → β} (i : Nat) {a : Attribute}
    (hf : ∀ r, f { r with relation := r.relation.addAttribute a } = f r) :
    (c.withAttribute i a).relations.map f = c.relations.map f := by
  refine List.ext_getElem? fun j => ?_
  rw [withAttribute, List.getElem?_map, List.getElem?_map, List.getElem?_modify]
  cases c.relations[j]? with
  | none => rfl
  | some r =>
    show some (f (if i = j then _ else _)) = some (f r)
    split_ifs
    · rw [hf]
    · rfl

theorem attribute?_addAttribute {r : Relation} {a : Attribute} {m : String} (hm : a.name ≠ m) :
    (r.addAttribute a).attribute? m = r.attribute? m := by
  simp [Relation.attribute?, Relation.addAttribute, hm]

/-- A new name at the end of a relation is in nobody's way. -/
theorem extends_withAttribute {a : Attribute} (ha : a.name ∉ c.attributeNames) (i : Nat) :
    c.Extends (c.withAttribute i a) := by
  -- whoever looks for a name that is there does not see the new one
  have hfind : ∀ m ∈ c.attributeNames, ∀ r : BaseRelation,
      (r.relation.addAttribute a).attribute? m = r.relation.attribute? m := fun m hm r =>
    attribute?_addAttribute fun he => ha (he ▸ hm)
  refine ⟨fun j r hr => ?_, fun m j hj => ?_, fun m b hb => ?_, fun m j hj => ?_⟩
  · refine ⟨if i = j then { r with relation := r.relation.addAttribute a } else r, ?_, ?_, ?_, ?_⟩
    · rw [withAttribute, List.getElem?_modify, hr]
      rfl
    · split_ifs <;> rfl
    · split_ifs <;> rfl
    · split_ifs
      · exact List.prefix_append _ _
      · exact List.prefix_rfl
  · rw [position?, findIdx?_eq_map] at hj ⊢
    rwa [map_withAttribute i fun r => rfl]
  · have hm : m ∈ c.attributeNames := isSome_attribute?_iff.1 (hb ▸ rfl)
    rw [attribute?, findSome?_eq_map] at hb ⊢
    rwa [map_withAttribute i (hfind m hm)]
  · have hm : m ∈ c.attributeNames := isSome_home?_iff.1 (hj ▸ rfl)
    rw [home?, findIdx?_eq_map] at hj ⊢
    rw [map_withAttribute i fun r => ?_]
    · exact hj
    rw [decide_eq_decide, ← Relation.isSome_attribute?_iff, hfind m hm r,
      Relation.isSome_attribute?_iff]

/-! ### Work in place -/

/-- Work on a catalogue in place: a failure leaves the catalogue as it is at that moment. -/
abbrev Editing := EStateM PlanError Catalogue

/-- Enter a relation without attributes; the outcome is its position. -/
def enterRelation (name : String) (tuples : Count) : Editing Nat := do
  let c ← get
  if (c.relation? name).isSome then throw (.duplicateRelation name)
  else
    modify fun c => ⟨c.relations ++ [⟨name, tuples, []⟩]⟩
    let c ← get
    return c.size - 1

/-- Add an attribute to a relation. -/
def enterAttribute (relation name : String) (values : Count) : Editing Unit := do
  if values = 0 then throw (.noValues name)
  else
    let c ← get
    if (c.attribute? name).isSome then throw (.duplicateAttribute name)
    else
      match c.position? relation with
      | none => throw (.unknownRelation relation)
      | some i => modify fun c => c.withAttribute i ⟨name, values⟩

/-- Replace the catalogue by the one that a text describes. -/
def replaceBy (text : String) : Editing Unit :=
  match (ofText text).result with
  | .ok c => set c
  | .error e => throw e

/-- What is left of the catalogue. -/
def left {α : Type} : EStateM.Result PlanError Catalogue α → Catalogue
  | .ok _ c => c
  | .error _ c => c

/-- A call that changes a catalogue. -/
inductive Call where
  /-- Enter a relation. -/
  | newRelation (name : String) (tuples : Count)
  /-- Add an attribute to a relation. -/
  | newAttribute (relation name : String) (values : Count)
  /-- Replace the catalogue by the one that a text describes. -/
  | load (text : String)

namespace Call

/-- What a call does to the catalogue it is made on. -/
def perform : Call → Editing Unit
  | newRelation name tuples => do
    let _ ← enterRelation name tuples
    return ()
  | newAttribute relation name values => enterAttribute relation name values
  | load text => replaceBy text

/-- The corresponding operation on catalogues. -/
def apply (c : Catalogue) : Call → Except PlanError Catalogue
  | newRelation name tuples => c.createRelation name tuples
  | newAttribute relation name values => c.createAttribute relation name values
  | load text => (ofText text).result

end Call

theorem run_enterRelation (c : Catalogue) (name : String) (tuples : Count) :
    (enterRelation name tuples).run c =
      match c.createRelation name tuples with
      | .ok d => .ok c.size d
      | .error e => .error e c := by
  rw [createRelation]
  show (if (c.relation? name).isSome then throw _ else _ : Editing Nat) c = _
  by_cases h : (c.relation? name).isSome = true
  · rw [if_pos h, if_pos h]
    rfl
  · rw [if_neg h, if_neg h]
    show EStateM.Result.ok ((c.relations ++ _).length - 1) _ = _
    simp [size]

theorem run_enterAttribute (c : Catalogue) (relation name : String) (values : Count) :
    (enterAttribute relation name values).run c =
      match c.createAttribute relation name values with
      | .ok d => .ok () d
      | .error e => .error e c := by
  rw [enterAttribute, createAttribute, addTo?_eq_map]
  by_cases hv : values = 0
  · rw [if_pos hv, if_pos hv]
    rfl
  rw [if_neg hv, if_neg hv]
  show (if (c.attribute? name).isSome then throw _ else _ : Editing Unit) c = _
  by_cases hn : (c.attribute? name).isSome = true
  · rw [if_pos hn, if_pos hn]
    rfl
  rw [if_neg hn, if_neg hn]
  show (match c.position? relation with | none => _ | some i => _ : Editing Unit) c = _
  cases c.position? relation <;> rfl

theorem Call.run_perform (c : Catalogue) (call : Call) :
    call.perform.run c =
      match call.apply c with
      | .ok d => .ok () d
      | .error e => .error e c := by
  cases call with
  | newRelation name tuples =>
    rw [Call.perform, EStateM.run_bind, run_enterRelation, Call.apply]
    cases c.createRelation name tuples <;> rfl
  | newAttribute relation name values => exact run_enterAttribute c relation name values
  | load text =>
    rw [Call.perform, replaceBy, Call.apply]
    cases (ofText text).result <;> rfl

/-! ### Histories -/

/-- What a call has put where, if it entered something: a relation stands behind all others, an
attribute behind those of its relation. -/
inductive Call.Appends (c : Catalogue) : Call → Catalogue → Prop where
  /-- A relation without attributes. -/
  | newRelation {name : String} {tuples : Count} :
    Call.Appends c (.newRelation name tuples) ⟨c.relations ++ [⟨name, tuples, []⟩]⟩
  /-- An attribute. -/
  | newAttribute {relation name : String} {values : Count} {i : Nat}
    (h : c.position? relation = some i) :
    Call.Appends c (.newAttribute relation name values) (c.withAttribute i ⟨name, values⟩)

/-- The catalogue after some calls, whether or not they succeed. -/
def afterAll (calls : List Call) : Catalogue :=
  calls.foldl (fun c call => left (call.perform.run c)) empty

theorem Valid.apply (hc : c.Valid) {call : Call} (h : call.apply c = .ok d) : d.Valid := by
  cases call with
  | newRelation name tuples => exact hc.createRelation h
  | newAttribute relation name values => exact hc.createAttribute h
  | load text => exact valid_of_ofText h

theorem Valid.left_run (hc : c.Valid) (call : Call) : (left (call.perform.run c)).Valid := by
  rw [call.run_perform]
  cases h : call.apply c with
  | error e => exact hc
  | ok d => exact hc.apply h

theorem Valid.foldl_left_run (hc : c.Valid) (calls : List Call) :
    (calls.foldl (fun c call => left (call.perform.run c)) c).Valid := by
  induction calls generalizing c with
  | nil => exact hc
  | cons call calls ih => exact ih (hc.left_run call)

/-- **Histories**: after any calls, some of which may have failed, the rules of catalogues hold. The
next call leaves the catalogue as it is if it fails; if it succeeds, it has loaded a text, or it has
appended what it was to enter and moved nothing. -/
theorem valid_afterAll (calls : List Call) (call : Call) :
    (afterAll calls).Valid ∧
    (∀ e d, call.perform.run (afterAll calls) = .error e d → d = afterAll calls) ∧
    ∀ d, call.perform.run (afterAll calls) = .ok () d →
      d.Valid ∧ ((∃ text, call = .load text ∧ (ofText text).result = .ok d) ∨
        (call.Appends (afterAll calls) d ∧ (afterAll calls).Extends d)) := by
  have hc : (afterAll calls).Valid := valid_empty.foldl_left_run calls
  generalize afterAll calls = c at hc ⊢
  rw [call.run_perform]
  cases h : call.apply c with
  | error e =>
    refine ⟨hc, fun _ _ he => ?_, nofun⟩
    cases he
    rfl
  | ok d =>
    refine ⟨hc, nofun, fun _ hd => ?_⟩
    cases hd
    refine ⟨hc.apply h, ?_⟩
    cases call with
    | newRelation name tuples =>
      obtain rfl := createRelation_eq_ok h
      exact Or.inr ⟨.newRelation, extends_append c name tuples⟩
    | newAttribute relation name values =>
      obtain ⟨hn, i, hi, rfl⟩ := createAttribute_eq_ok h
      exact Or.inr ⟨.newAttribute hi, extends_withAttribute hn i⟩
    | load text => exact Or.inl ⟨text, rfl, h⟩

/-- Books are entered, with calls in between that fail: a relation that is there already, a title
without values, and a text that is not one of a catalogue. -/
def bookCalls : List Call :=
  [.newRelation "books" (.clamp 90), .newRelation "books" (.clamp 3),
    .newAttribute "books" "title" 0, .newAttribute "books" "title" (.clamp 80), .load "books"]

/-- The books, each with its title. -/
def books : BaseRelation := ⟨"books", ⟨.clamp 90, [⟨"title", .clamp 80⟩]⟩⟩

theorem afterAll_bookCalls :
    afterAll bookCalls = ⟨[books]⟩ ∧ (afterAll bookCalls).Valid ∧
      (Call.newAttribute "readers" "title" 1).perform.run (afterAll bookCalls) =
        .error (.duplicateAttribute "title") (afterAll bookCalls) ∧
      (Call.newRelation "readers" (.clamp 7)).perform.run (afterAll bookCalls) =
        .ok () ⟨[books, ⟨"readers", .clamp 7, []⟩]⟩ ∧
      (afterAll bookCalls).Extends ⟨[books, ⟨"readers", .clamp 7, []⟩]⟩ := by
  have hc : afterAll bookCalls = ⟨[books]⟩ := by rfl
  have hbad : (Call.newAttribute "readers" "title" 1).perform.run (afterAll bookCalls) =
      .error (.duplicateAttribute "title") (afterAll bookCalls) := by rfl
  have hgood : (Call.newRelation "readers" (.clamp 7)).perform.run (afterAll bookCalls) =
      .ok () ⟨[books, ⟨"readers", .clamp 7, []⟩]⟩ := by rfl
  obtain ⟨hvalid, -, hok⟩ := valid_afterAll bookCalls (.newRelation "readers" (.clamp 7))
  obtain ⟨-, hload | ⟨-, hext⟩⟩ := hok _ hgood
  · obtain ⟨text, h, -⟩ := hload
    cases h
  · exact ⟨hc, hvalid, hbad, hgood, hext⟩

end RelPlan.Catalogue
