import RelPlan.Proofs.Query.Rereading

/-!
# Clauses

A query is read clause by clause (`Query.query_eq`): the attributes, the relations, the conditions,
and the end. Every clause is read from each text that has its form in front, and what it leaves is
not begun by a character that would have gone on with it.
-/

namespace RelPlan.Query

variable {c : Char} {p : Char → Bool} {cs front rest more gap gap' : List Char}
  {attributes : Option (List String)} {relations : List String} {conditions : List Condition}

/-- The attributes behind `SELECT`. -/
def selectClause : Reader (Option (List String)) := fun cs => do
  let ((), rest) ← keyword "select" (skipBlanks cs)
  let ((), rest) ← blanks rest
  attributeList rest

/-- The relations behind `FROM`. -/
def fromClause : Reader (List String) := fun cs => do
  let ((), rest) ← blanks cs
  let ((), rest) ← keyword "from" rest
  let ((), rest) ← blanks rest
  items name rest

theorem query_eq (cs : List Char) :
    query cs = do
      let (attributes, rest) ← selectClause cs
      let (relations, rest) ← fromClause rest
      let (conditions, rest) := optionalWhere rest
      return (⟨attributes, relations, conditions⟩, skipEnding rest) := by
  simp only [query, selectClause, fromClause, bind_assoc]

theorem query_of_selectClause_error {m : Mismatch} (h : selectClause cs = .error m) :
    query cs = .error m := by
  rw [query_eq, h]
  rfl

theorem query_of_fromClause_error {m : Mismatch} (h : selectClause cs = .ok (attributes, rest))
    (hfrom : fromClause rest = .error m) : query cs = .error m := by
  rw [query_eq, h]
  show (fromClause rest >>= _) = _
  rw [hfrom]
  rfl

/-! ### Attributes -/

/-- The text does not go on with the attributes. -/
def EndsAttributes (attributes : Option (List String)) (rest : List Char) : Prop :=
  attributes = none ∨ EndsList isNameChar rest

theorem selectClause_start {before select : List Char} (hbefore : Blanks before)
    (hselect : Keyword "select" select) (rest : List Char) :
    selectClause (before ++ (select ++ rest)) =
      blanks rest >>= fun found => attributeList found.2 := by
  have hstop : Stops isBlank (select ++ rest) :=
    hselect.stops unmarked_select fun _ => mem_marks_of_isBlank
  rw [selectClause, skipBlanks_append hbefore hstop,
    (reads_keyword "select").complete (a := ()) hselect trivial]
  rfl

theorem blanks_append (hgap : Gap gap) (hrest : Stops isBlank rest) :
    blanks (gap ++ rest) = .ok ((), rest) :=
  reads_blanks.complete hgap hrest

theorem attributeList_append (h : AttributesForm attributes front)
    (hrest : EndsAttributes attributes rest) :
    attributeList (front ++ rest) = .ok (attributes, rest) := by
  rcases hrest with rfl | hrest
  · cases h
    rfl
  · exact reads_attributeList.complete h hrest

theorem selectClause_append (h : SelectForm attributes front)
    (hrest : EndsAttributes attributes rest) :
    selectClause (front ++ rest) = .ok (attributes, rest) := by
  obtain ⟨hbefore, hselect, hgap, hlisted⟩ := h
  simp only [List.append_assoc]
  rw [selectClause_start hbefore hselect, blanks_append hgap hlisted.stops_blank]
  exact attributeList_append hlisted hrest

/-- Behind the attributes there is no character that goes on with the last of them, and no comma
with a further one. -/
theorem exists_of_attributeList (h : attributeList cs = .ok (attributes, rest)) :
    ∃ listed, AttributesForm attributes listed ∧ cs = listed ++ rest ∧
      (attributes = none ∨ Stops isNameChar rest ∧ Unextended NameForm rest) := by
  unfold attributeList at h
  split at h
  · next more hstar =>
    cases h
    exact ⟨['*'], .all, char_eq_ok_iff.1 hstar, Or.inl rfl⟩
  · obtain ⟨⟨names, more⟩, hnames, hmore⟩ := bind_eq_ok_iff.1 h
    cases hmore
    obtain ⟨listed, hlist, rfl, hrest⟩ := exists_of_names hnames
    exact ⟨listed, .listed hlist, rfl, Or.inr hrest⟩

theorem exists_of_selectClause (h : selectClause cs = .ok (attributes, rest)) :
    ∃ selected, SelectForm attributes selected ∧ cs = selected ++ rest ∧
      (attributes = none ∨ Stops isNameChar rest ∧ Unextended NameForm rest) := by
  obtain ⟨before, hbefore, hcs⟩ := exists_skipBlanks cs
  obtain ⟨_, select, rest₁, hselect, h₁, hrest⟩ := (reads_keyword "select").of_bind_eq_ok h
  obtain ⟨_, gap, rest₂, hgap, h₂, rfl⟩ := reads_blanks.of_bind_eq_ok h₁
  obtain ⟨listed, hlisted, rfl, hstop⟩ := exists_of_attributeList h₂
  refine ⟨_, .mk hbefore hselect hgap hlisted, ?_, hstop⟩
  rw [hcs, hrest]
  simp only [List.append_assoc]

theorem endsAttributes_from {word : List Char} (hgap : Gap gap) (hword : Keyword "from" word)
    (rest : List Char) : EndsAttributes attributes (gap ++ (word ++ rest)) :=
  Or.inr (hgap.endsList hword unmarked_from readsItem_name.separator)

/-! ### Relations -/

theorem fromClause_gap (hgap : Gap gap) (hrest : Stops isBlank rest) :
    fromClause (gap ++ rest) = (do
      let ((), rest) ← keyword "from" rest
      let ((), rest) ← blanks rest
      items name rest) := by
  rw [fromClause, blanks_append hgap hrest]
  rfl

theorem fromClause_word {word : List Char} (hgap : Gap gap) (hword : Keyword "from" word)
    (rest : List Char) :
    fromClause (gap ++ (word ++ rest)) = blanks rest >>= fun found => items name found.2 := by
  rw [fromClause_gap hgap (hword.stops unmarked_from fun _ => mem_marks_of_isBlank),
    (reads_keyword "from").complete (a := ()) hword trivial]
  rfl

theorem exists_of_fromClause (hselect : SelectForm attributes front)
    (h : fromClause rest = .ok (relations, more)) :
    ∃ read, FromForm attributes relations (front ++ read) ∧ rest = read ++ more ∧
      Stops isNameChar more ∧ Unextended NameForm more := by
  obtain ⟨_, gap, rest₁, hgap, h₁, rfl⟩ := reads_blanks.of_bind_eq_ok h
  obtain ⟨_, word, rest₂, hword, h₂, rfl⟩ := (reads_keyword "from").of_bind_eq_ok h₁
  obtain ⟨_, gap', rest₃, hgap', h₃, rfl⟩ := reads_blanks.of_bind_eq_ok h₂
  obtain ⟨read, hread, rfl, hstop, hunextended⟩ := exists_of_names h₃
  exact ⟨_, .mk hselect hgap hword hgap' hread, by simp only [List.append_assoc], hstop,
    hunextended⟩

/-- What is read in front of the conditions does not depend on them. -/
theorem query_append (h : FromForm attributes relations front) (hrest : EndsList isNameChar rest) :
    query (front ++ rest) =
      .ok (⟨attributes, relations, (optionalWhere rest).1⟩, skipEnding (optionalWhere rest).2) := by
  obtain ⟨hselect, hgap, hword, hgap', hread⟩ := h
  simp only [List.append_assoc]
  rw [query_eq, selectClause_append hselect (endsAttributes_from hgap hword _)]
  show (fromClause _ >>= _) = _
  rw [fromClause_word hgap hword, blanks_append hgap' (hread.stops readsItem_name.start)]
  show (items name _ >>= _) = _
  rw [readsItem_name.items.complete hread hrest]
  rfl

/-! ### Conditions -/

/-- A clause with at least one condition is read, whatever follows it. -/
theorem exists_whereClause (hgap : Gap gap) (hfront : FilterForm front) (rest : List Char) :
    ∃ r, whereClause (gap ++ (front ++ rest)) = .ok r := by
  obtain ⟨hword, hgap', hcondition⟩ := hfront
  obtain ⟨⟨k, more⟩, hk⟩ := takes_condition _ _ rest hcondition
  have hstop := readsItem_condition.start rest hcondition
  simp only [List.append_assoc]
  exact ⟨_, (whereClause_word hgap hword hgap' hstop).trans (items_eq_ok hk)⟩

/-- Without blanks in front there is no `WHERE` clause. -/
theorem whereClause_of_stops_blank (h : Stops isBlank cs) : ∃ m, whereClause cs = .error m := by
  refine ⟨⟨.blank, cs⟩, ?_⟩
  rw [whereClause, blanks_eq_error_iff.2 ⟨rfl, h⟩]
  rfl

theorem optionalWhere_of_error {m : Mismatch} (h : whereClause cs = .error m) :
    optionalWhere cs = ([], cs) := by
  rw [optionalWhere, h]

theorem optionalWhere_of_ok (h : whereClause cs = .ok (conditions, rest)) :
    optionalWhere cs = (conditions, rest) := by
  rw [optionalWhere, h]

/-! ### The end -/

/-- The ending of a query in front of a character that does not belong to it. -/
structure EndsBefore (ending : List Char) (c : Char) : Prop where
  /-- The character is not a blank. -/
  notBlank : isBlank c = false
  /-- It is a semicolon only if there is one in the ending already. -/
  ending : Blanks ending ∧ c ≠ ';' ∨ Spaced ';' ending

theorem EndsBefore.endingForm (h : EndsBefore front c) : EndingForm front :=
  h.ending.elim (fun hblanks => .blank hblanks.1) .semicolon

/-- What is left of a text behind its ending does not belong to the ending. -/
theorem exists_of_skipEnding (h : skipEnding cs = c :: more) :
    ∃ ending, EndsBefore ending c ∧ cs = ending ++ c :: more := by
  obtain ⟨blanks, hblanks, hcs⟩ := exists_skipBlanks cs
  unfold skipEnding at h
  split at h
  · next rest hrest =>
    obtain ⟨behind, hbehind, hmore⟩ := exists_skipBlanks rest
    have hstop := stops_skipBlanks rest
    rw [h] at hstop hmore
    refine ⟨blanks ++ ';' :: behind, ⟨stops_cons.1 hstop, Or.inr (.mk hblanks hbehind)⟩, ?_⟩
    rw [hcs, hrest, hmore, List.append_assoc, List.cons_append]
  · next hnot =>
    have hstop := stops_skipBlanks cs
    rw [h] at hstop hcs
    refine ⟨blanks, ⟨stops_cons.1 hstop, Or.inl ⟨hblanks, ?_⟩⟩, hcs⟩
    rintro rfl
    exact hnot more h

theorem skipEnding_append (h : EndsBefore front c) :
    skipEnding (front ++ c :: more) = c :: more := by
  have hstop : Stops isBlank (c :: more) := stops_cons.2 h.notBlank
  unfold skipEnding
  rcases h.ending with ⟨hblanks, hne⟩ | ⟨hbefore, hbehind⟩
  · rw [skipBlanks_append hblanks hstop]
    split
    · next heq => exact absurd (List.cons.inj heq).1 hne
    · rfl
  · rw [List.append_assoc, List.cons_append, skipBlanks_append hbefore (stops_cons.2 (by decide))]
    exact skipBlanks_append hbehind hstop

/-- A point stands neither in front of an ending nor within one. -/
theorem EndsBefore.stops_point (h : EndsBefore front c) (hne : front ≠ []) (rest : List Char) :
    Stops (· = '.') (front ++ rest) := by
  have hblank : ∀ b, isBlank b → decide (b = '.') = false := by
    intro b hb
    rw [decide_eq_false_iff_not]
    rintro rfl
    simp [isBlank] at hb
  rcases h.ending with ⟨hblanks, -⟩ | hspaced
  · exact Gap.stops ⟨hne, hblanks⟩ hblank
  · exact hspaced.stops hblank (by decide)

end RelPlan.Query
