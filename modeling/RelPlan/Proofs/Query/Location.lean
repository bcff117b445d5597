import RelPlan.Proofs.Query.Clauses
import RelPlan.Proofs.Query.Positions

/-!
# Where syntax errors are reported

A text that is not a query is reported at the place where the last reader met its mismatch. The text
in front of this place begins a query, and mostly the character at the place is the first that
cannot follow. But where a keyword, a further item of a list, the `WHERE` clause or a fraction is
started and cannot be read in full, the place is the beginning of this part, whose first character
can follow (`Query.Breaks`). There is one lemma for each way in which a clause can break
(`breaks_selectWord` to `breaks_filtered`); `Query.exists_of_whole_error` collects them. The other
way round it is shown that the readers fail again whatever stands behind the character.
-/

namespace RelPlan.Query

variable {c : Char} {p : Char → Bool} {cs before front rest more gap blank : List Char}
  {attributes : Option (List String)} {relations : List String} {conditions : List Condition}

/-- The text stops being the beginning of a query between `before` and `rest`. -/
structure Breaks (before rest : List Char) : Prop where
  /-- The text in front of the place begins a query. -/
  begins : Begins before
  /-- The character at the place goes on with it exactly if it starts an unfinished part. -/
  next : ∀ c more, rest = c :: more → (Begins (before ++ [c]) ↔ Unfinished before rest)

/-- The character at the place starts an unfinished part, or no query is read whatever follows the
character. -/
theorem breaks_of_query (hbegins : Begins before)
    (h : ∀ c more, rest = c :: more →
      Unfinished before rest ∨ ∀ more q, query (before ++ c :: more) ≠ .ok (q, [])) :
    Breaks before rest := by
  refine ⟨hbegins, ?_⟩
  rintro c more rfl
  constructor
  · intro hnext
    obtain ⟨tail, q, hq⟩ := begins_iff_query.1 hnext
    rw [List.append_assoc, List.singleton_append] at hq
    exact (h c more rfl).resolve_right fun hnot => hnot tail q hq
  · exact Unfinished.begins

theorem breaks_of_error (hbegins : Begins before)
    (h : ∀ c more, rest = c :: more →
      Unfinished before rest ∨ ∀ more, ∃ m, query (before ++ c :: more) = .error m) :
    Breaks before rest := by
  refine breaks_of_query hbegins fun c more hrest => (h c more hrest).imp_right ?_
  intro herror more q
  obtain ⟨m, hm⟩ := herror more
  simp [hm]

/-! ### Parts that are started -/

theorem unfinished_keyword {word : String} {k : Char} {ks : List Char}
    (hword : word.toList = k :: ks) (hks : ks.map Char.toLower = ks)
    (hawaits : Awaits (Keyword word) before) (hc : c.toLower = k)
    (hnot : ∀ front, Keyword word front → ¬ front <+: c :: more) :
    Unfinished before (c :: more) := by
  have hkeyword : Keyword word (c :: ks) := by rw [Keyword, hword, List.map_cons, hc, hks]
  exact ⟨_, hawaits, ⟨c, ks, more, rfl, hkeyword⟩, hnot⟩

theorem unfinished_further {α : Type} {form : α → List Char → Prop} {a : α} {m : List Char}
    (hitem : form a m) (hawaits : Awaits (Further form) before) (hblank : Blanks blank)
    (hrest : Unextended form (blank ++ ',' :: more)) : Unfinished before (',' :: more) := by
  have hskip : skipBlanks (blank ++ ',' :: more) = ',' :: more :=
    skipBlanks_append hblank (stops_cons.2 (by decide))
  refine ⟨_, hawaits, ⟨',', m, more, rfl, .mk blanks_nil hitem⟩, ?_⟩
  intro front hfront hfirst
  exact hrest front hfront (by rwa [hskip])

theorem head?_append_cons (front more more' : List Char) (c : Char) :
    (front ++ c :: more').head? = (front ++ c :: more).head? := by
  cases front <;> rfl

/-- Whether a list ends is seen from the blanks behind it and from the character behind these. -/
theorem endsList_of_ne_comma (hblank : Blanks blank) (hc : isBlank c = false) (hcomma : c ≠ ',')
    (hstop : Stops p (blank ++ c :: more)) (more' : List Char) :
    EndsList p (blank ++ c :: more') := by
  refine ⟨hstop.of_head?_eq (head?_append_cons _ _ _ _), ?_⟩
  rw [skipBlanks_append hblank (stops_cons.2 hc)]
  simpa using hcomma

/-! ### In the attributes -/

/-- A text that does not begin with `SELECT` breaks behind its blanks. -/
theorem breaks_selectWord (hbefore : Blanks before) (hblank : Stops isBlank rest)
    (hnot : ∀ front, Keyword "select" front → ¬ front <+: rest) : Breaks before rest := by
  have hword : "select".toList = 's' :: "elect".toList := rfl
  have hselect : Keyword "select" "select".toList := rfl
  refine breaks_of_error (begins_select hbefore hselect gap_blank).of_append ?_
  rintro c more rfl
  by_cases hc : c.toLower = 's'
  · exact Or.inl (unfinished_keyword hword rfl (.selectWord hbefore) hc hnot)
  · refine Or.inr fun more' => ⟨⟨.keyword, c :: more'⟩, query_of_selectClause_error ?_⟩
    have hstop : Stops isBlank (c :: more') := hblank
    rw [selectClause, skipBlanks_append hbefore hstop,
      keyword_eq_error hword (stops_cons.2 (by simpa using hc))]
    rfl

theorem breaks_selectGap {select : List Char} (hbefore : Blanks before)
    (hselect : Keyword "select" select) (hblank : Stops isBlank rest) :
    Breaks (before ++ select) rest := by
  have hbegins := begins_select hbefore hselect gap_blank
  rw [← List.append_assoc] at hbegins
  refine breaks_of_error hbegins.of_append ?_
  rintro c more rfl
  refine Or.inr fun more' => ⟨⟨.blank, c :: more'⟩, query_of_selectClause_error ?_⟩
  have hstop : Stops isBlank (c :: more') := hblank
  rw [List.append_assoc, selectClause_start hbefore hselect, blanks_eq_error_iff.2 ⟨rfl, hstop⟩]
  rfl

theorem breaks_attributes {select : List Char} (hbefore : Blanks before)
    (hselect : Keyword "select" select) (hgap : Gap gap) (hblank : Stops isBlank rest)
    (hstar : Stops (· = '*') rest) (hname : Stops isNameChar rest) :
    Breaks (before ++ (select ++ gap)) rest := by
  refine breaks_of_error (begins_select hbefore hselect hgap) ?_
  rintro c more rfl
  refine Or.inr fun more' => ⟨⟨.name, c :: more'⟩, query_of_selectClause_error ?_⟩
  have hstop : Stops isBlank (c :: more') := hblank
  simp only [List.append_assoc]
  rw [selectClause_start hbefore hselect, blanks_append hgap hstop]
  exact attributeList_eq_error_iff.2 ⟨rfl, hstar, hname⟩

/-- The attributes break at the mismatch. -/
theorem exists_of_selectClause_error {m : Mismatch} (h : selectClause cs = .error m) :
    ∃ before, cs = before ++ m.rest ∧ Breaks before m.rest := by
  obtain ⟨before, hbefore, hcs⟩ := exists_skipBlanks cs
  rcases bind_eq_error_iff.1 h with he | ⟨⟨_, rest₁⟩, h₁, he₁⟩
  · obtain ⟨rfl, hnot⟩ := keyword_eq_error_iff.1 he
    exact ⟨before, hcs, breaks_selectWord hbefore (stops_skipBlanks cs) hnot⟩
  obtain ⟨select, hselect, hrest⟩ := (reads_keyword "select").sound h₁
  rw [hrest] at hcs
  rcases bind_eq_error_iff.1 he₁ with he | ⟨⟨_, rest₂⟩, h₂, he₂⟩
  · obtain ⟨rfl, hstop⟩ := blanks_eq_error_iff.1 he
    exact ⟨before ++ select, by rw [hcs, List.append_assoc],
      breaks_selectGap hbefore hselect hstop⟩
  have hblank : Stops isBlank rest₂ := blanks_eq_ok h₂ ▸ stops_skipBlanks _
  obtain ⟨gap, hgap, rfl⟩ := reads_blanks.sound h₂
  obtain ⟨rfl, hstar, hname⟩ := attributeList_eq_error_iff.1 he₂
  exact ⟨before ++ (select ++ gap), by rw [hcs, List.append_assoc, List.append_assoc],
    breaks_attributes hbefore hselect hgap hblank hstar hname⟩

/-! ### In the relations -/

/-- Behind the attributes and blanks, a comma starts a further attribute, and any other character
leaves the attributes as they are. -/
theorem unfinished_or_selectClause (hselect : SelectForm attributes front)
    (hrest : attributes = none ∨
      Stops isNameChar (blank ++ c :: more) ∧ Unextended NameForm (blank ++ c :: more))
    (hblank : Blanks blank) (hc : isBlank c = false) :
    Unfinished (front ++ blank) (c :: more) ∨
      ∀ more', selectClause (front ++ (blank ++ c :: more')) =
        .ok (attributes, blank ++ c :: more') := by
  rcases attributes with _ | names
  · exact Or.inr fun more' => selectClause_append hselect (Or.inl rfl)
  obtain ⟨hstop, hunextended⟩ := hrest.resolve_left (by simp)
  by_cases hcomma : c = ','
  · subst hcomma
    exact Or.inl (unfinished_further nameForm_r (.furtherAttribute hselect hblank) hblank
      hunextended)
  · exact Or.inr fun more' => selectClause_append hselect
      (Or.inr (endsList_of_ne_comma hblank hc hcomma hstop more'))

theorem breaks_fromGap (hselect : SelectForm attributes front)
    (hrest : attributes = none ∨ Stops isNameChar rest ∧ Unextended NameForm rest)
    (hblank : Stops isBlank rest) : Breaks front rest := by
  refine breaks_of_error hselect.begins ?_
  rintro c more rfl
  have hcases : Unfinished (front ++ []) (c :: more) ∨ ∀ more',
      selectClause (front ++ ([] ++ c :: more')) = .ok (attributes, [] ++ c :: more') :=
    unfinished_or_selectClause hselect hrest blanks_nil (stops_cons.1 hblank)
  simp only [List.append_nil, List.nil_append] at hcases
  refine hcases.imp_right fun hread more' =>
    ⟨⟨.blank, c :: more'⟩, query_of_fromClause_error (hread more') ?_⟩
  have hstop : Stops isBlank (c :: more') := hblank
  rw [fromClause, blanks_eq_error_iff.2 ⟨rfl, hstop⟩]
  rfl

theorem breaks_fromWord (hselect : SelectForm attributes front)
    (hrest : attributes = none ∨
      Stops isNameChar (gap ++ rest) ∧ Unextended NameForm (gap ++ rest))
    (hgap : Gap gap) (hblank : Stops isBlank rest)
    (hnot : ∀ front, Keyword "from" front → ¬ front <+: rest) : Breaks (front ++ gap) rest := by
  have hword : "from".toList = 'f' :: "rom".toList := rfl
  refine breaks_of_error (hselect.begins_gap hgap) ?_
  rintro c more rfl
  by_cases hfrom : c.toLower = 'f'
  · exact Or.inl (unfinished_keyword hword rfl (.fromWord hselect hgap) hfrom hnot)
  refine (unfinished_or_selectClause hselect hrest hgap.blanks (stops_cons.1 hblank)).imp_right ?_
  intro hread more'
  refine ⟨⟨.keyword, c :: more'⟩, ?_⟩
  rw [List.append_assoc]
  refine query_of_fromClause_error (hread more') ?_
  have hstop : Stops isBlank (c :: more') := hblank
  rw [fromClause_gap hgap hstop, keyword_eq_error hword (stops_cons.2 (by simpa using hfrom))]
  rfl

theorem breaks_relationsGap {word : List Char} (hselect : SelectForm attributes front)
    (hgap : Gap gap) (hword : Keyword "from" word) (hblank : Stops isBlank rest) :
    Breaks (front ++ (gap ++ word)) rest := by
  have hbegins := hselect.begins_from hgap hword gap_blank
  simp only [← List.append_assoc] at hbegins ⊢
  refine breaks_of_error hbegins.of_append ?_
  rintro c more rfl
  refine Or.inr fun more' => ⟨⟨.blank, c :: more'⟩, ?_⟩
  simp only [List.append_assoc]
  refine query_of_fromClause_error
    (selectClause_append hselect (endsAttributes_from hgap hword _)) ?_
  have hstop : Stops isBlank (c :: more') := hblank
  rw [fromClause_word hgap hword, blanks_eq_error_iff.2 ⟨rfl, hstop⟩]
  rfl

theorem breaks_relations {word gap' : List Char} (hselect : SelectForm attributes front)
    (hgap : Gap gap) (hword : Keyword "from" word) (hgap' : Gap gap')
    (hblank : Stops isBlank rest) (hname : Stops isNameChar rest) :
    Breaks (front ++ (gap ++ (word ++ gap'))) rest := by
  refine breaks_of_error (hselect.begins_from hgap hword hgap') ?_
  rintro c more rfl
  refine Or.inr fun more' => ⟨⟨.name, c :: more'⟩, ?_⟩
  simp only [List.append_assoc]
  refine query_of_fromClause_error
    (selectClause_append hselect (endsAttributes_from hgap hword _)) ?_
  have hstop : Stops isBlank (c :: more') := hblank
  rw [fromClause_word hgap hword, blanks_append hgap' hstop]
  exact items_eq_error_iff.2 (name_eq_error_iff.2 ⟨rfl, hname⟩)

/-- The relations break at the mismatch. -/
theorem exists_of_fromClause_error {m : Mismatch} (hselect : SelectForm attributes front)
    (hrest : attributes = none ∨ Stops isNameChar rest ∧ Unextended NameForm rest)
    (h : fromClause rest = .error m) :
    ∃ before, front ++ rest = before ++ m.rest ∧ Breaks before m.rest := by
  rcases bind_eq_error_iff.1 h with he | ⟨⟨_, rest₁⟩, h₁, he₁⟩
  · obtain ⟨rfl, hblank⟩ := blanks_eq_error_iff.1 he
    exact ⟨front, rfl, breaks_fromGap hselect hrest hblank⟩
  have hblank : Stops isBlank rest₁ := blanks_eq_ok h₁ ▸ stops_skipBlanks _
  obtain ⟨gap, hgap, rfl⟩ := reads_blanks.sound h₁
  rcases bind_eq_error_iff.1 he₁ with he | ⟨⟨_, rest₂⟩, h₂, he₂⟩
  · obtain ⟨rfl, hnot⟩ := keyword_eq_error_iff.1 he
    exact ⟨front ++ gap, by rw [List.append_assoc],
      breaks_fromWord hselect hrest hgap hblank hnot⟩
  obtain ⟨word, hword, rfl⟩ := (reads_keyword "from").sound h₂
  rcases bind_eq_error_iff.1 he₂ with he | ⟨⟨_, rest₃⟩, h₃, he₃⟩
  · obtain ⟨rfl, hblank⟩ := blanks_eq_error_iff.1 he
    exact ⟨front ++ (gap ++ word), by simp only [List.append_assoc],
      breaks_relationsGap hselect hgap hword hblank⟩
  have hblank' : Stops isBlank rest₃ := blanks_eq_ok h₃ ▸ stops_skipBlanks _
  obtain ⟨gap', hgap', rfl⟩ := reads_blanks.sound h₃
  obtain ⟨rfl, hname⟩ := name_eq_error_iff.1 (items_eq_error_iff.1 he₃)
  exact ⟨front ++ (gap ++ (word ++ gap')), by simp only [List.append_assoc],
    breaks_relations hselect hgap hword hgap' hblank' hname⟩

/-! ### Behind the relations -/

/-- What stands behind an ending shows that the text is not a query. -/
theorem query_ne_of_optionalWhere (hfrom : FromForm attributes relations front)
    (hends : EndsList isNameChar rest)
    (hwhere : optionalWhere rest = (conditions, before ++ c :: more))
    (hending : EndsBefore before c) (q : Query) : query (front ++ rest) ≠ .ok (q, []) := by
  rw [query_append hfrom hends, hwhere, skipEnding_append hending]
  simp

theorem conditionForm_r : ConditionForm (.equality "r" "r") ['r', '=', 'r'] :=
  .mk nameForm_r (.mk blanks_nil blanks_nil) (.name nameForm_r (by decide))

theorem unfinished_filter {m : Mismatch} (hfrom : FromForm attributes relations front)
    (hgap : Gap gap) (hwhere : whereClause (gap ++ c :: more) = .error m) (hc : c.toLower = 'w') :
    Unfinished (front ++ gap) (c :: more) := by
  have hword : Keyword "where" (c :: ['h', 'e', 'r', 'e']) := by
    rw [Keyword, List.map_cons, hc]
    rfl
  refine ⟨_, .filter hfrom hgap, ⟨c, _, more, rfl, .mk hword gap_blank conditionForm_r⟩, ?_⟩
  rintro filter hfilter ⟨tail, htail⟩
  obtain ⟨r, hr⟩ := exists_whereClause hgap hfilter tail
  rw [htail, hwhere] at hr
  cases hr

/-- The relations stand in front of the ending, and no conditions are read between them. -/
theorem breaks_unfiltered {m : Mismatch} (hfrom : FromForm attributes relations front)
    (hstop : Stops isNameChar (before ++ c :: more))
    (hunextended : Unextended NameForm (before ++ c :: more))
    (hwhere : whereClause (before ++ c :: more) = .error m) (hending : EndsBefore before c) :
    Breaks (front ++ before) (c :: more) := by
  have hbegins := hfrom.begins_ending .absent hending.endingForm
  rw [List.nil_append] at hbegins
  refine breaks_of_query hbegins ?_
  rintro _ _ ⟨⟩
  have hright : ∀ {more'}, EndsList isNameChar (before ++ c :: more') →
      (∃ m, whereClause (before ++ c :: more') = .error m) →
      ∀ q, query (front ++ before ++ c :: more') ≠ .ok (q, []) := by
    rintro more' hends ⟨m, hm⟩ q
    rw [List.append_assoc]
    exact query_ne_of_optionalWhere hfrom hends (optionalWhere_of_error hm) hending q
  rcases id hending with ⟨hc, ⟨hblank, -⟩ | hspaced⟩
  -- behind blanks the character could have gone on with the relations or started a clause
  · by_cases hcomma : c = ','
    · subst hcomma
      exact Or.inl (unfinished_further nameForm_r (.furtherRelation hfrom hblank) hblank
        hunextended)
    have hends := endsList_of_ne_comma hblank hc hcomma hstop
    by_cases hnil : before = []
    · subst hnil
      exact Or.inr fun more' => hright (hends more') (whereClause_of_stops_blank (stops_cons.2 hc))
    by_cases hw : c.toLower = 'w'
    · exact Or.inl (unfinished_filter hfrom ⟨hnil, hblank⟩ hwhere hw)
    · refine Or.inr fun more' => hright (hends more') (whereClause_of_stops ?_)
      rw [skipBlanks_append hblank (stops_cons.2 hc)]
      simpa using hw
  -- behind a semicolon it could not
  · refine Or.inr fun more' => ?_
    obtain ⟨behind, hskip⟩ := hspaced.exists_skipBlanks (by decide) (c :: more')
    refine hright ⟨hspaced.stops_of_separators readsItem_name.separator (by decide), ?_⟩
      (whereClause_of_stops ?_)
    · simp [hskip]
    · simp [hskip]

theorem unfinished_fraction {word gap' listed : List Char}
    (hfrom : FromForm attributes relations front) (hgap : Gap gap) (hword : Keyword "where" word)
    (hgap' : Gap gap') (hpointed : PointedCondition listed (c :: more)) :
    Unfinished (front ++ (gap ++ (word ++ (gap' ++ listed)))) (c :: more) := by
  obtain ⟨hfront, hname, hequals, hwhole⟩ := hpointed
  obtain ⟨hform, tail, htail, -⟩ := id hwhole
  obtain ⟨rfl, -⟩ := List.cons.inj htail
  have hdigit : Fraction ['.', '0'] := .mk ⟨by simp, by simp⟩
  exact ⟨_, .fraction hfrom hgap hword hgap' hfront hname hequals hform,
    ⟨'.', ['0'], more, rfl, hdigit⟩, fun _ hfraction => hwhole.not_fraction hfraction⟩

/-- Conditions stand in front of the ending. -/
theorem breaks_filtered {word gap' listed : List Char} (hfrom : FromForm attributes relations front)
    (hgap : Gap gap) (hword : Keyword "where" word) (hgap' : Gap gap')
    (hlist : ListForm ConditionForm conditions listed)
    (hunextended : Unextended ConditionForm (before ++ c :: more))
    (hrest : RereadsConditions conditions listed (before ++ c :: more) ∨
      PointedCondition listed (before ++ c :: more))
    (hending : EndsBefore before c) :
    Breaks (front ++ (gap ++ (word ++ (gap' ++ (listed ++ before))))) (c :: more) := by
  have hbegins := hfrom.begins_ending (.present hgap hword hgap' hlist) hending.endingForm
  simp only [List.append_assoc] at hbegins
  refine breaks_of_query hbegins ?_
  rintro _ _ ⟨⟩
  rcases hrest with hreads | hpointed
  · have hright : ∀ {more'}, Stops (· = ',') (skipBlanks (before ++ c :: more')) → ∀ q,
        query (front ++ (gap ++ (word ++ (gap' ++ (listed ++ before)))) ++ c :: more') ≠
          .ok (q, []) := by
      intro more' hcomma q
      have hread := hreads (before ++ c :: more') (head?_append_cons _ _ _ _) hcomma
      have hclause := (whereClause_word hgap hword hgap'
        (hlist.stops readsItem_condition.start)).trans hread
      have hends : ∀ {rest}, EndsList isNameChar (gap ++ (word ++ rest)) :=
        hgap.endsList hword unmarked_where readsItem_name.separator
      simp only [List.append_assoc]
      exact query_ne_of_optionalWhere hfrom hends (optionalWhere_of_ok hclause) hending q
    rcases id hending with ⟨hc, ⟨hblank, -⟩ | hspaced⟩
    · by_cases hcomma : c = ','
      · subst hcomma
        exact Or.inl (unfinished_further conditionForm_r
          (.furtherCondition hfrom hgap hword hgap' hlist hblank) hblank hunextended)
      · refine Or.inr fun more' => hright ?_
        rw [skipBlanks_append hblank (stops_cons.2 hc)]
        simpa using hcomma
    · refine Or.inr fun more' => hright ?_
      obtain ⟨behind, hskip⟩ := hspaced.exists_skipBlanks (by decide) (c :: more')
      simp [hskip]
  · by_cases hnil : before = []
    · subst hnil
      rw [List.append_nil]
      exact Or.inl (unfinished_fraction hfrom hgap hword hgap' hpointed)
    · obtain ⟨-, -, -, -, tail, htail, -⟩ := hpointed
      have hstop := hending.stops_point hnil (c :: more)
      rw [htail] at hstop
      simp at hstop

/-- A text that is read as a query in part breaks where the query ends. -/
theorem exists_of_trailing {q : Query} (h : query cs = .ok (q, c :: more)) :
    ∃ before, cs = before ++ c :: more ∧ Breaks before (c :: more) := by
  rw [query_eq] at h
  obtain ⟨⟨attributes, rest₁⟩, hselect, h₁⟩ := bind_eq_ok_iff.1 h
  obtain ⟨⟨relations, rest₂⟩, hfrom, h₂⟩ := bind_eq_ok_iff.1 h₁
  obtain ⟨selected, hselected, rfl, -⟩ := exists_of_selectClause hselect
  obtain ⟨read, hread, rfl, hstop, hunextended⟩ := exists_of_fromClause hselected hfrom
  cases hwhere : whereClause rest₂ with
  | error m =>
    simp only [optionalWhere_of_error hwhere] at h₂
    have hskip : skipEnding rest₂ = c :: more := (Prod.mk.inj (Except.ok.inj h₂)).2
    obtain ⟨before, hending, rfl⟩ := exists_of_skipEnding hskip
    exact ⟨selected ++ read ++ before, by simp only [List.append_assoc],
      breaks_unfiltered hread hstop hunextended hwhere hending⟩
  | ok found =>
    obtain ⟨conditions, rest₃⟩ := found
    simp only [optionalWhere_of_ok hwhere] at h₂
    have hskip : skipEnding rest₃ = c :: more := (Prod.mk.inj (Except.ok.inj h₂)).2
    obtain ⟨gap, word, gap', tail, hgap, hword, hgap', hitems, rfl⟩ :=
      exists_items_of_whereClause hwhere
    obtain ⟨listed, hlist, rfl, hunextended', hrest⟩ := exists_of_conditions hitems
    obtain ⟨before, hending, rfl⟩ := exists_of_skipEnding hskip
    exact ⟨selected ++ read ++ (gap ++ (word ++ (gap' ++ (listed ++ before)))),
      by simp only [List.append_assoc],
      breaks_filtered hread hgap hword hgap' hlist hunextended' hrest hending⟩

/-- A text that is not read as a query breaks where the mismatch is. -/
theorem exists_of_whole_error {m : Mismatch} (h : whole cs = .error m) :
    ∃ before, cs = before ++ m.rest ∧ Breaks before m.rest := by
  rcases bind_eq_error_iff.1 h with he | ⟨⟨q, rest⟩, hq, he⟩
  · rw [query_eq] at he
    rcases bind_eq_error_iff.1 he with he₁ | ⟨⟨attributes, rest₁⟩, hselect, he₁⟩
    · exact exists_of_selectClause_error he₁
    obtain ⟨selected, hselected, rfl, hrest⟩ := exists_of_selectClause hselect
    rcases bind_eq_error_iff.1 he₁ with he₂ | ⟨⟨relations, rest₂⟩, hfrom, he₂⟩
    · exact exists_of_fromClause_error hselected hrest he₂
    · cases he₂
  · cases rest with
    | nil => cases he
    | cons c more =>
      cases he
      exact exists_of_trailing hq

/-! ### Reports -/

theorem Mismatch.syntaxError_append (m : Mismatch) (before : List Char) :
    m.syntaxError (before ++ m.rest) = .mismatch before m.wanted := by
  rw [Mismatch.syntaxError, List.length_append, Nat.add_sub_cancel, List.take_left]

/-- **Location**: a text that is not a query is reported at a place behind a beginning of a query,
and line and column tell this place from all others of the text. The character at the place goes
on with the beginning exactly if it starts a part that may come there and is not there in full. -/
theorem parse_error_located {text : String} {e : PlanError} (h : parse text = .error e) :
    ∃ before wanted rest, text.toList = before ++ rest ∧
      e = .badQuery ((SyntaxError.mismatch before wanted).report text.toList) ∧
      (∀ other, other <+: text.toList → Position.behind other = Position.behind before →
        other = before) ∧
      Begins before ∧
      ∀ c more, rest = c :: more → (Begins (before ++ [c]) ↔ Unfinished before rest) := by
  unfold parse at h
  split at h
  · cases h
  · next m hm =>
    obtain ⟨before, htext, hbreaks⟩ := exists_of_whole_error hm
    refine ⟨before, m.wanted, m.rest, htext, ?_, ?_, hbreaks.begins, hbreaks.next⟩
    · rw [htext, m.syntaxError_append] at h
      rw [htext]
      exact (Except.error.inj h).symm
    · intro other hother hbehind
      exact Position.eq_of_behind_eq hother ⟨m.rest, htext.symm⟩ hbehind

-- a clause that cannot be read is reported where it begins
example : parse "SELECT x\nFROM R\nWHERE a == 3" = .error (.badQuery
    "line 3, column 1. Unexpected trailing input:\nWHERE a == 3\n^ Here") := by
  decide +kernel

theorem parse_error_located_comma :
    parse "SELECT a,\nFROM r" = .error (.badQuery
        "line 2, column 6. Expected a keyword or token:\nFROM r\n     ^ Here") ∧
      ∃ before wanted rest, "SELECT a,\nFROM r".toList = before ++ rest ∧
        PlanError.badQuery
            "line 2, column 6. Expected a keyword or token:\nFROM r\n     ^ Here" =
          .badQuery ((SyntaxError.mismatch before wanted).report "SELECT a,\nFROM r".toList) ∧
        (∀ other, other <+: "SELECT a,\nFROM r".toList →
          Position.behind other = Position.behind before → other = before) ∧
        Begins before ∧
        ∀ c more, rest = c :: more → (Begins (before ++ [c]) ↔ Unfinished before rest) :=
  ⟨by decide +kernel, parse_error_located (by decide +kernel)⟩

/-- The character at the place can go on with the beginning: a misspelled keyword is reported
where it begins, not where it goes wrong. -/
theorem form_reported_at_f :
    ¬ ∀ (text : String) (e : PlanError), parse text = .error e →
      ∃ before wanted rest, text.toList = before ++ rest ∧
        e = .badQuery ((SyntaxError.mismatch before wanted).report text.toList) ∧
        Begins before ∧ ∀ c more, rest = c :: more → ¬ Begins (before ++ [c]) := by
  intro h
  have hparse : parse "SELECT *\nFORM R" = .error (.badQuery
      "line 2, column 1. Expected a keyword or token:\nFORM R\n^ Here") := by decide +kernel
  obtain ⟨before, wanted, rest, htext, he, -, hnot⟩ := h _ _ hparse
  -- no other place of the text is reported in these words
  have hplaces : ∀ other ∈ "SELECT *\nFORM R".toList.inits, ∀ wanted : Wanted,
      "line 2, column 1. Expected a keyword or token:\nFORM R\n^ Here" =
        (SyntaxError.mismatch other wanted).report "SELECT *\nFORM R".toList →
      other = "SELECT *\n".toList := by
    intro other hother wanted
    revert other
    cases wanted <;> decide +kernel
  have hbefore : before = "SELECT *\n".toList :=
    hplaces before (by rw [htext]; simp) wanted (PlanError.badQuery.inj he)
  subst hbefore
  obtain rfl : rest = 'F' :: "ORM R".toList := by simpa using htext.symm
  refine hnot 'F' _ rfl ⟨"ROM R".toList, ⟨none, ["R"], []⟩, ?_⟩
  decide +kernel

end RelPlan.Query
