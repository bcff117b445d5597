import RelPlan.Proofs.Query.Parsing

/-!
# Beginnings of queries

A text begins a query if it can be continued to one (`Query.Begins`). Behind some beginnings the
grammar lets a part come that takes several characters: a keyword, a further item of a list, the
`WHERE` clause, the fraction of a number (`Query.Awaits`). Any such part, if it is there in full,
gives a longer beginning (`Query.Awaits.begins_append`). A part may also be started and not carried
through (`Query.Unfinished`); the character that starts it still goes on with the beginning
(`Query.Unfinished.begins`), although no part can be read there.
-/

namespace RelPlan.Query

variable {α : Type} {cs front rest : List Char}

/-- The text can be continued to one that is read as a query. -/
def Begins (cs : List Char) : Prop := ∃ rest q, parse (String.ofList (cs ++ rest)) = .ok q

theorem begins_iff_query : Begins cs ↔ ∃ rest q, query (cs ++ rest) = .ok (q, []) := by
  refine exists_congr fun rest => exists_congr fun q => ?_
  rw [← whole_eq_ok_iff, parse, String.toList_ofList]
  cases whole (cs ++ rest) <;> simp

theorem Spells.begins {q : Query} (h : Spells q (cs ++ rest)) : Begins cs :=
  begins_iff_query.2 ⟨rest, q, query_of_spells h⟩

/-- What a beginning begins with is a beginning. -/
theorem Begins.of_append (h : Begins (cs ++ rest)) : Begins cs := by
  obtain ⟨more, q, h⟩ := h
  rw [List.append_assoc] at h
  exact ⟨rest ++ more, q, h⟩

/-! ### Lists -/

/-- A comma and a further item of a list, without the blanks in front. -/
inductive Further (item : α → List Char → Prop) : List Char → Prop where
  /-- A comma, blanks, and an item. -/
  | mk {a : α} {behind cs : List Char} :
      Blanks behind → item a cs → Further item (',' :: (behind ++ cs))

section Lists

variable {item : α → List Char → Prop} {a : α} {as : List α} {last before : List Char}

/-- A list goes on with a further item. -/
theorem ListForm.append (h : ListForm item as cs) (hbefore : Blanks before)
    (hfurther : Further item front) : ∃ bs, ListForm item bs (cs ++ (before ++ front)) := by
  obtain @⟨b, behind, m, hbehind, hb⟩ := hfurther
  induction h with
  | @one a cs ha =>
    have hlist := ListForm.more ha (Spaced.mk hbefore hbehind) (.one hb)
    rw [List.append_assoc] at hlist
    exact ⟨[a, b], hlist⟩
  | @more a as cs comma rest ha hcomma _ ih =>
    obtain ⟨bs, hbs⟩ := ih
    simp only [List.append_assoc]
    exact ⟨a :: bs, .more ha hcomma hbs⟩

end Lists

/-! ### Numbers -/

/-- A number without a fraction. -/
inductive WholeForm : List Char → Prop where
  /-- Without a sign. -/
  | positive {ds : List Char} : DigitsForm ds → WholeForm ds
  /-- With a minus sign. -/
  | negative {ds : List Char} : DigitsForm ds → WholeForm ('-' :: ds)

/-- A point and digits. -/
inductive Fraction : List Char → Prop where
  /-- The point in front of the digits. -/
  | mk {ds : List Char} : DigitsForm ds → Fraction ('.' :: ds)

theorem WholeForm.append (h : WholeForm cs) (hfraction : Fraction front) :
    NumberForm (cs ++ front) := by
  obtain ⟨hes⟩ := hfraction
  cases h with
  | positive hds => exact .positive (.decimal hds hes)
  | negative hds => exact .negative (.decimal hds hes)

/-! ### Clauses -/

/-- The beginning of a query up to the attributes. -/
inductive SelectForm (attributes : Option (List String)) : List Char → Prop where
  /-- Blanks, `SELECT`, and attributes. -/
  | mk {before select gap listed : List Char} :
      Blanks before → Keyword "select" select → Gap gap → AttributesForm attributes listed →
        SelectForm attributes (before ++ (select ++ (gap ++ listed)))

/-- The beginning of a query up to the relations. -/
inductive FromForm (attributes : Option (List String)) (relations : List String) :
    List Char → Prop where
  /-- The attributes, `FROM`, and relations. -/
  | mk {selected gap from' gap' read : List Char} :
      SelectForm attributes selected → Gap gap → Keyword "from" from' → Gap gap' →
        ListForm NameForm relations read →
        FromForm attributes relations (selected ++ (gap ++ (from' ++ (gap' ++ read))))

/-- The `WHERE` clause up to its first condition, without the blanks in front. -/
inductive FilterForm : List Char → Prop where
  /-- `WHERE`, and a condition. -/
  | mk {condition : Condition} {word gap cs : List Char} :
      Keyword "where" word → Gap gap → ConditionForm condition cs →
        FilterForm (word ++ (gap ++ cs))

section Clauses

variable {attributes : Option (List String)} {relations : List String}
  {conditions : List Condition} {gap from' gap' ending : List Char}

-- short words with which a beginning is continued to a query

theorem gap_blank : Gap [' '] := ⟨by simp, by simp [Blanks, isBlank]⟩

theorem nameForm_r : NameForm "r" ['r'] := .mk (by simp) (by simp [isNameChar, isAlphanumeric])

theorem keyword_from : Keyword "from" ['f', 'r', 'o', 'm'] := rfl

/-- Relations may be followed by conditions and have to be followed by an ending only. -/
theorem FromForm.spells (h : FromForm attributes relations cs) (hfront : WhereForm conditions front)
    (hending : EndingForm ending) :
    Spells ⟨attributes, relations, conditions⟩ (cs ++ (front ++ ending)) := by
  obtain ⟨⟨hbefore, hselect, hgap, hlisted⟩, hgap', hfrom, hgap'', hread⟩ := h
  simp only [List.append_assoc]
  exact .mk hbefore hselect hgap hlisted hgap' hfrom hgap'' hread hfront hending

theorem FromForm.begins_ending (h : FromForm attributes relations cs)
    (hfront : WhereForm conditions front) (hending : EndingForm ending) :
    Begins (cs ++ (front ++ ending)) := by
  have hspells := h.spells hfront hending
  rw [← List.append_nil (cs ++ (front ++ ending))] at hspells
  exact hspells.begins

theorem FromForm.begins_where (h : FromForm attributes relations cs)
    (hfront : WhereForm conditions front) : Begins (cs ++ front) := by
  have hbegins := h.begins_ending hfront (.blank blanks_nil)
  rwa [List.append_nil] at hbegins

theorem FromForm.begins (h : FromForm attributes relations cs) : Begins cs := by
  simpa using h.begins_where .absent

theorem SelectForm.begins_from (h : SelectForm attributes cs) (hgap : Gap gap)
    (hfrom : Keyword "from" from') (hgap' : Gap gap') :
    Begins (cs ++ (gap ++ (from' ++ gap'))) := by
  have hform : FromForm attributes ["r"] (cs ++ (gap ++ (from' ++ (gap' ++ ['r'])))) :=
    .mk h hgap hfrom hgap' (.one nameForm_r)
  have hbegins := hform.begins
  simp only [← List.append_assoc] at hbegins ⊢
  exact hbegins.of_append

theorem SelectForm.begins_gap (h : SelectForm attributes cs) (hgap : Gap gap) :
    Begins (cs ++ gap) := by
  have hbegins := h.begins_from hgap keyword_from gap_blank
  rw [← List.append_assoc] at hbegins
  exact hbegins.of_append

theorem SelectForm.begins (h : SelectForm attributes cs) : Begins cs :=
  (h.begins_gap gap_blank).of_append

theorem begins_select {before select : List Char} (hbefore : Blanks before)
    (hselect : Keyword "select" select) (hgap : Gap gap) : Begins (before ++ (select ++ gap)) := by
  have hform : SelectForm none (before ++ (select ++ (gap ++ ['*']))) :=
    .mk hbefore hselect hgap .all
  have hbegins := hform.begins
  simp only [← List.append_assoc] at hbegins ⊢
  exact hbegins.of_append

end Clauses

/-! ### Parts that may come -/

/-- Behind the given beginning of a query a part of the given form may come. -/
inductive Awaits : (List Char → Prop) → List Char → Prop where
  /-- The word `SELECT`, behind blanks. -/
  | selectWord {before : List Char} : Blanks before → Awaits (Keyword "select") before
  /-- The word `FROM`, behind the attributes. -/
  | fromWord {attributes : Option (List String)} {cs gap : List Char} :
      SelectForm attributes cs → Gap gap → Awaits (Keyword "from") (cs ++ gap)
  /-- The `WHERE` clause, behind the relations. -/
  | filter {attributes : Option (List String)} {relations : List String} {cs gap : List Char} :
      FromForm attributes relations cs → Gap gap → Awaits FilterForm (cs ++ gap)
  /-- A further attribute, behind those that are listed. -/
  | furtherAttribute {names : List String} {cs before : List Char} :
      SelectForm (some names) cs → Blanks before → Awaits (Further NameForm) (cs ++ before)
  /-- A further relation. -/
  | furtherRelation {attributes : Option (List String)} {relations : List String}
      {cs before : List Char} :
      FromForm attributes relations cs → Blanks before → Awaits (Further NameForm) (cs ++ before)
  /-- A further condition, behind at least one. -/
  | furtherCondition {attributes : Option (List String)} {relations : List String}
      {conditions : List Condition} {cs gap word gap' listed before : List Char} :
      FromForm attributes relations cs → Gap gap → Keyword "where" word → Gap gap' →
        ListForm ConditionForm conditions listed → Blanks before →
        Awaits (Further ConditionForm) (cs ++ (gap ++ (word ++ (gap' ++ (listed ++ before)))))
  /-- The fraction of a number, behind the number's digits. -/
  | fraction {attributes : Option (List String)} {relations : List String}
      {conditions : List Condition} {left : String}
      {cs gap word gap' front name equals whole : List Char} :
      FromForm attributes relations cs → Gap gap → Keyword "where" word → Gap gap' →
        ListFront ConditionForm conditions front → NameForm left name → Spaced '=' equals →
        WholeForm whole →
        Awaits Fraction
          (cs ++ (gap ++ (word ++ (gap' ++ (front ++ (name ++ (equals ++ whole)))))))

variable {part : List Char → Prop} {before : List Char}

/-- The part that may come makes a longer beginning. -/
theorem Awaits.begins_append (h : Awaits part before) (hfront : part front) :
    Begins (before ++ front) := by
  cases h with
  | selectWord hbefore =>
    have hbegins := begins_select hbefore hfront gap_blank
    rw [← List.append_assoc] at hbegins
    exact hbegins.of_append
  | fromWord hselect hgap =>
    have hbegins := hselect.begins_from hgap hfront gap_blank
    rw [List.append_assoc]
    rw [← List.append_assoc, ← List.append_assoc, List.append_assoc _ _ front] at hbegins
    exact hbegins.of_append
  | filter hfrom hgap =>
    obtain ⟨hword, hgap', hcondition⟩ := hfront
    rw [List.append_assoc]
    exact hfrom.begins_where (.present hgap hword hgap' (.one hcondition))
  | furtherAttribute hselect hbefore =>
    obtain ⟨hstart, hword, hgap, hlisted⟩ := hselect
    cases hlisted with
    | listed hlist =>
      obtain ⟨names, hnames⟩ := hlist.append hbefore hfront
      have hform := SelectForm.mk hstart hword hgap (.listed hnames)
      simp only [List.append_assoc]
      exact hform.begins
  | furtherRelation hfrom hbefore =>
    obtain ⟨hselect, hgap, hword, hgap', hlist⟩ := hfrom
    obtain ⟨names, hnames⟩ := hlist.append hbefore hfront
    simp only [List.append_assoc]
    exact (FromForm.mk hselect hgap hword hgap' hnames).begins
  | furtherCondition hfrom hgap hword hgap' hlist hbefore =>
    obtain ⟨conditions, hconditions⟩ := hlist.append hbefore hfront
    simp only [List.append_assoc]
    exact hfrom.begins_where (.present hgap hword hgap' hconditions)
  | fraction hfrom hgap hword hgap' hlist hname hequals hwhole =>
    have hcondition := ConditionForm.mk hname hequals (.number (hwhole.append hfront))
    simp only [List.append_assoc]
    exact hfrom.begins_where (.present hgap hword hgap' (hlist.listForm hcondition))

/-- A part that may come is started by the next character, but it is not there in full. -/
def Unfinished (before rest : List Char) : Prop :=
  ∃ part, Awaits part before ∧ (∃ c more tail, rest = c :: tail ∧ part (c :: more)) ∧
    ∀ front, part front → ¬ front <+: rest

/-- The character that starts an unfinished part goes on with the beginning. -/
theorem Unfinished.begins {c : Char} (h : Unfinished before (c :: rest)) :
    Begins (before ++ [c]) := by
  obtain ⟨part, hawaits, ⟨d, more, tail, hd, hpart⟩, -⟩ := h
  obtain ⟨rfl, -⟩ := List.cons.inj hd
  have hbegins := hawaits.begins_append hpart
  rw [← List.singleton_append, ← List.append_assoc] at hbegins
  exact hbegins.of_append

end RelPlan.Query
