import RelPlan.Proofs.Query.Words

/-!
# Parsing queries

Parsing accepts exactly the texts of the grammar and gives the query that they spell
(`Query.parse_eq_ok_iff`). Lists, conditions and `WHERE` clauses are treated on the way. The
readers commit themselves early: to the first form that fits, to as many name characters as there
are, to a further item wherever a comma and an item follow. What has to be seen is that a text of
the grammar never needs another choice: each choice is decided by the next character.
-/

namespace RelPlan.Query

variable {α : Type} {p : Char → Bool} {c : Char} {cs front rest : List Char}

/-! ### Lists -/

/-- The reader reads the items of lists: no item begins with a blank, and each may be followed by a
separator. -/
structure ReadsItem (item : Reader α) (form : α → List Char → Prop) (p : Char → Bool) : Prop where
  /-- The form is read, unless a character of the class follows. -/
  reads : Reads item form (Stops p)
  /-- Items do not begin with a blank. -/
  start {a : α} {cs : List Char} (rest : List Char) : form a cs → Stops isBlank (cs ++ rest)
  /-- Separators stop an item. -/
  separator : ∀ c ∈ separators, p c = false

/-- The text goes on neither with the item before it nor with a comma. -/
def EndsList (p : Char → Bool) (cs : List Char) : Prop :=
  Stops p cs ∧ Stops (· = ',') (skipBlanks cs)

theorem Spaced.stops_of_separators (h : Spaced c cs) (hp : ∀ c ∈ separators, p c = false)
    (hc : c ∈ separators) : Stops p (cs ++ rest) :=
  h.stops (fun b hb => hp b (mem_separators_of_isBlank hb)) (hp c hc)

/-- Items of a list with a comma behind each of them. -/
inductive ListFront (form : α → List Char → Prop) : List α → List Char → Prop where
  /-- No items. -/
  | nil : ListFront form [] []
  /-- An item, a comma, and more of them. -/
  | cons {a : α} {as : List α} {cs comma rest : List Char} :
      form a cs → Spaced ',' comma → ListFront form as rest →
        ListFront form (a :: as) (cs ++ (comma ++ rest))

section Lists

variable {item : Reader α} {form : α → List Char → Prop} {a : α} {as : List α} {n : Nat}
  {more comma last : List Char}

/-- A last item behind the commas makes a list. -/
theorem ListFront.listForm (h : ListFront form as front) (hlast : form a last) :
    ListForm form (as ++ [a]) (front ++ last) := by
  induction h with
  | nil => exact .one hlast
  | cons ha hcomma _ ih =>
    simp only [List.append_assoc]
    exact .more ha hcomma ih

/-- The last item of a list stands behind the others and their commas. -/
theorem ListForm.exists_front (h : ListForm form as cs) :
    ∃ front last bs a, ListFront form bs front ∧ form a last ∧ as = bs ++ [a] ∧
      cs = front ++ last := by
  induction h with
  | @one a cs ha => exact ⟨[], cs, [], a, .nil, ha, rfl, rfl⟩
  | @more a as cs comma rest ha hcomma _ ih =>
    obtain ⟨front, last, bs, b, hfront, hb, rfl, rfl⟩ := ih
    refine ⟨cs ++ (comma ++ front), last, a :: bs, b, .cons ha hcomma hfront, hb, rfl, ?_⟩
    simp only [List.append_assoc]

/-- A list begins as its first item does. -/
theorem ListForm.stops (h : ListForm form as cs)
    (hstart : ∀ {a cs} rest, form a cs → Stops p (cs ++ rest)) : Stops p (cs ++ rest) := by
  cases h with
  | one ha => exact hstart rest ha
  | more ha =>
    rw [List.append_assoc]
    exact hstart _ ha

theorem furtherItems_of_error {m : Mismatch} (h : spacedChar ',' cs = .error m) :
    furtherItems item n cs = ([], cs) := by
  cases n with
  | zero => rfl
  | succ n => rw [furtherItems, h]

theorem furtherItems_of_stops (h : Stops (· = ',') (skipBlanks cs)) :
    furtherItems item n cs = ([], cs) :=
  furtherItems_of_error (by rw [spacedChar, char_eq_error h]; rfl)

theorem furtherItems_succ (hcomma : spacedChar ',' cs = .ok ((), more))
    (ha : item more = .ok (a, rest)) :
    furtherItems item (n + 1) cs =
      (a :: (furtherItems item n rest).1, (furtherItems item n rest).2) := by
  rw [furtherItems, hcomma]
  simp only [ha]

/-- Further items are none, or items behind a comma of which the last is read at the end. -/
theorem furtherItems_cases (h : ReadsItem item form p) (n : Nat) (cs : List Char) :
    furtherItems item n cs = ([], cs) ∨
      ∃ comma front last as a rest, Spaced ',' comma ∧ ListFront form as front ∧ form a last ∧
        item (last ++ rest) = .ok (a, rest) ∧ cs = comma ++ (front ++ (last ++ rest)) ∧
        furtherItems item n cs = (as ++ [a], rest) := by
  induction n generalizing cs with
  | zero => exact Or.inl rfl
  | succ n ih =>
    cases hcomma : spacedChar ',' cs with
    | error m => exact Or.inl (furtherItems_of_error hcomma)
    | ok found =>
      obtain ⟨_, more⟩ := found
      cases ha : item more with
      | error m =>
        refine Or.inl ?_
        rw [furtherItems, hcomma]
        simp only [ha]
      | ok found =>
        obtain ⟨a, rest⟩ := found
        obtain ⟨comma, hspaced, rfl⟩ := (reads_spacedChar (by decide)).sound hcomma
        obtain ⟨cs, hcs, rfl⟩ := h.reads.sound ha
        rw [furtherItems_succ hcomma ha]
        rcases ih rest with he | ⟨comma', front, last, as, b, rest', hspaced', hfront, hb, hread,
          rfl, he⟩
        · rw [he]
          exact Or.inr ⟨comma, [], cs, [], a, rest, hspaced, .nil, hcs, ha, rfl, rfl⟩
        · rw [he]
          refine Or.inr ⟨comma, cs ++ (comma' ++ front), last, a :: as, b, rest', hspaced,
            .cons hcs hspaced' hfront, hb, hread, ?_, rfl⟩
          simp only [List.append_assoc]

theorem Spaced.length_pos (h : Spaced c cs) : 0 < cs.length := by
  obtain ⟨-, -⟩ := h
  simp only [List.length_append, List.length_cons]
  omega

/-- An item is read whatever follows the comma behind it. -/
theorem ReadsItem.read_comma (h : ReadsItem item form p) (ha : form a cs)
    (hcomma : Spaced ',' comma) (rest : List Char) :
    item (cs ++ (comma ++ rest)) = .ok (a, comma ++ rest) :=
  h.reads.complete ha (hcomma.stops_of_separators h.separator (by decide))

theorem furtherItems_comma (h : ReadsItem item form p) (hcomma : Spaced ',' comma)
    (ha : form a cs) (hread : item (cs ++ rest) = .ok (a, rest)) :
    furtherItems item (n + 1) (comma ++ (cs ++ rest)) =
      (a :: (furtherItems item n rest).1, (furtherItems item n rest).2) := by
  have hblank : isBlank ',' = false := by decide
  exact furtherItems_succ ((reads_spacedChar hblank).complete hcomma (h.start rest ha)) hread

/-- Items behind a comma are further items, if the bound allows for as many and the last of them
is read at the end. -/
theorem furtherItems_append (h : ReadsItem item form p) (hfront : ListFront form as front)
    (hlast : form a last) (hread : item (last ++ rest) = .ok (a, rest)) (hcomma : Spaced ',' comma)
    (hrest : Stops (· = ',') (skipBlanks rest)) (hn : (comma ++ (front ++ last)).length ≤ n) :
    furtherItems item n (comma ++ (front ++ (last ++ rest))) = (as ++ [a], rest) := by
  -- the induction is on the items; each comma takes a character, so the bound lasts to the end
  induction hfront generalizing comma n with
  | nil =>
    have hpos := hcomma.length_pos
    rw [List.length_append] at hn
    obtain ⟨n, rfl⟩ : ∃ k, n = k + 1 := ⟨n - 1, by omega⟩
    rw [List.nil_append, furtherItems_comma h hcomma hlast hread, furtherItems_of_stops hrest]
    rfl
  | cons hb hcomma' _ ih =>
    have hpos := hcomma.length_pos
    rw [List.length_append, List.append_assoc, List.length_append] at hn
    obtain ⟨n, rfl⟩ : ∃ k, n = k + 1 := ⟨n - 1, by omega⟩
    simp only [List.append_assoc] at hn ⊢
    rw [furtherItems_comma h hcomma hb (h.read_comma hb hcomma' _), ih hcomma' (by omega)]
    rfl

theorem items_eq_ok (ha : item cs = .ok (a, rest)) :
    items item cs = .ok (a :: (furtherItems item rest.length rest).1,
      (furtherItems item rest.length rest).2) := by
  rw [items, ha]
  rfl

/-- A list is read as items with commas behind them and a last item, which is read at the end. -/
theorem exists_of_items (h : ReadsItem item form p) (he : items item cs = .ok (as, rest)) :
    ∃ front last bs a, ListFront form bs front ∧ form a last ∧
      item (last ++ rest) = .ok (a, rest) ∧ as = bs ++ [a] ∧ cs = front ++ (last ++ rest) := by
  obtain ⟨⟨a, more⟩, ha, hmore⟩ := bind_eq_ok_iff.1 he
  obtain ⟨first, hfirst, rfl⟩ := h.reads.sound ha
  rcases furtherItems_cases h more.length more with
    hf | ⟨comma, front, last, bs, b, rest', hcomma, hfront, hb, hread, hcs, hf⟩
  · simp only [hf] at hmore
    cases hmore
    exact ⟨[], first, [], a, .nil, hfirst, ha, rfl, rfl⟩
  · simp only [hf] at hmore
    cases hmore
    refine ⟨first ++ (comma ++ front), last, a :: bs, b, .cons hfirst hcomma hfront, hb, hread,
      rfl, ?_⟩
    rw [hcs]
    simp only [List.append_assoc]

/-- A list is read, whatever follows it, if its last item is and no comma follows. -/
theorem items_append (h : ReadsItem item form p) (hfront : ListFront form as front)
    (hlast : form a last) (hread : item (last ++ rest) = .ok (a, rest))
    (hrest : Stops (· = ',') (skipBlanks rest)) :
    items item (front ++ (last ++ rest)) = .ok (as ++ [a], rest) := by
  cases hfront with
  | nil => rw [List.nil_append, items_eq_ok hread, furtherItems_of_stops hrest]; rfl
  | @cons b bs cs comma front hb hcomma hfront =>
    have hn : (comma ++ (front ++ last)).length ≤ (comma ++ (front ++ (last ++ rest))).length := by
      simp only [List.length_append]
      omega
    simp only [List.append_assoc]
    rw [items_eq_ok (h.read_comma hb hcomma _),
      furtherItems_append h hfront hlast hread hcomma hrest hn]
    rfl

theorem ReadsItem.items (h : ReadsItem item form p) :
    Reads (items item) (ListForm form) (EndsList p) where
  sound := by
    intro as cs rest he
    obtain ⟨front, last, bs, a, hfront, ha, -, rfl, rfl⟩ := exists_of_items h he
    exact ⟨front ++ last, hfront.listForm ha, by rw [List.append_assoc]⟩
  complete := by
    intro as cs rest hlist hrest
    obtain ⟨front, last, bs, a, hfront, ha, rfl, rfl⟩ := hlist.exists_front
    rw [List.append_assoc]
    exact items_append h hfront ha (h.reads.complete ha hrest.1) hrest.2

theorem readsItem_name : ReadsItem name NameForm isNameChar where
  reads := reads_name
  start _ h := h.stops fun _ hc => mem_marks_of_isBlank hc
  separator _ hc := isNameChar_of_mem_marks (List.mem_append_left _ hc)

end Lists

/-! ### Conditions -/

/-- The characters that can go on with a name or a number. -/
def isWordChar (c : Char) : Bool := isNameChar c || c = '.'

theorem isWordChar_of_isFigure (h : isFigure c) : isWordChar c := by
  simp only [isFigure, isWordChar, Bool.or_eq_true, decide_eq_true_eq] at h ⊢
  exact h.imp_left isNameChar_of_isDigit

/-- A name that does not begin with a digit is compared with as a name. -/
theorem comparison_of_name {left right : String} (hform : NameForm right front)
    (hdigit : Stops Char.isDigit (front ++ rest)) (hrest : Stops isNameChar rest) :
    comparison left (front ++ rest) = .ok (.equality left right, rest) := by
  have hquote : Stops (· = '"') (front ++ rest) := hform.stops (by simp [marks])
  have hminus : Stops (· = '-') (front ++ rest) := hform.stops (by simp [marks])
  unfold comparison
  rw [quoted_eq_error hquote, reads_name.complete hform hrest]
  cases hnumber : number (front ++ rest) with
  | error m => rfl
  | ok r => exact absurd hdigit ((exists_number_iff hminus).1 ⟨r, hnumber⟩)

theorem reads_comparison (left : String) :
    Reads (comparison left) (ComparisonForm left) (Stops isWordChar) where
  sound := by
    intro k cs rest h
    unfold comparison at h
    split at h
    · next value more hquoted =>
      cases h
      obtain ⟨front, ⟨hbody⟩, rfl⟩ := reads_quoted.sound hquoted
      exact ⟨_, .quoted hbody, rfl⟩
    · split at h
      · next value more hnumber =>
        cases h
        obtain ⟨front, ⟨rfl, hform⟩, rfl⟩ := reads_number.sound hnumber
        exact ⟨front, .number hform, rfl⟩
      · next m hnumber =>
        obtain ⟨right, front, more, hform, hmore, rfl⟩ := reads_name.of_bind_eq_ok h
        cases hmore
        -- a digit at the front would have made this a number
        have hdigit : Stops Char.isDigit (front ++ rest) := by
          by_contra hd
          obtain ⟨r, hr⟩ := (exists_number_iff (hform.stops (by simp [marks]))).2 hd
          rw [hr] at hnumber
          cases hnumber
        obtain ⟨c, cs, rfl⟩ := List.exists_cons_of_ne_nil hform.ne_nil
        exact ⟨c :: cs, .name hform (by simpa using hdigit), rfl⟩
  complete := by
    intro k front rest hfront hrest
    cases hfront with
    | quoted hbody => rw [comparison, reads_quoted.complete (.mk hbody) trivial]
    | number hform =>
      have hquote : Stops (· = '"') (front ++ rest) := hform.stops (by simp [marks]) (by simp)
      have hfigure : Stops isFigure rest := hrest.mono fun _ hc => isWordChar_of_isFigure hc
      rw [comparison, quoted_eq_error hquote, reads_number.complete ⟨rfl, hform⟩ hfigure]
    | @name right c cs hform hdigit =>
      exact comparison_of_name hform (by simpa using hdigit)
        (hrest.mono fun c hc => by simp [isWordChar, hc])

theorem ComparisonForm.stops_blank {left : String} {k : Condition}
    (h : ComparisonForm left k cs) : Stops isBlank (cs ++ rest) := by
  cases h with
  | quoted => exact stops_cons.2 (by decide)
  | number h => exact h.stops (fun _ hc => mem_marks_of_isBlank hc) (by decide)
  | name h => exact h.stops fun _ hc => mem_marks_of_isBlank hc

/-- The name and the equals sign of a condition are read before what the attribute is compared
with. -/
theorem condition_append {left : String} {equals : List Char} (hname : NameForm left front)
    (hequals : Spaced '=' equals) (hrest : Stops isBlank rest) :
    condition (front ++ (equals ++ rest)) = comparison left rest := by
  have hstop : Stops isNameChar (equals ++ rest) := hequals.stops
    (fun _ hc => isNameChar_of_mem_marks (mem_marks_of_isBlank hc))
    (isNameChar_of_mem_marks (by decide))
  have hblank : isBlank '=' = false := by decide
  have hmark : spacedChar '=' (equals ++ rest) = .ok ((), rest) :=
    (reads_spacedChar hblank).complete hequals hrest
  rw [condition, reads_name.complete hname hstop]
  show (spacedChar '=' (equals ++ rest) >>= _) = _
  rw [hmark]
  rfl

theorem reads_condition : Reads condition ConditionForm (Stops isWordChar) where
  sound := by
    intro k cs rest h
    have hblank : isBlank '=' = false := by decide
    obtain ⟨left, name, rest₁, hname, h₁, rfl⟩ := reads_name.of_bind_eq_ok h
    obtain ⟨_, equals, rest₂, hequals, h₂, rfl⟩ := (reads_spacedChar hblank).of_bind_eq_ok h₁
    obtain ⟨right, hright, rfl⟩ := (reads_comparison left).sound h₂
    refine ⟨_, .mk hname hequals hright, ?_⟩
    simp only [List.append_assoc]
  complete := by
    rintro k _ rest ⟨hname, hequals, hright⟩ hrest
    simp only [List.append_assoc]
    rw [condition_append hname hequals hright.stops_blank]
    exact (reads_comparison _).complete hright hrest

theorem readsItem_condition : ReadsItem condition ConditionForm isWordChar where
  reads := reads_condition
  start := by
    rintro k _ rest ⟨hname, -, -⟩
    rw [List.append_assoc]
    exact hname.stops fun c hc => mem_marks_of_isBlank hc
  separator := by
    intro c hc
    rw [isWordChar, isNameChar_of_mem_marks (List.mem_append_left _ hc), Bool.false_or,
      decide_eq_false_iff_not]
    rintro rfl
    simp [separators] at hc

/-! ### The end of a query -/

/-- What stands behind the blanks of an ending is a semicolon or nothing. -/
theorem EndingForm.skipBlanks_cases (h : EndingForm cs) :
    skipBlanks cs = [] ∨ ∃ behind, Blanks behind ∧ skipBlanks cs = ';' :: behind := by
  cases h with
  | blank h =>
    left
    simpa using skipBlanks_append h stops_nil
  | semicolon h =>
    right
    obtain ⟨hbefore, hbehind⟩ := h
    exact ⟨_, hbehind, skipBlanks_append hbefore (stops_cons.2 (by decide))⟩

/-- Nothing is left of a text exactly if it is an ending. -/
theorem skipEnding_eq_nil_iff : skipEnding cs = [] ↔ EndingForm cs := by
  constructor
  · intro h
    obtain ⟨before, hbefore, hcs⟩ := exists_skipBlanks cs
    rw [hcs]
    unfold skipEnding at h
    split at h
    · next more hmore =>
      obtain ⟨behind, hbehind, hmore'⟩ := exists_skipBlanks more
      rw [h, List.append_nil] at hmore'
      rw [hmore, hmore']
      exact .semicolon (.mk hbefore hbehind)
    · rw [h, List.append_nil]
      exact .blank hbefore
  · intro h
    unfold skipEnding
    rcases h.skipBlanks_cases with he | ⟨behind, hbehind, he⟩
    · rw [he]
    · rw [he]
      simpa using skipBlanks_append hbehind stops_nil

theorem EndingForm.endsList (h : EndingForm cs) (hp : ∀ c ∈ separators, p c = false) :
    EndsList p cs := by
  constructor
  · cases h with
    | blank h =>
      simpa using h.stops (fun c hc => hp c (mem_separators_of_isBlank hc)) stops_nil
    | semicolon h =>
      rw [← List.append_nil cs]
      exact h.stops_of_separators hp (by decide)
  · rcases h.skipBlanks_cases with he | ⟨behind, -, he⟩
    · simp [he]
    · simp [he]

/-- A list ends where blanks and a keyword follow. -/
theorem Gap.endsList {word : String} {gap w : List Char} (hgap : Gap gap) (h : Keyword word w)
    (hword : Unmarked word) (hp : ∀ c ∈ separators, p c = false) :
    EndsList p (gap ++ (w ++ rest)) := by
  constructor
  · exact hgap.stops fun c hc => hp c (mem_separators_of_isBlank hc)
  · rw [skipBlanks_append hgap.blanks (h.stops hword fun _ => mem_marks_of_isBlank)]
    exact h.stops hword (by simp [marks, separators])

theorem blanks_eq_ok (h : blanks cs = .ok ((), rest)) : rest = skipBlanks cs := by
  cases cs with
  | nil => cases h
  | cons c cs =>
    rw [blanks] at h
    split at h
    · next hc =>
      cases h
      exact (List.dropWhile_cons_of_pos hc).symm
    · cases h

/-- A `WHERE` clause has the word behind blanks. -/
theorem whereClause_of_stops (h : Stops (fun c => c.toLower = 'w') (skipBlanks cs)) :
    ∃ m, whereClause cs = .error m := by
  cases hblank : blanks cs with
  | error m =>
    refine ⟨m, ?_⟩
    rw [whereClause, hblank]
    rfl
  | ok found =>
    obtain ⟨_, more⟩ := found
    obtain rfl := blanks_eq_ok hblank
    refine ⟨⟨.keyword, skipBlanks cs⟩, ?_⟩
    rw [whereClause, hblank]
    show (keyword "where" (skipBlanks cs) >>= _) = _
    rw [keyword_eq_error rfl h]
    rfl

/-- An ending is not a `WHERE` clause. -/
theorem whereClause_ending (h : EndingForm cs) : ∃ m, whereClause cs = .error m := by
  refine whereClause_of_stops ?_
  rcases h.skipBlanks_cases with he | ⟨behind, -, he⟩
  · simp [he]
  · simp [he]

/-! ### The parts of a query -/

theorem reads_attributeList : Reads attributeList AttributesForm (EndsList isNameChar) where
  sound := by
    intro attributes cs rest h
    unfold attributeList at h
    split at h
    · next more hstar =>
      cases h
      exact ⟨['*'], .all, char_eq_ok_iff.1 hstar⟩
    · obtain ⟨names, front, more, hlist, hmore, rfl⟩ := readsItem_name.items.of_bind_eq_ok h
      cases hmore
      exact ⟨front, .listed hlist, rfl⟩
  complete := by
    intro attributes front rest hfront hrest
    unfold attributeList
    cases hfront with
    | all => rfl
    | listed hlist =>
      have hstar : Stops (· = '*') (front ++ rest) :=
        hlist.stops fun _ h => h.stops (by simp [marks])
      rw [char_eq_error hstar, readsItem_name.items.complete hlist hrest]
      rfl

theorem AttributesForm.stops_blank {attributes : Option (List String)}
    (h : AttributesForm attributes cs) : Stops isBlank (cs ++ rest) := by
  cases h with
  | all => exact stops_cons.2 (by decide)
  | listed h => exact h.stops readsItem_name.start

/-- A `WHERE` clause that is read is the word and a list of conditions that is read. -/
theorem exists_items_of_whereClause {conditions : List Condition}
    (h : whereClause cs = .ok (conditions, rest)) :
    ∃ gap word gap' more, Gap gap ∧ Keyword "where" word ∧ Gap gap' ∧
      items condition more = .ok (conditions, rest) ∧ cs = gap ++ (word ++ (gap' ++ more)) := by
  obtain ⟨_, gap, rest₁, hgap, h₁, rfl⟩ := reads_blanks.of_bind_eq_ok h
  obtain ⟨_, word, rest₂, hword, h₂, rfl⟩ := (reads_keyword "where").of_bind_eq_ok h₁
  obtain ⟨_, gap', rest₃, hgap', h₃, rfl⟩ := reads_blanks.of_bind_eq_ok h₂
  exact ⟨gap, word, gap', rest₃, hgap, hword, hgap', h₃, rfl⟩

theorem exists_of_whereClause {conditions : List Condition}
    (h : whereClause cs = .ok (conditions, rest)) :
    ∃ front, WhereForm conditions front ∧ cs = front ++ rest := by
  obtain ⟨gap, word, gap', more, hgap, hword, hgap', hitems, rfl⟩ := exists_items_of_whereClause h
  obtain ⟨front, hlist, rfl⟩ := readsItem_condition.items.sound hitems
  refine ⟨_, .present hgap hword hgap' hlist, ?_⟩
  simp only [List.append_assoc]

theorem exists_of_optionalWhere {conditions : List Condition}
    (h : optionalWhere cs = (conditions, rest)) :
    ∃ front, WhereForm conditions front ∧ cs = front ++ rest := by
  unfold optionalWhere at h
  split at h
  · next found hfound =>
    rw [h] at hfound
    exact exists_of_whereClause hfound
  · cases h
    exact ⟨[], .absent, rfl⟩

/-- Behind the word, a `WHERE` clause is a list of conditions. -/
theorem whereClause_word {gap word gap' : List Char} (hgap : Gap gap)
    (hword : Keyword "where" word) (hgap' : Gap gap') (hrest : Stops isBlank rest) :
    whereClause (gap ++ (word ++ (gap' ++ rest))) = items condition rest := by
  have hstop : Stops isBlank (word ++ (gap' ++ rest)) :=
    hword.stops unmarked_where fun _ => mem_marks_of_isBlank
  rw [whereClause, reads_blanks.complete (a := ()) hgap hstop]
  show (keyword "where" (word ++ (gap' ++ rest)) >>= _) = _
  rw [(reads_keyword "where").complete (a := ()) hword trivial]
  show (blanks (gap' ++ rest) >>= _) = _
  rw [reads_blanks.complete (a := ()) hgap' hrest]
  rfl

/-- Conditions are found wherever an ending follows. -/
theorem optionalWhere_append {conditions : List Condition} (h : WhereForm conditions front)
    (hrest : EndingForm rest) : optionalWhere (front ++ rest) = (conditions, rest) := by
  unfold optionalWhere
  cases h with
  | absent =>
    obtain ⟨m, hm⟩ := whereClause_ending hrest
    rw [List.nil_append, hm]
  | @present _ gap word gap' cs hgap hword hgap' hlist =>
    have hends : EndsList isWordChar rest := hrest.endsList readsItem_condition.separator
    simp only [List.append_assoc]
    rw [whereClause_word hgap hword hgap' (hlist.stops readsItem_condition.start),
      readsItem_condition.items.complete hlist hends]

theorem WhereForm.endsList {conditions : List Condition} (h : WhereForm conditions front)
    (hrest : EndingForm rest) (hp : ∀ c ∈ separators, p c = false) :
    EndsList p (front ++ rest) := by
  cases h with
  | absent => exact hrest.endsList hp
  | present hgap hword hgap' hlist =>
    simp only [List.append_assoc]
    exact hgap.endsList hword unmarked_where hp

/-! ### Queries -/

/-- What is read as a query, up to the end of the text, spells it. -/
theorem spells_of_query {q : Query} (h : query cs = .ok (q, [])) : Spells q cs := by
  obtain ⟨before, hbefore, hcs⟩ := exists_skipBlanks cs
  obtain ⟨_, select, rest₁, hselect, h₁, hrest⟩ := (reads_keyword "select").of_bind_eq_ok h
  obtain ⟨_, gap, rest₂, hgap, h₂, rfl⟩ := reads_blanks.of_bind_eq_ok h₁
  obtain ⟨attributes, listed, rest₃, hlisted, h₃, rfl⟩ := reads_attributeList.of_bind_eq_ok h₂
  obtain ⟨_, gap', rest₄, hgap', h₄, rfl⟩ := reads_blanks.of_bind_eq_ok h₃
  obtain ⟨_, from', rest₅, hfrom, h₅, rfl⟩ := (reads_keyword "from").of_bind_eq_ok h₄
  obtain ⟨_, gap'', rest₆, hgap'', h₆, rfl⟩ := reads_blanks.of_bind_eq_ok h₅
  obtain ⟨relations, read, rest₇, hread, h₇, rfl⟩ := readsItem_name.items.of_bind_eq_ok h₆
  cases hwhere : optionalWhere rest₇ with
  | mk conditions ending =>
    obtain ⟨filtered, hfiltered, rfl⟩ := exists_of_optionalWhere hwhere
    simp only [hwhere] at h₇
    obtain ⟨rfl, hending⟩ := Prod.mk.inj (Except.ok.inj h₇)
    rw [hcs, hrest]
    exact .mk hbefore hselect hgap hlisted hgap' hfrom hgap'' hread hfiltered
      (skipEnding_eq_nil_iff.1 hending)

/-- What spells a query is read as the query, up to the end of the text. -/
theorem query_of_spells {q : Query} (h : Spells q cs) : query cs = .ok (q, []) := by
  obtain ⟨hbefore, hselect, hgap, hlisted, hgap', hfrom, hgap'', hread, hfiltered, hending⟩ := h
  have hname := readsItem_name.separator
  rw [query, skipBlanks_append hbefore
    (hselect.stops unmarked_select fun _ => mem_marks_of_isBlank)]
  refine (reads_keyword "select").bind_eq_ok (a := ()) hselect trivial ?_
  refine reads_blanks.bind_eq_ok (a := ()) hgap hlisted.stops_blank ?_
  refine reads_attributeList.bind_eq_ok hlisted (hgap'.endsList hfrom unmarked_from hname) ?_
  refine reads_blanks.bind_eq_ok (a := ()) hgap'
    (hfrom.stops unmarked_from fun _ => mem_marks_of_isBlank) ?_
  refine (reads_keyword "from").bind_eq_ok (a := ()) hfrom trivial ?_
  refine reads_blanks.bind_eq_ok (a := ()) hgap'' (hread.stops readsItem_name.start) ?_
  refine readsItem_name.items.bind_eq_ok hread (hfiltered.endsList hending hname) ?_
  simp only [optionalWhere_append hfiltered hending, skipEnding_eq_nil_iff.2 hending]
  rfl

/-- A text spells one query at most. -/
theorem Spells.unique {q r : Query} (hq : Spells q cs) (hr : Spells r cs) : q = r := by
  have h := (query_of_spells hq).symm.trans (query_of_spells hr)
  cases h
  rfl

theorem whole_eq_ok_iff {q : Query} : whole cs = .ok q ↔ query cs = .ok (q, []) := by
  rw [whole, bind_eq_ok_iff]
  constructor
  · rintro ⟨⟨r, rest⟩, hr, h⟩
    cases rest with
    | nil =>
      cases h
      exact hr
    | cons c rest => cases h
  · intro h
    exact ⟨(q, []), h, rfl⟩

/-- **Grammar**: a text is read as a query exactly if it spells the query. -/
theorem parse_eq_ok_iff {text : String} {q : Query} :
    parse text = .ok q ↔ Spells q text.toList := by
  have hwhole : parse text = .ok q ↔ whole text.toList = .ok q := by
    unfold parse
    cases whole text.toList <;> simp
  rw [hwhole, whole_eq_ok_iff]
  exact ⟨spells_of_query, query_of_spells⟩

-- words that spell keywords are names where names are wanted
example : parse "Select from From where Where select=from ;" =
    .ok ⟨some ["from"], ["where"], [.equality "select" "from"]⟩ := by
  decide +kernel

end RelPlan.Query
