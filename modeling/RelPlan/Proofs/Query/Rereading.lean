import RelPlan.Proofs.Query.Beginnings

/-!
# Reading again

What a reader takes from a text is decided by the first character that it leaves, so it takes the
same from every text that goes on with this character (`Query.Rereads`). A point behind the digits
of a number is the exception: the character behind the point decides whether the point is taken.
The exception is met only where no digit stands behind the point (`Query.Pointed`). A list is left
where no comma with a further item follows (`Query.Unextended`).
-/

namespace RelPlan.Query

variable {α : Type} {p : Char → Bool} {c : Char} {cs front rest : List Char}

/-- The text in front is taken, and `a` returned, if the text behind it begins as `rest` does. -/
def Rereads (reader : Reader α) (a : α) (front rest : List Char) : Prop :=
  ∀ more : List Char, more.head? = rest.head? → reader (front ++ more) = .ok (a, more)

/-- A whole number, and a point that no digit follows. -/
def Pointed (whole rest : List Char) : Prop :=
  WholeForm whole ∧ ∃ more, rest = '.' :: more ∧ Stops Char.isDigit more

/-- The point does not begin a fraction. -/
theorem Pointed.not_fraction (h : Pointed cs rest) (hfront : Fraction front) :
    ¬ front <+: rest := by
  obtain ⟨-, more, rfl, hstop⟩ := h
  obtain ⟨hne, hall⟩ := hfront
  rintro ⟨tail, htail⟩
  obtain ⟨d, ds, rfl⟩ := List.exists_cons_of_ne_nil hne
  obtain rfl : d :: (ds ++ tail) = more := by simpa using htail
  simp [hall d List.mem_cons_self] at hstop

/-! ### Mismatches -/

theorem blanks_eq_error_iff {m : Mismatch} :
    blanks cs = .error m ↔ m = ⟨.blank, cs⟩ ∧ Stops isBlank cs := by
  cases cs with
  | nil => simp [blanks, eq_comm]
  | cons c cs =>
    rw [blanks, stops_cons]
    split
    · next hc => simp [hc]
    · next hc => simp [hc, eq_comm]

theorem name_eq_error_iff {m : Mismatch} :
    name cs = .error m ↔ m = ⟨.name, cs⟩ ∧ Stops isNameChar cs := by
  unfold name
  split
  · next he => simp [stops_of_takeWhile_eq_nil he, eq_comm]
  · next hne =>
    have hnot : ¬ Stops isNameChar cs := fun hstop => hne (takeWhile_of_stops hstop)
    simp [hnot]

theorem items_eq_error_iff {α : Type} {item : Reader α} {m : Mismatch} :
    items item cs = .error m ↔ item cs = .error m := by
  unfold items
  cases item cs <;> simp [bind, Except.bind, pure, Except.pure]

theorem attributeList_eq_error_iff {m : Mismatch} :
    attributeList cs = .error m ↔
      m = ⟨.name, cs⟩ ∧ Stops (· = '*') cs ∧ Stops isNameChar cs := by
  unfold attributeList
  split
  · next more hstar =>
    obtain rfl := char_eq_ok_iff.1 hstar
    simp
  · next m' hstar =>
    have hstop : Stops (· = '*') cs := by
      intro c hc
      obtain ⟨more, rfl⟩ := List.head?_eq_some_iff.1 hc
      by_contra h
      obtain rfl : c = '*' := by simpa using h
      simp [char] at hstar
    rw [bind_eq_error_iff, items_eq_error_iff, name_eq_error_iff]
    simp [hstop, pure, Except.pure]

/-- A keyword that is not read is not there. -/
theorem keyword_eq_error_iff {word : String} {m : Mismatch} :
    keyword word cs = .error m ↔
      m = ⟨.keyword, cs⟩ ∧ ∀ front, Keyword word front → ¬ front <+: cs := by
  constructor
  · intro h
    unfold keyword at h
    split at h
    · cases h
    · next hnone =>
      cases h
      refine ⟨rfl, ?_⟩
      rintro front hfront ⟨tail, rfl⟩
      rw [← hfront, dropKeyword?_append] at hnone
      cases hnone
  · rintro ⟨rfl, hnot⟩
    unfold keyword
    split
    · next rest hsome =>
      obtain ⟨front, hfront, rfl⟩ := exists_of_dropKeyword? hsome
      exact absurd (List.prefix_append front rest) (hnot front hfront)
    · rfl

/-! ### Words -/

theorem stops_of_name {n : String} (h : name cs = .ok (n, rest)) : Stops isNameChar rest := by
  unfold name at h
  split at h
  · cases h
  · cases h
    exact stops_dropWhile isNameChar cs

theorem stops_of_digits {ds : List Char} (h : digits cs = .ok (ds, rest)) :
    Stops Char.isDigit rest := by
  unfold digits at h
  split at h
  · cases h
  · cases h
    exact stops_dropWhile Char.isDigit cs

theorem exists_digits (h : ¬ Stops Char.isDigit cs) : ∃ r, digits cs = .ok r := by
  unfold digits
  split
  · next he => exact absurd (stops_of_takeWhile_eq_nil he) h
  · exact ⟨_, rfl⟩

/-- A fraction is missing where there is no point, or no digit behind the point. -/
theorem fraction_eq_nil (h : fraction cs = ([], rest)) :
    Stops (· = '.') cs ∨ ∃ more, cs = '.' :: more ∧ Stops Char.isDigit more := by
  by_cases hpoint : Stops (· = '.') cs
  · exact Or.inl hpoint
  · cases cs with
    | nil => simp at hpoint
    | cons c more =>
      obtain rfl : c = '.' := by simpa using hpoint
      refine Or.inr ⟨more, rfl, ?_⟩
      by_contra hdigit
      obtain ⟨⟨ds, tail⟩, hr⟩ := exists_digits hdigit
      rw [fraction, hr] at h
      cases h

theorem stops_of_fraction {es : List Char} (h : fraction cs = ('.' :: es, rest)) :
    Stops Char.isDigit rest := by
  unfold fraction at h
  split at h
  · split at h
    · next hdigits =>
      cases h
      exact stops_of_digits hdigits
    · cases h
  · cases h

theorem exists_of_unsigned {n : List Char} (h : unsigned cs = .ok (n, rest)) :
    UnsignedForm n ∧ cs = n ++ rest ∧
      (Rereads unsigned n n rest ∨
        DigitsForm n ∧ ∃ more, rest = '.' :: more ∧ Stops Char.isDigit more) := by
  obtain ⟨⟨ds, more⟩, hdigits, hmore⟩ := bind_eq_ok_iff.1 h
  obtain ⟨_, ⟨rfl, hds⟩, rfl⟩ := reads_digits.sound hdigits
  rcases fraction_cases more with hf | ⟨es, tail, hes, rfl, hf⟩
  · simp only [hf, List.append_nil] at hmore
    cases hmore
    refine ⟨.whole hds, rfl, (fraction_eq_nil hf).imp (fun hpoint => ?_) fun hpointed => ?_⟩
    · intro more hmore
      have hfigure : Stops isFigure more := by
        intro c hc
        have hdigit : c.isDigit = false := (stops_of_digits hdigits).of_head?_eq hmore c hc
        have hnot : c ≠ '.' := by simpa using hpoint.of_head?_eq hmore c hc
        simp [isFigure, hdigit, hnot]
      exact reads_unsigned.complete ⟨rfl, .whole hds⟩ hfigure
    · exact ⟨hds, hpointed⟩
  · simp only [hf] at hmore
    cases hmore
    refine ⟨.decimal hds hes, by simp, Or.inl fun more hmore => ?_⟩
    exact unsigned_decimal hds hes ((stops_of_fraction hf).of_head?_eq hmore)

theorem exists_of_number {n : String} (h : number cs = .ok (n, rest)) :
    ∃ front, n = String.ofList front ∧ NumberForm front ∧ cs = front ++ rest ∧
      (Rereads number n front rest ∨ Pointed front rest) := by
  by_cases hminus : Stops (· = '-') cs
  · rw [number_of_stops hminus] at h
    obtain ⟨⟨m, tail⟩, hunsigned, htail⟩ := bind_eq_ok_iff.1 h
    cases htail
    obtain ⟨hform, rfl, hrest⟩ := exists_of_unsigned hunsigned
    refine ⟨m, rfl, .positive hform, rfl,
      hrest.imp (fun hreads more hmore => ?_) fun hpointed => ?_⟩
    · rw [number_of_stops (hform.stops (by simp [marks])), hreads more hmore]
      rfl
    · exact ⟨.positive hpointed.1, hpointed.2⟩
  · cases cs with
    | nil => simp at hminus
    | cons c cs =>
      obtain rfl : c = '-' := by simpa using hminus
      obtain ⟨⟨m, tail⟩, hunsigned, htail⟩ := bind_eq_ok_iff.1 h
      cases htail
      obtain ⟨hform, rfl, hrest⟩ := exists_of_unsigned hunsigned
      refine ⟨'-' :: m, rfl, .negative hform, rfl,
        hrest.imp (fun hreads more hmore => ?_) fun hpointed => ?_⟩
      · rw [List.cons_append, number, hreads more hmore]
        rfl
      · exact ⟨.negative hpointed.1, hpointed.2⟩

/-! ### Conditions -/

theorem exists_of_comparison {left : String} {k : Condition}
    (h : comparison left cs = .ok (k, rest)) :
    ∃ front, ComparisonForm left k front ∧ cs = front ++ rest ∧
      (Rereads (comparison left) k front rest ∨ Pointed front rest) := by
  have hcomparison := h
  unfold comparison at h
  split at h
  · next value more hquoted =>
    cases h
    obtain ⟨front, hform, rfl⟩ := reads_quoted.sound hquoted
    obtain ⟨hbody⟩ := id hform
    refine ⟨_, .quoted hbody, rfl, Or.inl fun more _ => ?_⟩
    rw [comparison, reads_quoted.complete hform trivial]
  · split at h
    · next value more hnumber =>
      cases h
      obtain ⟨front, rfl, hform, rfl, hrest⟩ := exists_of_number hnumber
      refine ⟨front, .number hform, rfl, hrest.imp_left fun hreads more hmore => ?_⟩
      rw [comparison, quoted_eq_error (hform.stops (by simp [marks]) (by simp)),
        hreads more hmore]
    · next m hnumber =>
      obtain ⟨⟨right, more⟩, hname, hmore⟩ := bind_eq_ok_iff.1 h
      cases hmore
      obtain ⟨front, hform, rfl⟩ := (reads_comparison left).sound hcomparison
      cases hform with
      | @name _ c cs hright hdigit =>
        refine ⟨c :: cs, .name hright hdigit, rfl, Or.inl fun more hmore => ?_⟩
        exact comparison_of_name hright (by simpa using hdigit)
          ((stops_of_name hname).of_head?_eq hmore)

theorem exists_of_condition {k : Condition} (h : condition cs = .ok (k, rest)) :
    ∃ front, ConditionForm k front ∧ cs = front ++ rest ∧
      (Rereads condition k front rest ∨
        ∃ left name equals whole, NameForm left name ∧ Spaced '=' equals ∧
          front = name ++ (equals ++ whole) ∧ Pointed whole rest) := by
  have hblank : isBlank '=' = false := by decide
  obtain ⟨left, name, rest₁, hname, h₁, rfl⟩ := reads_name.of_bind_eq_ok h
  obtain ⟨_, equals, rest₂, hequals, h₂, rfl⟩ := (reads_spacedChar hblank).of_bind_eq_ok h₁
  obtain ⟨right, hright, rfl, hrest⟩ := exists_of_comparison h₂
  refine ⟨_, .mk hname hequals hright, by simp only [List.append_assoc],
    hrest.imp (fun hreads more hmore => ?_) fun hpointed => ?_⟩
  · simp only [List.append_assoc]
    rw [condition_append hname hequals hright.stops_blank, hreads more hmore]
  · exact ⟨left, name, equals, right, hname, hequals, rfl, hpointed⟩

/-! ### Lists -/

/-- Something is read wherever the form stands in front, whatever follows it. -/
def Takes (reader : Reader α) (form : α → List Char → Prop) : Prop :=
  ∀ (a : α) (cs rest : List Char), form a cs → ∃ r, reader (cs ++ rest) = .ok r

theorem takes_name : Takes name NameForm := by
  rintro _ cs rest ⟨hne, hall⟩
  unfold name
  split
  · next he =>
    obtain ⟨c, cs, rfl⟩ := List.exists_cons_of_ne_nil hne
    simp [hall c List.mem_cons_self] at he
  · exact ⟨_, rfl⟩

theorem UnsignedForm.exists_unsigned (h : UnsignedForm cs) (rest : List Char) :
    ∃ r, unsigned (cs ++ rest) = .ok r := by
  have hdigits : ∀ {ds}, DigitsForm ds → ∀ more, ¬ Stops Char.isDigit (ds ++ more) := by
    rintro ds ⟨hne, hall⟩ more
    obtain ⟨d, ds, rfl⟩ := List.exists_cons_of_ne_nil hne
    simp [hall d List.mem_cons_self]
  have hread : ∃ r, digits (cs ++ rest) = .ok r := by
    refine exists_digits ?_
    cases h with
    | whole hds => exact hdigits hds rest
    | decimal hds _ =>
      rw [List.append_assoc]
      exact hdigits hds _
  obtain ⟨r, hr⟩ := hread
  rw [unsigned, hr]
  exact ⟨_, rfl⟩

theorem NumberForm.exists_number (h : NumberForm cs) (rest : List Char) :
    ∃ r, number (cs ++ rest) = .ok r := by
  cases h with
  | positive h =>
    obtain ⟨r, hr⟩ := h.exists_unsigned rest
    rw [number_of_stops (h.stops (by simp [marks])), hr]
    exact ⟨_, rfl⟩
  | negative h =>
    obtain ⟨r, hr⟩ := h.exists_unsigned rest
    rw [List.cons_append, number, hr]
    exact ⟨_, rfl⟩

theorem takes_comparison (left : String) : Takes (comparison left) (ComparisonForm left) := by
  intro k cs rest h
  cases h with
  | quoted hbody =>
    rw [comparison, reads_quoted.complete (.mk hbody) trivial]
    exact ⟨_, rfl⟩
  | number hform =>
    obtain ⟨r, hr⟩ := hform.exists_number rest
    rw [comparison, quoted_eq_error (hform.stops (by simp [marks]) (by simp)), hr]
    exact ⟨_, rfl⟩
  | @name right c cs hform _ =>
    obtain ⟨r, hr⟩ := takes_name _ _ rest hform
    rw [comparison, quoted_eq_error (hform.stops (by simp [marks])), hr]
    cases number (c :: cs ++ rest) with
    | error m => exact ⟨_, rfl⟩
    | ok found => exact ⟨_, rfl⟩

theorem takes_condition : Takes condition ConditionForm := by
  rintro k _ rest ⟨hname, hequals, hright⟩
  simp only [List.append_assoc]
  rw [condition_append hname hequals hright.stops_blank]
  exact takes_comparison _ _ _ rest hright

/-- No comma with a further item follows, with or without blanks in front of it. -/
def Unextended (form : α → List Char → Prop) (rest : List Char) : Prop :=
  ∀ front, Further form front → ¬ front <+: skipBlanks rest

section Lists

variable {item : Reader α} {form : α → List Char → Prop} {as : List α} {n : Nat}

/-- Where a comma with a further item follows, both are read. -/
theorem exists_of_further (h : ReadsItem item form p) (htakes : Takes item form)
    (hfront : Further form front) (hfirst : front <+: skipBlanks cs) :
    ∃ more r, spacedChar ',' cs = .ok ((), more) ∧ item more = .ok r := by
  obtain @⟨a, behind, m, hbehind, ha⟩ := hfront
  obtain ⟨tail, htail⟩ := hfirst
  obtain ⟨r, hr⟩ := htakes a m tail ha
  refine ⟨m ++ tail, r, spacedChar_eq_ok_iff.2 ⟨behind ++ (m ++ tail), ?_, ?_⟩, hr⟩
  · rw [← htail, List.cons_append, List.append_assoc]
  · exact (skipBlanks_append hbehind (h.start tail ha)).symm

theorem unextended_of_ne_ok (h : ReadsItem item form p) (htakes : Takes item form)
    (hread : ∀ more r, spacedChar ',' cs = .ok ((), more) → item more ≠ .ok r) :
    Unextended form cs := by
  intro front hfront hfirst
  obtain ⟨more, r, hcomma, hr⟩ := exists_of_further h htakes hfront hfirst
  exact hread more r hcomma hr

theorem unextended_furtherItems (h : ReadsItem item form p) (htakes : Takes item form)
    (hn : cs.length ≤ n) : Unextended form (furtherItems item n cs).2 := by
  induction n generalizing cs with
  | zero =>
    obtain rfl : cs = [] := List.eq_nil_of_length_eq_zero (by omega)
    exact unextended_of_ne_ok h htakes fun _ _ hcomma => nomatch hcomma
  | succ n ih =>
    cases hcomma : spacedChar ',' cs with
    | error m =>
      rw [furtherItems_of_error hcomma]
      exact unextended_of_ne_ok h htakes fun _ _ hok => by simp [hcomma] at hok
    | ok found =>
      obtain ⟨_, more⟩ := found
      cases ha : item more with
      | error m =>
        have hread : ∀ tail r, spacedChar ',' cs = .ok ((), tail) → item tail ≠ .ok r := by
          intro tail r hok
          obtain rfl : more = tail := by simpa [hcomma] using hok
          simp [ha]
        rw [furtherItems, hcomma]
        simpa only [ha] using unextended_of_ne_ok h htakes hread
      | ok found =>
        obtain ⟨a, rest⟩ := found
        rw [furtherItems_succ hcomma ha]
        obtain ⟨comma, hspaced, rfl⟩ := (reads_spacedChar (by decide)).sound hcomma
        obtain ⟨m, hm, rfl⟩ := h.reads.sound ha
        have hpos := hspaced.length_pos
        simp only [List.length_append] at hn
        exact ih (by omega)

theorem unextended_of_items (h : ReadsItem item form p) (htakes : Takes item form)
    (he : items item cs = .ok (as, rest)) : Unextended form rest := by
  obtain ⟨⟨a, more⟩, -, hmore⟩ := bind_eq_ok_iff.1 he
  have hrest : (furtherItems item more.length more).2 = rest := by
    cases hmore
    rfl
  rw [← hrest]
  exact unextended_furtherItems h htakes le_rfl

end Lists

/-- Names are read up to a character that is not one of names and does not begin a further name. -/
theorem exists_of_names {names : List String} (h : items name cs = .ok (names, rest)) :
    ∃ listed, ListForm NameForm names listed ∧ cs = listed ++ rest ∧ Stops isNameChar rest ∧
      Unextended NameForm rest := by
  obtain ⟨front, last, bs, a, hfront, ha, hread, rfl, rfl⟩ := exists_of_items readsItem_name h
  refine ⟨front ++ last, hfront.listForm ha, by rw [List.append_assoc], stops_of_name hread, ?_⟩
  exact unextended_of_items readsItem_name takes_name h

/-- The conditions in front are taken from every text that begins behind them as `rest` does, unless
a comma follows there. -/
def RereadsConditions (conditions : List Condition) (front rest : List Char) : Prop :=
  ∀ more : List Char, more.head? = rest.head? → Stops (· = ',') (skipBlanks more) →
    items condition (front ++ more) = .ok (conditions, more)

/-- The last condition ends in a whole number, and a point that no digit follows stands behind. -/
inductive PointedCondition : List Char → List Char → Prop where
  /-- The other conditions, a name, an equals sign, and the whole number. -/
  | mk {conditions : List Condition} {left : String} {front name equals whole rest : List Char} :
      ListFront ConditionForm conditions front → NameForm left name → Spaced '=' equals →
        Pointed whole rest → PointedCondition (front ++ (name ++ (equals ++ whole))) rest

theorem exists_of_conditions {conditions : List Condition}
    (h : items condition cs = .ok (conditions, rest)) :
    ∃ listed, ListForm ConditionForm conditions listed ∧ cs = listed ++ rest ∧
      Unextended ConditionForm rest ∧
      (RereadsConditions conditions listed rest ∨ PointedCondition listed rest) := by
  obtain ⟨front, last, bs, k, hfront, hk, hread, rfl, rfl⟩ := exists_of_items readsItem_condition h
  refine ⟨front ++ last, hfront.listForm hk, by rw [List.append_assoc],
    unextended_of_items readsItem_condition takes_condition h, ?_⟩
  obtain ⟨last', hlast', heq, hrest⟩ := exists_of_condition hread
  obtain rfl := List.append_cancel_right heq
  refine hrest.imp (fun hreads more hmore hcomma => ?_) ?_
  · rw [List.append_assoc]
    exact items_append readsItem_condition hfront hk (hreads more hmore) hcomma
  · rintro ⟨left, name, equals, whole, hname, hequals, rfl, hpointed⟩
    exact .mk hfront hname hequals hpointed

end RelPlan.Query
