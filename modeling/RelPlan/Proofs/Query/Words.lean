import RelPlan.Proofs.Success
import RelPlan.Proofs.Text.Stops
import RelPlan.Query.Grammar

/-!
# Reading words

A reader reads a form (`Query.Reads`) if what it takes from the front of a text spells what it
returns, and if, the other way round, it takes what spells something and no more, as long as the
text behind that stops. Where a text has to stop is different for each form: a name is not
followed by a further name character, a number not by a digit or a point, blanks not by a blank.
This module treats blanks, marks, keywords, names, quoted texts and numbers.
-/

namespace RelPlan.Query

variable {α : Type} {p q : Char → Bool} {c : Char} {cs front rest : List Char}

/-! ### Readers and forms -/

/-- The reader reads the form, wherever the text behind it stops. -/
structure Reads (reader : Reader α) (form : α → List Char → Prop) (stop : List Char → Prop) :
    Prop where
  /-- What is taken spells what is returned. -/
  sound {a : α} {cs rest : List Char} :
    reader cs = .ok (a, rest) → ∃ front, form a front ∧ cs = front ++ rest
  /-- What spells something is taken, and no more. -/
  complete {a : α} {front rest : List Char} :
    form a front → stop rest → reader (front ++ rest) = .ok (a, rest)

namespace Reads

variable {β : Type} {reader : Reader α} {form : α → List Char → Prop} {stop : List Char → Prop}
  {next : α × List Char → Except Mismatch β} {a : α} {b : β}

/-- What a sequence takes begins with what its first reader takes. -/
theorem of_bind_eq_ok (h : Reads reader form stop) (he : reader cs >>= next = .ok b) :
    ∃ a front rest, form a front ∧ next (a, rest) = .ok b ∧ cs = front ++ rest := by
  obtain ⟨⟨a, rest⟩, ha, hb⟩ := bind_eq_ok_iff.1 he
  obtain ⟨front, hfront, hcs⟩ := h.sound ha
  exact ⟨a, front, rest, hfront, hb, hcs⟩

theorem bind_eq_ok (h : Reads reader form stop) (hfront : form a front) (hrest : stop rest)
    (hb : next (a, rest) = .ok b) : reader (front ++ rest) >>= next = .ok b :=
  bind_eq_ok_iff.2 ⟨(a, rest), h.complete hfront hrest, hb⟩

end Reads

/-! ### Blanks -/

theorem skipBlanks_append {bs : List Char} (h : Blanks bs) (hrest : Stops isBlank rest) :
    skipBlanks (bs ++ rest) = rest :=
  dropWhile_append_of_stops h hrest

theorem exists_skipBlanks (cs : List Char) : ∃ bs, Blanks bs ∧ cs = bs ++ skipBlanks cs :=
  ⟨cs.takeWhile isBlank, takeWhile_spec isBlank cs⟩

theorem stops_skipBlanks (cs : List Char) : Stops isBlank (skipBlanks cs) :=
  stops_dropWhile isBlank cs

theorem Gap.stops (h : Gap cs) (hp : ∀ c, isBlank c → p c = false) : Stops p (cs ++ rest) :=
  stops_append h.1 h.2 hp

theorem Blanks.stops {bs : List Char} (h : Blanks bs) (hp : ∀ c, isBlank c → p c = false)
    (hrest : Stops p rest) : Stops p (bs ++ rest) := by
  by_cases hne : bs = []
  · rwa [hne, List.nil_append]
  · exact Gap.stops ⟨hne, h⟩ hp

theorem reads_blanks : Reads blanks (fun _ => Gap) (Stops isBlank) where
  sound := by
    intro _ cs rest h
    cases cs with
    | nil => cases h
    | cons c cs =>
      rw [blanks] at h
      split at h
      · next hc =>
        cases h
        obtain ⟨bs, hbs, hcs⟩ := exists_skipBlanks cs
        refine ⟨c :: bs, ⟨by simp, ?_⟩, ?_⟩
        · exact List.forall_mem_cons.2 ⟨hc, hbs⟩
        · rw [List.cons_append, ← hcs]
      · cases h
  complete := by
    intro _ front rest ⟨hne, hblank⟩ hrest
    cases front with
    | nil => exact absurd rfl hne
    | cons b bs =>
      obtain ⟨hb, hbs⟩ := List.forall_mem_cons.1 hblank
      rw [List.cons_append, blanks, if_pos hb, skipBlanks_append hbs hrest]

/-! ### Marks -/

/-- The characters that can stand behind a word: blanks, a comma and a semicolon. -/
def separators : List Char := [' ', '\t', '\r', '\n', ',', ';']

/-- Separators, and the marks that can stand in front of a word or within one. -/
def marks : List Char := separators ++ ['=', '*', '"', '-', '.']

theorem mem_separators_of_isBlank (h : isBlank c) : c ∈ separators := by
  simp only [isBlank, Bool.decide_or, Bool.or_eq_true, decide_eq_true_eq] at h
  rcases h with rfl | rfl | rfl | rfl <;> simp [separators]

theorem mem_marks_of_isBlank (h : isBlank c) : c ∈ marks :=
  List.mem_append_left _ (mem_separators_of_isBlank h)

/-- No mark is a character of names. -/
theorem isNameChar_of_mem_marks (h : c ∈ marks) : isNameChar c = false := by
  have hall : (marks.all fun c => !isNameChar c) = true := by decide +kernel
  simpa using List.all_eq_true.1 hall c h

theorem toLower_of_mem_marks (h : c ∈ marks) : c.toLower = c := by
  have hall : (marks.all fun c => c.toLower = c) = true := by decide
  simpa using List.all_eq_true.1 hall c h

/-- A text that begins with name characters does not begin with a mark. -/
theorem stops_of_isNameChar (hne : front ≠ []) (hall : ∀ c ∈ front, isNameChar c)
    (hp : ∀ c, p c → c ∈ marks) : Stops p (front ++ rest) := by
  refine stops_append hne hall ?_
  intro c hc
  by_contra hpc
  rw [Bool.not_eq_false] at hpc
  simp [isNameChar_of_mem_marks (hp c hpc)] at hc

theorem char_eq_ok_iff : char c cs = .ok ((), rest) ↔ cs = c :: rest := by
  cases cs with
  | nil => simp [char]
  | cons d cs =>
    rw [char]
    split <;> simp_all

theorem char_eq_error (h : Stops (· = c) cs) : char c cs = .error ⟨.character, cs⟩ := by
  cases cs with
  | nil => rfl
  | cons d cs =>
    have hd : d ≠ c := by simpa using h
    rw [char, if_neg hd]

theorem spacedChar_eq_ok_iff :
    spacedChar c cs = .ok ((), rest) ↔
      ∃ more, skipBlanks cs = c :: more ∧ rest = skipBlanks more := by
  rw [spacedChar, bind_eq_ok_iff]
  constructor
  · rintro ⟨⟨_, more⟩, hmore, h⟩
    cases h
    exact ⟨more, char_eq_ok_iff.1 hmore, rfl⟩
  · rintro ⟨more, hmore, rfl⟩
    exact ⟨((), more), char_eq_ok_iff.2 hmore, rfl⟩

theorem Spaced.stops (h : Spaced c cs) (hp : ∀ c, isBlank c → p c = false) (hc : p c = false) :
    Stops p (cs ++ rest) := by
  obtain ⟨hbefore, -⟩ := h
  rw [List.append_assoc]
  exact hbefore.stops hp (stops_cons.2 hc)

theorem Spaced.exists_skipBlanks (h : Spaced c cs) (hc : isBlank c = false) (rest : List Char) :
    ∃ behind, skipBlanks (cs ++ rest) = c :: behind := by
  obtain ⟨hbefore, -⟩ := h
  rw [List.append_assoc, List.cons_append]
  exact ⟨_, skipBlanks_append hbefore (stops_cons.2 hc)⟩

theorem reads_spacedChar (hc : isBlank c = false) :
    Reads (spacedChar c) (fun _ => Spaced c) (Stops isBlank) where
  sound := by
    intro _ cs rest h
    obtain ⟨more, hmore, rfl⟩ := spacedChar_eq_ok_iff.1 h
    obtain ⟨before, hbefore, hcs⟩ := exists_skipBlanks cs
    obtain ⟨behind, hbehind, hm⟩ := exists_skipBlanks more
    refine ⟨before ++ c :: behind, .mk hbefore hbehind, ?_⟩
    rw [List.append_assoc, List.cons_append, ← hm, ← hmore]
    exact hcs
  complete := by
    rintro _ _ rest ⟨hbefore, hbehind⟩ hrest
    refine spacedChar_eq_ok_iff.2 ⟨_ ++ rest, ?_, (skipBlanks_append hbehind hrest).symm⟩
    rw [List.append_assoc]
    exact skipBlanks_append hbefore (stops_cons.2 hc)

/-! ### Keywords -/

theorem dropKeyword?_append (front rest : List Char) :
    dropKeyword? (front.map Char.toLower) (front ++ rest) = some rest := by
  induction front with
  | nil => rfl
  | cons c front ih => rwa [List.map_cons, List.cons_append, dropKeyword?, if_pos rfl]

theorem exists_of_dropKeyword? {ks : List Char} (h : dropKeyword? ks cs = some rest) :
    ∃ front, front.map Char.toLower = ks ∧ cs = front ++ rest := by
  fun_induction dropKeyword? ks cs with
  | case1 cs =>
    cases h
    exact ⟨[], rfl, rfl⟩
  | case2 => cases h
  | case3 ks c cs ih =>
    obtain ⟨front, rfl, rfl⟩ := ih h
    exact ⟨c :: front, rfl, rfl⟩
  | case4 => cases h

theorem reads_keyword (word : String) :
    Reads (keyword word) (fun _ => Keyword word) fun _ => True where
  sound := by
    intro _ cs rest h
    unfold keyword at h
    split at h
    · next more hmore =>
      cases h
      exact exists_of_dropKeyword? hmore
    · cases h
  complete := by
    intro _ front rest hfront _
    unfold keyword
    rw [← hfront, dropKeyword?_append]

/-- The word begins with a character that is not a mark. -/
def Unmarked (word : String) : Prop := ∃ k ks, word.toList = k :: ks ∧ k ∉ marks

theorem unmarked_select : Unmarked "select" :=
  ⟨'s', ['e', 'l', 'e', 'c', 't'], rfl, by decide⟩

theorem unmarked_from : Unmarked "from" := ⟨'f', ['r', 'o', 'm'], rfl, by decide⟩

theorem unmarked_where : Unmarked "where" := ⟨'w', ['h', 'e', 'r', 'e'], rfl, by decide⟩

/-- Marks have no case, so an unmarked word begins with no mark in any letter case. -/
theorem Keyword.stops {word : String} (h : Keyword word cs) (hword : Unmarked word)
    (hp : ∀ c, p c → c ∈ marks) : Stops p (cs ++ rest) := by
  obtain ⟨k, ks, hword, hk⟩ := hword
  rw [Keyword, hword] at h
  obtain ⟨c, cs, rfl, rfl, -⟩ := List.map_eq_cons_iff.1 h
  refine stops_cons.2 ?_
  by_contra hc
  rw [Bool.not_eq_false] at hc
  have hmem := hp c hc
  rw [toLower_of_mem_marks hmem] at hk
  exact hk hmem

theorem keyword_eq_error {word : String} {k : Char} {ks : List Char} (hword : word.toList = k :: ks)
    (h : Stops (fun c => c.toLower = k) cs) : keyword word cs = .error ⟨.keyword, cs⟩ := by
  rw [keyword, hword]
  cases cs with
  | nil => rfl
  | cons c cs => rw [dropKeyword?, if_neg (by simpa using h)]

/-! ### Names -/

theorem NameForm.ne_nil {n : String} (h : NameForm n cs) : cs ≠ [] := by
  obtain ⟨hne, -⟩ := h
  exact hne

theorem NameForm.stops {n : String} (h : NameForm n cs) (hp : ∀ c, p c → c ∈ marks) :
    Stops p (cs ++ rest) := by
  obtain ⟨hne, hall⟩ := h
  exact stops_of_isNameChar hne hall hp

theorem reads_name : Reads name NameForm (Stops isNameChar) where
  sound := by
    intro n cs rest h
    obtain ⟨hall, hcs⟩ := takeWhile_spec isNameChar cs
    unfold name at h
    split at h
    · cases h
    · next hne =>
      cases h
      exact ⟨_, .mk hne hall, hcs⟩
  complete := by
    rintro _ _ rest ⟨hne, hall⟩ hrest
    unfold name
    rw [takeWhile_append_of_stops hall hrest, dropWhile_append_of_stops hall hrest]
    split
    · contradiction
    · rfl

/-! ### Quoted texts -/

/-- A text in double quotes, which holds none itself. -/
inductive QuotedForm : String → List Char → Prop where
  /-- The text between two quotes. -/
  | mk {body : List Char} : '"' ∉ body → QuotedForm (String.ofList body) ('"' :: (body ++ ['"']))

theorem reads_quoted : Reads quoted QuotedForm fun _ => True where
  sound := by
    intro value cs rest h
    obtain ⟨⟨_, body⟩, hopen, h⟩ := bind_eq_ok_iff.1 h
    obtain ⟨⟨_, more⟩, hclose, h⟩ := bind_eq_ok_iff.1 h
    cases h
    have hbody : body.takeWhile (· ≠ '"') ++ '"' :: rest = body := by
      rw [← char_eq_ok_iff.1 hclose]
      exact List.takeWhile_append_dropWhile
    refine ⟨_, @QuotedForm.mk (body.takeWhile (· ≠ '"')) ?_, ?_⟩
    · intro hmem
      simpa using List.mem_takeWhile_imp hmem
    · rw [char_eq_ok_iff.1 hopen, List.cons_append, List.append_assoc]
      exact congrArg _ hbody.symm
  complete := by
    rintro _ _ rest (@⟨body, hbody⟩) _
    have hall : ∀ c ∈ body, (c ≠ '"' : Bool) := by
      intro c hc
      simp only [ne_eq, decide_not, Bool.not_eq_true', decide_eq_false_iff_not]
      rintro rfl
      exact hbody hc
    have hstop : Stops (· ≠ '"') ('"' :: rest) := by simp
    rw [List.cons_append, List.append_assoc, List.singleton_append]
    refine bind_eq_ok_iff.2 ⟨((), body ++ '"' :: rest), char_eq_ok_iff.2 rfl, ?_⟩
    refine bind_eq_ok_iff.2 ⟨((), rest), ?_, ?_⟩
    · exact char_eq_ok_iff.2 (dropWhile_append_of_stops hall hstop)
    · show Except.ok _ = _
      rw [takeWhile_append_of_stops hall hstop]

theorem quoted_eq_error (h : Stops (· = '"') cs) : quoted cs = .error ⟨.character, cs⟩ := by
  rw [quoted, char_eq_error h]
  rfl

/-! ### Numbers -/

/-- The characters that can go on with a number. -/
def isFigure (c : Char) : Bool := c.isDigit || c = '.'

theorem reads_digits :
    Reads digits (fun ds cs => ds = cs ∧ DigitsForm cs) (Stops Char.isDigit) where
  sound := by
    intro ds cs rest h
    obtain ⟨hall, hcs⟩ := takeWhile_spec Char.isDigit cs
    unfold digits at h
    split at h
    · cases h
    · next hne =>
      cases h
      exact ⟨_, ⟨rfl, hne, hall⟩, hcs⟩
  complete := by
    rintro _ front rest ⟨rfl, hne, hall⟩ hrest
    unfold digits
    rw [takeWhile_append_of_stops hall hrest, dropWhile_append_of_stops hall hrest]
    split
    · contradiction
    · rfl

theorem digits_eq_error (h : Stops Char.isDigit cs) : digits cs = .error ⟨.digit, cs⟩ := by
  unfold digits
  rw [takeWhile_of_stops h]

/-- A fraction that is found is a point and digits. -/
theorem fraction_cases (cs : List Char) :
    fraction cs = ([], cs) ∨
      ∃ es rest, DigitsForm es ∧ cs = '.' :: (es ++ rest) ∧ fraction cs = ('.' :: es, rest) := by
  unfold fraction
  split
  · next more =>
    split
    · next es rest h =>
      obtain ⟨_, ⟨rfl, hes⟩, rfl⟩ := reads_digits.sound h
      exact Or.inr ⟨es, rest, hes, rfl, rfl⟩
    · exact Or.inl rfl
  · exact Or.inl rfl

theorem fraction_append {es : List Char} (h : DigitsForm es) (hrest : Stops Char.isDigit rest) :
    fraction ('.' :: (es ++ rest)) = ('.' :: es, rest) := by
  rw [fraction, reads_digits.complete ⟨rfl, h⟩ hrest]

theorem fraction_of_stops (h : Stops isFigure cs) : fraction cs = ([], cs) := by
  unfold fraction
  split
  · simp [isFigure] at h
  · rfl

/-- Behind a fraction only a digit would go on with the number. -/
theorem unsigned_decimal {ds es : List Char} (hds : DigitsForm ds) (hes : DigitsForm es)
    (hrest : Stops Char.isDigit rest) :
    unsigned (ds ++ '.' :: es ++ rest) = .ok (ds ++ '.' :: es, rest) := by
  rw [List.append_assoc]
  refine reads_digits.bind_eq_ok ⟨rfl, hds⟩ (by simp) ?_
  simp only [List.cons_append, fraction_append hes hrest]
  rfl

theorem reads_unsigned :
    Reads unsigned (fun n cs => n = cs ∧ UnsignedForm cs) (Stops isFigure) where
  sound := by
    intro n cs rest h
    obtain ⟨ds, _, more, ⟨rfl, hds⟩, hmore, rfl⟩ := reads_digits.of_bind_eq_ok h
    rcases fraction_cases more with hf | ⟨es, rest', hes, rfl, hf⟩
    · simp only [hf, List.append_nil] at hmore
      cases hmore
      exact ⟨_, ⟨rfl, .whole hds⟩, rfl⟩
    · simp only [hf] at hmore
      cases hmore
      exact ⟨_, ⟨rfl, .decimal hds hes⟩, by simp⟩
  complete := by
    rintro _ front rest ⟨rfl, hfront⟩ hrest
    have hdigit : Stops Char.isDigit rest := hrest.mono fun c hc => by simp [isFigure, hc]
    cases hfront with
    | whole hds =>
      refine reads_digits.bind_eq_ok ⟨rfl, hds⟩ hdigit ?_
      simp only [fraction_of_stops hrest, List.append_nil]
      rfl
    | decimal hds hes => exact unsigned_decimal hds hes hdigit

theorem isNameChar_of_isDigit (h : c.isDigit) : isNameChar c := by
  simp [isNameChar, isAlphanumeric, Char.isAlphanum, h]

theorem UnsignedForm.stops (h : UnsignedForm cs) (hp : ∀ c, p c → c ∈ marks) :
    Stops p (cs ++ rest) := by
  have hdigits : ∀ {ds rest}, DigitsForm ds → Stops p (ds ++ rest) := fun hds =>
    stops_of_isNameChar hds.1 (fun c hc => isNameChar_of_isDigit (hds.2 c hc)) hp
  cases h with
  | whole hds => exact hdigits hds
  | decimal hds hes =>
    rw [List.append_assoc]
    exact hdigits hds

theorem NumberForm.stops (h : NumberForm cs) (hp : ∀ c, p c → c ∈ marks) (hminus : p '-' = false) :
    Stops p (cs ++ rest) := by
  cases h with
  | positive h => exact h.stops hp
  | negative h => exact stops_cons.2 hminus

theorem number_of_stops (h : Stops (· = '-') cs) :
    number cs = do
      let (n, rest) ← unsigned cs
      return (String.ofList n, rest) := by
  unfold number
  split
  · simp at h
  · rfl

theorem reads_number :
    Reads number (fun n cs => n = String.ofList cs ∧ NumberForm cs) (Stops isFigure) where
  sound := by
    intro n cs rest h
    by_cases hminus : Stops (· = '-') cs
    · rw [number_of_stops hminus] at h
      obtain ⟨m, _, more, ⟨rfl, hform⟩, hmore, rfl⟩ := reads_unsigned.of_bind_eq_ok h
      cases hmore
      exact ⟨_, ⟨rfl, .positive hform⟩, rfl⟩
    · cases cs with
      | nil => simp at hminus
      | cons c cs =>
        obtain rfl : c = '-' := by simpa using hminus
        obtain ⟨m, _, more, ⟨rfl, hform⟩, hmore, rfl⟩ := reads_unsigned.of_bind_eq_ok h
        cases hmore
        exact ⟨_, ⟨rfl, .negative hform⟩, rfl⟩
  complete := by
    rintro _ front rest ⟨rfl, hfront⟩ hrest
    cases hfront with
    | positive h =>
      have hminus : Stops (· = '-') (front ++ rest) := h.stops (by simp [marks])
      rw [number_of_stops hminus]
      exact reads_unsigned.bind_eq_ok ⟨rfl, h⟩ hrest rfl
    | negative h => exact reads_unsigned.bind_eq_ok ⟨rfl, h⟩ hrest rfl

/-- Unless there is a minus sign, a number is read exactly where a digit stands. -/
theorem exists_number_iff (h : Stops (· = '-') cs) :
    (∃ r, number cs = .ok r) ↔ ¬ Stops Char.isDigit cs := by
  rw [number_of_stops h]
  constructor
  · rintro ⟨r, hr⟩ hstop
    rw [unsigned, digits_eq_error hstop] at hr
    cases hr
  · intro hstop
    cases cs with
    | nil => simp at hstop
    | cons c cs =>
      have hc : c.isDigit := by simpa using hstop
      have hdigits : digits (c :: cs) =
          .ok (c :: cs.takeWhile Char.isDigit, cs.dropWhile Char.isDigit) := by
        unfold digits
        rw [List.takeWhile_cons_of_pos hc, List.dropWhile_cons_of_pos hc]
      rw [unsigned, hdigits]
      exact ⟨_, rfl⟩

end RelPlan.Query
