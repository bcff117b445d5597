import Mathlib.Data.List.DropRight
import RelPlan.Proofs.Query.Positions
import RelPlan.Proofs.Text.Stops

/-!
# What a report shows

An error stands between two characters of a text. Its report names that place by a line and a
column, shows the line, and puts a caret under the column. The places of a text are counted in
bytes, its columns in characters, and its lines are cut apart without regard to either. Here the
three are brought together: line and column count the newlines in front of the place and the
characters behind the last of them (`Position.behind_eq`), and among the lines of the text the one
with that number is the one around the place (`getElem?_linesOf`).
-/

namespace RelPlan

variable {c : Char} {cs line before after rest : List Char}

/-! ### Places between characters -/

section Places

variable {text : String} {place : text.Pos}

theorem exists_splits (place : text.Pos) :
    ∃ before after : List Char, place.Splits (String.ofList before) (String.ofList after) := by
  refine ⟨(text.sliceTo place).copy.toList, (text.sliceFrom place).copy.toList, ?_⟩
  rw [String.ofList_toList, String.ofList_toList]
  exact place.splits

theorem toList_of_splits (h : place.Splits (String.ofList before) (String.ofList after)) :
    text.toList = before ++ after := by
  rw [h.eq_append, String.toList_append, String.toList_ofList, String.toList_ofList]

theorem beforeOffset_append (before after : List Char) :
    beforeOffset (String.ofList before).utf8ByteSize (before ++ after) = before := by
  induction before with
  | nil => cases after <;> rfl
  | cons c before ih =>
    have hsize : (String.ofList (c :: before)).utf8ByteSize =
        (String.ofList before).utf8ByteSize + c.utf8Size := by
      rw [String.ofList_cons, String.utf8ByteSize_append, String.utf8ByteSize_singleton,
        Nat.add_comm]
    have hc := c.utf8Size_pos
    rw [hsize, List.cons_append, beforeOffset, if_neg (by omega), Nat.add_sub_cancel, ih]

/-- The offset of a place in bytes tells which characters stand in front of it. -/
theorem beforeOffset_of_splits (h : place.Splits (String.ofList before) (String.ofList after)) :
    beforeOffset place.offset.byteIdx text.toList = before := by
  rw [h.offset_eq_rawEndPos, toList_of_splits h]
  exact beforeOffset_append before after

/-- Different places are in different lines or columns. -/
theorem place_eq_of_behind_eq {other : text.Pos}
    (h : Position.behind (beforeOffset place.offset.byteIdx text.toList) =
      Position.behind (beforeOffset other.offset.byteIdx text.toList)) : place = other := by
  obtain ⟨before, after, hsplits⟩ := exists_splits place
  obtain ⟨before', after', hsplits'⟩ := exists_splits other
  rw [beforeOffset_of_splits hsplits, beforeOffset_of_splits hsplits'] at h
  have hbefore : before = before' :=
    Position.eq_of_behind_eq ⟨after, (toList_of_splits hsplits).symm⟩
      ⟨after', (toList_of_splits hsplits').symm⟩ h
  apply String.Pos.ext
  rw [hsplits.offset_eq_rawEndPos, hsplits'.offset_eq_rawEndPos, hbefore]

end Places

/-! ### The line around a place -/

/-- What stands behind the last newline of a text. -/
def lastLine (cs : List Char) : List Char := cs.rtakeWhile (· ≠ '\n')

/-- What stands in front of the first newline of a text. -/
def firstLine (cs : List Char) : List Char := cs.takeWhile (· ≠ '\n')

/-- What stands in front of a newline, without the carriage return that belongs to the newline. -/
def withoutReturn (line : List Char) : List Char :=
  if line.getLast? = some '\r' then line.dropLast else line

/-- The line around the place between `before` and `after`, without its end. -/
def lineAround (before after : List Char) : List Char :=
  if '\n' ∈ after then withoutReturn (lastLine before ++ firstLine after)
  else lastLine before ++ firstLine after

/-- Behind the place there is nothing, and in front of it no line has begun. -/
def AtEnd (before after : List Char) : Prop :=
  after = [] ∧ (before = [] ∨ before.getLast? = some '\n')

instance (before after : List Char) : Decidable (AtEnd before after) :=
  inferInstanceAs (Decidable (after = [] ∧ (before = [] ∨ before.getLast? = some '\n')))

/-- The text begins with the end of a line, or with what is left of one. -/
def BeginsLineEnd (cs : List Char) : Prop := ['\n'] <+: cs ∨ ['\r', '\n'] <+: cs

/-- Every text is a number of lines with a newline behind each, and a line without one. -/
@[elab_as_elim]
theorem lines_induction {motive : List Char → Prop} (last : ∀ line, '\n' ∉ line → motive line)
    (more : ∀ line cs, '\n' ∉ line → motive cs → motive (line ++ '\n' :: cs)) (cs : List Char) :
    motive cs := by
  -- the line that has begun is carried along
  suffices h : ∀ line, '\n' ∉ line → motive (line ++ cs) from h [] List.not_mem_nil
  induction cs with
  | nil =>
    intro line hline
    rw [List.append_nil]
    exact last line hline
  | cons c cs ih =>
    intro line hline
    by_cases hc : c = '\n'
    · rw [hc]
      exact more line cs hline (ih [] List.not_mem_nil)
    · have hih := ih (line ++ [c]) (by simp [hline, Ne.symm hc])
      rwa [List.append_assoc, List.singleton_append] at hih

theorem lastLine_concat (cs : List Char) (c : Char) :
    lastLine (cs ++ [c]) = if c = '\n' then [] else lastLine cs ++ [c] := by
  rw [lastLine, List.rtakeWhile_concat]
  by_cases hc : c = '\n' <;> simp [hc, lastLine]

theorem lastLine_of_not_mem (h : '\n' ∉ line) : lastLine line = line := by
  rw [lastLine, List.rtakeWhile_eq_self_iff]
  intro c hc
  simpa using ne_of_mem_of_not_mem hc h

theorem lastLine_append_newline (line cs : List Char) :
    lastLine (line ++ '\n' :: cs) = lastLine cs := by
  induction cs using List.reverseRecOn with
  | nil => rw [lastLine_concat, if_pos rfl, lastLine, List.rtakeWhile_nil]
  | append_singleton cs c ih =>
    rw [← List.cons_append, ← List.append_assoc, lastLine_concat, lastLine_concat, ih]

theorem firstLine_of_not_mem (h : '\n' ∉ line) : firstLine line = line := by
  rw [firstLine, List.takeWhile_eq_self_iff]
  intro c hc
  simpa using ne_of_mem_of_not_mem hc h

theorem firstLine_append_newline (h : '\n' ∉ line) (cs : List Char) :
    firstLine (line ++ '\n' :: cs) = line := by
  refine takeWhile_append_of_stops ?_ (stops_cons.2 (by simp))
  intro c hc
  simpa using ne_of_mem_of_not_mem hc h

theorem withoutReturn_append (line : List Char) (h : cs ≠ []) :
    withoutReturn (line ++ cs) = line ++ withoutReturn cs := by
  rw [withoutReturn, withoutReturn, List.getLast?_append_of_ne_nil line h,
    List.dropLast_append_of_ne_nil h]
  split <;> rfl

theorem withoutReturn_cons (h : cs = [] → c ≠ '\r') :
    withoutReturn (c :: cs) = c :: withoutReturn cs := by
  by_cases hcs : cs = []
  · have hc := h hcs
    simp [hcs, withoutReturn, hc]
  · exact withoutReturn_append [c] hcs

theorem atEnd_append_newline (line cs after : List Char) :
    AtEnd (line ++ '\n' :: cs) after ↔ AtEnd cs after := by
  cases cs <;> simp [AtEnd, List.getLast?_append, List.getLast?_cons_cons]

theorem lineAround_append_newline (line cs after : List Char) :
    lineAround (line ++ '\n' :: cs) after = lineAround cs after := by
  rw [lineAround, lineAround, lastLine_append_newline]

/-- The character behind a place stands in the line around it, unless it belongs to the end of the
line. -/
theorem getElem?_lineAround (before : List Char) (h : ¬ BeginsLineEnd (c :: rest)) :
    (lineAround before (c :: rest))[(lastLine before).length]? = some c := by
  have hc : c ≠ '\n' := by
    rintro rfl
    exact h (.inl ⟨rest, rfl⟩)
  have hfirst : firstLine (c :: rest) = c :: firstLine rest := by simp [firstLine, hc]
  rw [lineAround, hfirst]
  split
  · next hnewline =>
    obtain ⟨more, behind, rfl, hmore⟩ := List.eq_append_cons_of_mem
      (List.mem_of_ne_of_mem hc.symm hnewline)
    rw [firstLine_append_newline hmore, withoutReturn_append _ (by simp), withoutReturn_cons]
    · simp
    · rintro rfl rfl
      exact h (.inr ⟨behind, rfl⟩)
  · simp

/-! ### The lines of a text -/

theorem linesOf_cons (hc : c ≠ '\n') (h : c = '\r' → cs.head? ≠ some '\n') {ls : List (List Char)}
    (hcs : linesOf cs = line :: ls) : linesOf (c :: cs) = (c :: line) :: ls := by
  rw [linesOf]
  · rw [hcs]
  · exact hc
  · rintro cs' rfl rfl
    exact h rfl rfl

/-- The first line of a text is in front of its first newline. -/
theorem linesOf_append_newline (h : '\n' ∉ line) (cs : List Char) :
    linesOf (line ++ '\n' :: cs) = withoutReturn line :: linesOf cs := by
  induction line with
  | nil => rfl
  | cons c line ih =>
    obtain ⟨hc, hline⟩ := not_or.1 (List.mem_cons.not.1 h)
    by_cases hreturn : c = '\r' ∧ line = []
    · obtain ⟨rfl, rfl⟩ := hreturn
      rfl
    · rw [withoutReturn_cons fun hnil hr => hreturn ⟨hr, hnil⟩]
      refine linesOf_cons (Ne.symm hc) (fun hr => ?_) (ih hline)
      cases line with
      | nil => exact absurd ⟨hr, rfl⟩ hreturn
      | cons d line => simpa using Ne.symm (List.ne_of_not_mem_cons hline)

/-- A text without a newline is one line, with every carriage return in it. -/
theorem linesOf_of_not_mem (hne : line ≠ []) (h : '\n' ∉ line) : linesOf line = [line] := by
  induction line with
  | nil => exact absurd rfl hne
  | cons c line ih =>
    obtain ⟨hc, hline⟩ := not_or.1 (List.mem_cons.not.1 h)
    cases line with
    | nil => rw [linesOf, linesOf] <;> simp [Ne.symm hc]
    | cons d line =>
      refine linesOf_cons (Ne.symm hc) (fun _ => ?_) (ih (by simp) hline)
      simpa using Ne.symm (List.ne_of_not_mem_cons hline)

/-- The line of a text with the number of newlines in front of a place is the line around it; there
is none if the text ends there without having begun a line. -/
theorem getElem?_linesOf (before after : List Char) :
    (linesOf (before ++ after))[before.count '\n']? =
      if AtEnd before after then none else some (lineAround before after) := by
  induction before using lines_induction with
  | last line hline =>
    rw [List.count_eq_zero.2 hline]
    rw [lineAround, lastLine_of_not_mem hline]
    by_cases hafter : '\n' ∈ after
    · obtain ⟨more, cs, rfl, hmore⟩ := List.eq_append_cons_of_mem hafter
      have hfirst : '\n' ∉ line ++ more := by simp [hline, hmore]
      rw [← List.append_assoc, linesOf_append_newline hfirst, firstLine_append_newline hmore,
        if_neg (by simp [AtEnd]), if_pos hafter]
      rfl
    · rw [if_neg hafter, firstLine_of_not_mem hafter]
      by_cases hnil : line ++ after = []
      · obtain ⟨rfl, rfl⟩ := List.append_eq_nil_iff.1 hnil
        rfl
      · have hlast : line.getLast? ≠ some '\n' := fun heq => hline (List.mem_of_getLast? heq)
        rw [linesOf_of_not_mem hnil (by simp [hline, hafter]), if_neg]
        · rfl
        · rintro ⟨rfl, rfl | heq⟩
          · exact hnil rfl
          · exact hlast heq
  | more line cs hline ih =>
    rw [List.append_assoc, List.cons_append, linesOf_append_newline hline]
    have hcount : (line ++ '\n' :: cs).count '\n' = cs.count '\n' + 1 := by
      simp [List.count_eq_zero.2 hline]
    rw [hcount, List.getElem?_cons_succ, ih, lineAround_append_newline]
    exact if_congr (atEnd_append_newline line cs after).symm rfl rfl

/-! ### Reports -/

/-- **Line and column** count the newlines in front of a place, and the characters behind the last
of them. -/
theorem Position.behind_eq (before : List Char) :
    behind before = ⟨1 + before.count '\n', 1 + (lastLine before).length⟩ := by
  induction before using List.reverseRecOn with
  | nil => rfl
  | append_singleton before c ih =>
    have hnext : behind (before ++ [c]) = (behind before).next c := List.foldl_concat ..
    rw [hnext, ih, next, lastLine_concat, List.count_append]
    by_cases hc : c = '\n'
    · simp [hc, Nat.add_assoc]
    · simp [hc, Nat.add_assoc]

theorem shownLine_behind (before after : List Char) :
    shownLine (before ++ after) (.behind before) =
      if AtEnd before after then "[end of input]" else String.ofList (lineAround before after) := by
  rw [shownLine, Position.behind_eq, Nat.add_sub_cancel_left, getElem?_linesOf]
  by_cases h : AtEnd before after
  · rw [if_pos h, if_pos h]
  · rw [if_neg h, if_neg h]

/-- A line, a column and a shown text that say where in a text the place between `before` and
`after` is. -/
structure Pinpoints (before after : List Char) (line column : Nat) (shown : String) : Prop where
  /-- Every newline in front of the place begins a line. -/
  line_eq : line = 1 + before.count '\n'
  /-- Every character behind the last newline in front of the place takes a column. -/
  column_eq : column = 1 + (lastLine before).length
  /-- At the end of a text that is empty or ends with a newline there is no line to show. -/
  atEnd : AtEnd before after → shown = "[end of input]"
  /-- Anywhere else the line around the place is shown. -/
  within : ¬ AtEnd before after → shown = String.ofList (lineAround before after)
  /-- In the shown line the character behind the place stands at the column, unless it belongs to
  the end of the line. -/
  under {c : Char} {rest : List Char} :
    after = c :: rest → ¬ BeginsLineEnd after → shown.toList[column - 1]? = some c

theorem pinpoints_behind (before after : List Char) :
    Pinpoints before after (Position.behind before).line (Position.behind before).column
      (shownLine (before ++ after) (.behind before)) where
  line_eq := by rw [Position.behind_eq]
  column_eq := by rw [Position.behind_eq]
  atEnd h := by rw [shownLine_behind, if_pos h]
  within h := by rw [shownLine_behind, if_neg h]
  under := by
    rintro c rest rfl hend
    rw [shownLine_behind, if_neg (by simp [AtEnd]), String.toList_ofList, Position.behind_eq,
      Nat.add_sub_cancel_left]
    exact getElem?_lineAround before hend

/-- **Reports**: at every place of a text the report of an error names a line and a column and shows
a line that say where the place is, with the caret under that column; and no other place of the text
is in that line and column. -/
theorem report_pinpoints {text : String} (place : text.Pos) (wanted : Wanted) :
    ∃ (before after : List Char) (line column : Nat) (shown : String),
      place.Splits (String.ofList before) (String.ofList after) ∧
      (SyntaxError.mismatch (beforeOffset place.offset.byteIdx text.toList) wanted).report
          text.toList =
        "line " ++ line.repr ++ ", column " ++ column.repr ++ wanted.description ++ ":\n" ++
          shown ++ "\n" ++ spaces (column - 1) ++ "^ Here" ∧
      Pinpoints before after line column shown ∧
      ∀ other : text.Pos,
        Position.behind (beforeOffset other.offset.byteIdx text.toList) = ⟨line, column⟩ →
          other = place := by
  obtain ⟨before, after, hsplits⟩ := exists_splits place
  have hbefore := beforeOffset_of_splits hsplits
  refine ⟨before, after, _, _, _, hsplits, ?_, pinpoints_behind before after, ?_⟩
  · rw [hbefore, toList_of_splits hsplits]
    rfl
  · intro other hother
    apply place_eq_of_behind_eq
    rw [hother, hbefore]

/-- Eight bytes are six characters here, and the line ends with a carriage return and a newline. -/
example :
    (SyntaxError.mismatch (beforeOffset 8 "Maß\r\nß;".toList) .name).report "Maß\r\nß;".toList =
      "line 2, column 2. Expected a name:\nß;\n ^ Here" := by
  decide

end RelPlan
