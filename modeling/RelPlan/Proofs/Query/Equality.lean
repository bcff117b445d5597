import RelPlan.Proofs.Query.Parsing

/-!
# Conditions between two names

A condition compares an attribute with a text, with a number or with a second attribute, and its
reader tries these forms in this order (`Query.comparison`). Names may begin with a digit. So the
two sides of the equals sign are not treated alike: a name on the left is read whole, while a name
on the right that begins with a digit is taken for a number and broken off behind its digits
(`Query.condition_of_names`). Two names can be compared both ways round exactly if neither of them
begins with a digit (`Query.equality_swaps_iff`).
-/

namespace RelPlan.Query

variable {a b : String} {cs equals front rest : List Char}

/-- A text that is taken whole as a name is a name. -/
theorem nameForm_of_name (h : name a.toList = .ok (a, [])) : NameForm a a.toList := by
  obtain ⟨front, hform, hfront⟩ := reads_name.sound h
  rwa [hfront, List.append_nil]

/-! ### A name on the right -/

/-- The digits in front of a name are a number, and no point stands behind them. -/
theorem number_of_name (hb : NameForm b cs) (hdigit : ¬ Stops Char.isDigit cs) :
    number cs = .ok (String.ofList (cs.takeWhile Char.isDigit), cs.dropWhile Char.isDigit) := by
  obtain ⟨-, hall⟩ := hb
  obtain ⟨hdigits, hcs⟩ := takeWhile_spec Char.isDigit cs
  have hne : cs.takeWhile Char.isDigit ≠ [] := fun he => hdigit (stops_of_takeWhile_eq_nil he)
  have hfigure : Stops isFigure (cs.dropWhile Char.isDigit) := by
    intro c hc
    have hmem : c ∈ cs := (List.dropWhile_suffix _).subset (List.mem_of_mem_head? hc)
    have hpoint : c ≠ '.' := by
      rintro rfl
      simpa [isNameChar_of_mem_marks (c := '.') (by decide)] using hall _ hmem
    have hdigit : c.isDigit = false := stops_dropWhile Char.isDigit cs c hc
    simp [isFigure, hdigit, hpoint]
  have hform : NumberForm (cs.takeWhile Char.isDigit) := .positive (.whole ⟨hne, hdigits⟩)
  have h := reads_number.complete ⟨rfl, hform⟩ hfigure
  rwa [← hcs] at h

/-- A name that begins with a digit is read as a number. -/
theorem comparison_of_digit (hb : NameForm b cs) (hdigit : ¬ Stops Char.isDigit cs) :
    comparison a cs =
      .ok (.literal a (String.ofList (cs.takeWhile Char.isDigit)), cs.dropWhile Char.isDigit) := by
  have hquote : Stops (· = '"') (cs ++ []) := hb.stops (by simp [marks])
  rw [List.append_nil] at hquote
  rw [comparison, quoted_eq_error hquote]
  simp only [number_of_name hb hdigit]

/-- What is read of two names with an equals sign between them: the whole, unless the right one
begins with a digit; of that one, its digits only. -/
theorem condition_of_names (ha : NameForm a front) (hequals : Spaced '=' equals)
    (hb : NameForm b cs) :
    (Stops Char.isDigit cs →
      condition (front ++ (equals ++ cs)) = .ok (.equality a b, [])) ∧
    (¬ Stops Char.isDigit cs →
      condition (front ++ (equals ++ cs)) =
        .ok (.literal a (String.ofList (cs.takeWhile Char.isDigit)),
          cs.dropWhile Char.isDigit)) := by
  have hblank : Stops isBlank (cs ++ []) := readsItem_name.start [] hb
  rw [List.append_nil] at hblank
  rw [condition_append ha hequals hblank]
  refine ⟨fun hdigit => ?_, comparison_of_digit hb⟩
  simpa using comparison_of_name hb (by simpa using hdigit) stops_nil

/-! ### Both ways round -/

/-- **Both ways round**: of two names, either can stand on either side of the equals sign, with any
blanks around it, exactly if neither begins with a digit. -/
theorem equality_swaps_iff (ha : name a.toList = .ok (a, [])) (hb : name b.toList = .ok (b, [])) :
    (∀ equals, Spaced '=' equals →
      condition (a.toList ++ (equals ++ b.toList)) = .ok (.equality a b, []) ∧
      condition (b.toList ++ (equals ++ a.toList)) = .ok (.equality b a, [])) ↔
    Stops Char.isDigit a.toList ∧ Stops Char.isDigit b.toList := by
  have ha := nameForm_of_name ha
  have hb := nameForm_of_name hb
  constructor
  · intro h
    have hequals : Spaced '=' ['='] := .mk blanks_nil blanks_nil
    obtain ⟨hab, hba⟩ := h ['='] hequals
    constructor
    · by_contra hdigit
      rw [(condition_of_names hb hequals ha).2 hdigit] at hba
      cases hba
    · by_contra hdigit
      rw [(condition_of_names ha hequals hb).2 hdigit] at hab
      cases hab
  · rintro ⟨hastop, hbstop⟩ equals hequals
    exact ⟨(condition_of_names ha hequals hb).1 hbstop, (condition_of_names hb hequals ha).1 hastop⟩

theorem equality_swaps_room_seat3 :
    name "room".toList = .ok ("room", []) ∧ name "seat3".toList = .ok ("seat3", []) ∧
      ∀ equals, Spaced '=' equals →
        condition ("room".toList ++ (equals ++ "seat3".toList)) =
            .ok (.equality "room" "seat3", []) ∧
          condition ("seat3".toList ++ (equals ++ "room".toList)) =
            .ok (.equality "seat3" "room", []) := by
  have hroom : name "room".toList = .ok ("room", []) := by decide +kernel
  have hseat : name "seat3".toList = .ok ("seat3", []) := by decide +kernel
  refine ⟨hroom, hseat, (equality_swaps_iff hroom hseat).2 ⟨?_, ?_⟩⟩
  · exact stops_cons.2 (by decide)
  · exact stops_cons.2 (by decide)

/-- It is not enough that neither name is a number: `room = 3rd` is read as `room = 3`. -/
theorem room_3rd_not_equality :
    ¬ ∀ a b : String, name a.toList = .ok (a, []) → name b.toList = .ok (b, []) →
      ¬ DigitsForm a.toList → ¬ DigitsForm b.toList → ∀ equals, Spaced '=' equals →
        condition (a.toList ++ (equals ++ b.toList)) = .ok (.equality a b, []) ∧
          condition (b.toList ++ (equals ++ a.toList)) = .ok (.equality b a, []) := by
  intro h
  have hroom : ¬ DigitsForm "room".toList := fun hall => absurd (hall.2 'r' (by decide)) (by decide)
  have h3rd : ¬ DigitsForm "3rd".toList := fun hall => absurd (hall.2 'r' (by decide)) (by decide)
  have hblanks : Blanks [' '] := by simp [Blanks, isBlank]
  have hequals : Spaced '=' ([' '] ++ '=' :: [' ']) := .mk hblanks hblanks
  have hread := (h "room" "3rd" (by decide +kernel) (by decide +kernel) hroom h3rd _ hequals).1
  have hfalse : condition "room = 3rd".toList = .ok (.literal "room" "3", ['r', 'd']) := by
    decide +kernel
  cases hfalse.symm.trans hread

end RelPlan.Query
