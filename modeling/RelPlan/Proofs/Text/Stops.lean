import Mathlib.Data.List.TakeWhile

/-!
# Where a text stops

A reader takes a run of characters of one class and leaves the text behind it, which must not begin
with a further character of that class. The lemmas here say what `List.takeWhile` and
`List.dropWhile` make of a run with such a text behind it.
-/

namespace RelPlan

variable {p q : Char → Bool} {c : Char} {cs front rest : List Char}

/-- The text does not begin with a character of the class. -/
def Stops (p : Char → Bool) (cs : List Char) : Prop := ∀ c ∈ cs.head?, p c = false

@[simp] theorem stops_nil : Stops p [] := nofun

@[simp] theorem stops_cons : Stops p (c :: cs) ↔ p c = false := by
  simp [Stops]

theorem Stops.mono (h : Stops q cs) (hpq : ∀ c, p c → q c) : Stops p cs := by
  intro c hc
  have hq := h c hc
  by_contra hp
  rw [Bool.not_eq_false] at hp
  simp [hpq c hp] at hq

theorem takeWhile_of_stops (h : Stops p cs) : cs.takeWhile p = [] := by
  cases cs with
  | nil => rfl
  | cons c cs => simp [stops_cons.1 h]

theorem stops_of_takeWhile_eq_nil (h : cs.takeWhile p = []) : Stops p cs := by
  cases cs with
  | nil => exact stops_nil
  | cons c cs =>
    by_cases hc : p c
    · simp [hc] at h
    · simpa using hc

/-- Where a text stops is seen from its first character. -/
theorem Stops.of_head?_eq (h : Stops p cs) (hhead : rest.head? = cs.head?) : Stops p rest := by
  rwa [Stops, hhead]

theorem dropWhile_of_stops (h : Stops p cs) : cs.dropWhile p = cs := by
  cases cs with
  | nil => rfl
  | cons c cs => simp [stops_cons.1 h]

theorem takeWhile_append_of_stops (hfront : ∀ c ∈ front, p c) (hrest : Stops p rest) :
    (front ++ rest).takeWhile p = front := by
  rw [List.takeWhile_append_of_pos hfront, takeWhile_of_stops hrest, List.append_nil]

theorem dropWhile_append_of_stops (hfront : ∀ c ∈ front, p c) (hrest : Stops p rest) :
    (front ++ rest).dropWhile p = rest := by
  rw [List.dropWhile_append_of_pos hfront, dropWhile_of_stops hrest]

/-- A text is a run of characters of a class and what stands behind the run. -/
theorem takeWhile_spec (p : Char → Bool) (cs : List Char) :
    (∀ c ∈ cs.takeWhile p, p c) ∧ cs = cs.takeWhile p ++ cs.dropWhile p :=
  ⟨fun _ hc => List.mem_takeWhile_imp hc, List.takeWhile_append_dropWhile.symm⟩

/-- Behind a run of characters of a class the text does not begin with a further one. -/
theorem stops_dropWhile (p : Char → Bool) (cs : List Char) : Stops p (cs.dropWhile p) := by
  induction cs with
  | nil => exact stops_nil
  | cons c cs ih =>
    rw [List.dropWhile_cons]
    split
    · exact ih
    · next hc => simpa using hc

/-- Characters of one class keep a text from beginning with one of another. -/
theorem stops_append (hne : front ≠ []) (hall : ∀ c ∈ front, q c) (hqp : ∀ c, q c → p c = false) :
    Stops p (front ++ rest) := by
  cases front with
  | nil => exact absurd rfl hne
  | cons c front => exact stops_cons.2 (hqp c (hall c List.mem_cons_self))

/-- Two runs of characters of a class, with texts behind them that do not go on with further ones,
are equal if they and those texts are equal taken together. -/
theorem append_inj_of_stops {front' rest' : List Char} (hfront : ∀ c ∈ front, p c)
    (hfront' : ∀ c ∈ front', p c) (hrest : Stops p rest) (hrest' : Stops p rest')
    (h : front ++ rest = front' ++ rest') : front = front' ∧ rest = rest' := by
  have htake := congrArg (List.takeWhile p) h
  rw [takeWhile_append_of_stops hfront hrest, takeWhile_append_of_stops hfront' hrest'] at htake
  exact ⟨htake, List.append_cancel_left (htake ▸ h)⟩

end RelPlan
