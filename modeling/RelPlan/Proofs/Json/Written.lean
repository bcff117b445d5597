import Mathlib.Data.List.Forall2
import RelPlan.Json.Structure
import RelPlan.Proofs.Json.Numbers
import RelPlan.Proofs.Json.Strings

/-!
# Reading back a written value

A reader reads a value as `a` (`Reads`) if it makes `a` of every text of the value: in either
layout, at any depth, behind any blanks and in front of anything that does not prolong a number.
This is passed on from the parts of a value to the whole, with a law for every reader of arrays
(`reads_list`), objects (`exists_members`) and records (`reads_recordOfTwo`). Of a value that is
kept for later all is kept but the words, as long as it is not nested too deep (`reads_keep`).
-/

namespace RelPlan.Json

variable {α β σ : Type} {layout : Layout} {depth : Nat} {bs rest : List Char} {v w : Value}
  {vs : List Value} {ms : List (String × Value)}

/-! ### Blanks -/

/-- There are only blanks. -/
def Blanks (cs : List Char) : Prop := ∀ c ∈ cs, isBlank c

theorem skipBlanks_append (hbs : Blanks bs) (hrest : Stops isBlank rest) :
    skipBlanks (bs ++ rest) = rest :=
  dropWhile_append_of_stops hbs hrest

theorem skipBlanks_cons {c : Char} (h : isBlank c = false) (cs : List Char) :
    skipBlanks (c :: cs) = c :: cs :=
  dropWhile_of_stops (stops_cons.2 h)

theorem blanks_gap (layout : Layout) (depth : Nat) : Blanks (layout.gap depth) := by
  intro c hc
  cases layout with
  | compact => cases hc
  | pretty =>
    rcases List.mem_cons.1 hc with rfl | hc
    · rfl
    · rw [List.eq_of_mem_replicate hc]
      rfl

theorem skipBlanks_gap (layout : Layout) (depth : Nat) {c : Char} {cs : List Char}
    (h : isBlank c = false) : skipBlanks (layout.gap depth ++ c :: cs) = c :: cs :=
  skipBlanks_append (blanks_gap layout depth) (stops_cons.2 h)

/-- Behind the colon there are blanks, and then the value. -/
theorem exists_colon (layout : Layout) (rest : List Char) :
    ∃ bs, Blanks bs ∧ colon (layout.colon ++ rest) = .ok ((), bs ++ rest) := by
  cases layout with
  | compact => exact ⟨[], nofun, rfl⟩
  | pretty => exact ⟨[' '], by simp [Blanks, isBlank], rfl⟩

/-! ### Where the parts of a value begin -/

theorem isBlank_of_isDigit {c : Char} (h : c.isDigit) : isBlank c = false := by
  by_contra hblank
  simp only [isBlank, Bool.not_eq_false, Bool.decide_or, Bool.or_eq_true,
    decide_eq_true_eq] at hblank
  rcases hblank with rfl | rfl | rfl | rfl <;> exact absurd h (by decide)

theorem exists_text_eq_cons (n : Count) : ∃ d ds, n.text.toList = d :: ds ∧ d.isDigit := by
  rw [Count.text, Nat.toList_repr]
  exact exists_toDigits_eq_cons n.toNat

/-- A written value begins with neither a blank nor the end of an array. -/
theorem exists_render_eq_cons (layout : Layout) (depth : Nat) (v : Value) :
    ∃ c cs, v.render layout depth = c :: cs ∧ isBlank c = false ∧ c ≠ ']' := by
  cases v with
  | truth b => cases b <;> exact ⟨_, _, rfl, rfl, by decide⟩
  | number n =>
    obtain ⟨d, ds, hd, hdigit⟩ := exists_text_eq_cons n
    refine ⟨d, ds, hd, isBlank_of_isDigit hdigit, ?_⟩
    rintro rfl
    exact absurd hdigit (by decide)
  | text s => exact ⟨_, _, rfl, rfl, by decide⟩
  | array vs => cases vs <;> exact ⟨_, _, rfl, rfl, by decide⟩
  | object ms => cases ms <;> exact ⟨_, _, rfl, rfl, by decide⟩

theorem skipBlanks_render (hbs : Blanks bs) :
    skipBlanks (bs ++ (v.render layout depth ++ rest)) = v.render layout depth ++ rest := by
  refine skipBlanks_append hbs ?_
  obtain ⟨c, cs, hc, hblank, -⟩ := exists_render_eq_cons layout depth v
  rw [hc]
  exact stops_cons.2 hblank

theorem stops_renderItems : Stops isNumeral (Value.renderItems layout depth vs ++ rest) := by
  cases vs <;> cases layout <;> exact stops_cons.2 rfl

theorem stops_renderMembers : Stops isNumeral (Value.renderMembers layout depth ms ++ rest) := by
  cases ms <;> cases layout <;> exact stops_cons.2 rfl

theorem length_lt_renderItems (layout : Layout) (depth : Nat) (vs : List Value) :
    vs.length < (Value.renderItems layout depth vs).length := by
  induction vs with
  | nil => simp [Value.renderItems]
  | cons v vs ih =>
    simp only [Value.renderItems, List.length_cons, List.length_append]
    omega

theorem length_lt_renderMembers (layout : Layout) (depth : Nat) (ms : List (String × Value)) :
    ms.length < (Value.renderMembers layout depth ms).length := by
  induction ms with
  | nil => simp [Value.renderMembers]
  | cons m ms ih =>
    simp only [Value.renderMembers, List.length_cons, List.length_append]
    omega

/-! ### Values -/

/-- The reader makes `a` of the value, however that is written. -/
def Reads (read : Reader α) (v : Value) (a : α) : Prop :=
  ∀ (layout : Layout) (depth : Nat) (bs rest : List Char), Blanks bs → Stops isNumeral rest →
    read (bs ++ (v.render layout depth ++ rest)) = .ok (a, rest)

/-- A reader may go on from what another one has read. -/
theorem Reads.of_eq_ok {read : Reader α} {next : Reader β} {a : α} {b : β} (h : Reads read v a)
    (hnext : ∀ cs rest, read cs = .ok (a, rest) → next cs = .ok (b, rest)) : Reads next v b := by
  intro layout depth bs rest hbs hrest
  exact hnext _ rest (h layout depth bs rest hbs hrest)

/-- A value that is read can be a text of its own. -/
theorem Reads.whole_toText {read : Reader α} {a : α} (h : Reads read v a) (layout : Layout) :
    whole read (v.toText layout) = .ok a := by
  have hread := h layout 0 [] [] nofun stops_nil
  rw [List.nil_append, List.append_nil] at hread
  rw [whole, Value.toText, String.toList_ofList, hread]
  rfl

theorem reads_text (s : String) : Reads text (.text s) s := by
  intro layout depth bs rest hbs hrest
  rw [text, skipBlanks_render hbs, Value.render, quote, List.cons_append, List.append_assoc]
  exact string_written s rest

theorem reads_count (n : Count) : Reads count (.number n) n := by
  intro layout depth bs rest hbs hrest
  have hnumber := number_written n hrest
  obtain ⟨d, ds, hd, hdigit⟩ := exists_text_eq_cons n
  rw [hd, List.cons_append] at hnumber
  rw [count, skipBlanks_render hbs, Value.render, hd, List.cons_append]
  simp only [hdigit, or_true, if_true, hnumber]
  rfl

theorem reads_truth (b : Bool) : Reads truth (.truth b) b := by
  intro layout depth bs rest hbs _
  rw [truth, skipBlanks_render hbs]
  cases b <;> rfl

/-! ### Arrays -/

variable {item : Reader α} {as : List α}

theorem furtherItems_written (layout : Layout) (depth : Nat) (h : List.Forall₂ (Reads item) vs as)
    {n : Nat} (hn : vs.length < n) (rest : List Char) :
    furtherItems item n (Value.renderItems layout depth vs ++ rest) = .ok (as, rest) := by
  induction h generalizing n with
  | nil =>
    obtain ⟨n, rfl⟩ := Nat.exists_eq_succ_of_ne_zero (Nat.ne_of_gt hn)
    rw [Value.renderItems, List.append_assoc, List.singleton_append, furtherItems,
      skipBlanks_gap layout depth rfl]
    rfl
  | @cons v a vs as hv _ ih =>
    obtain ⟨n, rfl⟩ := Nat.exists_eq_succ_of_ne_zero (Nat.ne_of_gt (Nat.zero_lt_of_lt hn))
    have hitem := hv layout (depth + 1) _ (Value.renderItems layout depth vs ++ rest)
      (blanks_gap layout (depth + 1)) stops_renderItems
    have hmore := ih (Nat.lt_of_succ_lt_succ hn)
    rw [Value.renderItems, List.cons_append, List.append_assoc, List.append_assoc, furtherItems,
      skipBlanks_cons rfl]
    simp only [hitem, hmore, bind, Except.bind, pure, Except.pure]

/-- If every item is read, the items of the array are read behind its opening bracket. -/
theorem exists_items (h : List.Forall₂ (Reads item) vs as) (layout : Layout) (depth : Nat) :
    ∃ body, (Value.array vs).render layout depth = '[' :: body ∧
      ∀ rest, items item (body ++ rest) = .ok (as, rest) := by
  cases h with
  | nil => exact ⟨[']'], rfl, fun _ => rfl⟩
  | @cons v a vs as hv hvs =>
    refine ⟨_, by rw [Value.render, List.append_assoc], ?_⟩
    intro rest
    have hbound : vs.length < (Value.renderItems layout depth vs ++ rest).length + 1 := by
      have hvs := length_lt_renderItems layout depth vs
      rw [List.length_append]
      omega
    have hitem := hv layout (depth + 1) [] (Value.renderItems layout depth vs ++ rest) nofun
      stops_renderItems
    have hmore := furtherItems_written layout depth hvs hbound rest
    obtain ⟨c, cs, hc, -, hne⟩ := exists_render_eq_cons layout (depth + 1) v
    rw [List.append_assoc, List.append_assoc, items, skipBlanks_render (blanks_gap _ _)]
    rw [List.nil_append, hc, List.cons_append] at hitem
    rw [hc, List.cons_append]
    split
    · next h =>
      cases h
      exact absurd rfl hne
    · simp only [hitem, hmore, bind, Except.bind, pure, Except.pure]

theorem reads_list (h : List.Forall₂ (Reads item) vs as) : Reads (list item) (.array vs) as := by
  intro layout depth bs rest hbs _
  obtain ⟨body, hbody, hitems⟩ := exists_items h layout depth
  rw [list, skipBlanks_render hbs, hbody]
  exact hitems rest

/-- A list is read if each member is. -/
theorem reads_list_map {toJson : α → Value} (h : ∀ a, Reads item (toJson a) a) (as : List α) :
    Reads (list item) (.array (as.map toJson)) as :=
  reads_list (List.forall₂_map_left_iff.2 (List.forall₂_same.2 fun a _ => h a))

/-! ### Objects -/

/-- The reader makes `a` of the value behind the name of a member. -/
def ReadsMember (read : Reader α) (v : Value) (a : α) : Prop :=
  ∀ (layout : Layout) (depth : Nat) (rest : List Char), Stops isNumeral rest →
    read (layout.colon ++ (v.render layout depth ++ rest)) = .ok (a, rest)

theorem Reads.afterColon {read : Reader α} {a : α} (h : Reads read v a) :
    ReadsMember (afterColon read) v a := by
  intro layout depth rest hrest
  obtain ⟨bs, hbs, hcolon⟩ := exists_colon layout (v.render layout depth ++ rest)
  rw [Json.afterColon, hcolon]
  exact h layout depth bs rest hbs hrest

/-- The members take one state to the other, one by one. -/
inductive ReadsMembers (member : σ → String → Reader σ) : σ → List (String × Value) → σ → Prop
  /-- There are no members. -/
  | nil {s : σ} : ReadsMembers member s [] s
  /-- The first member is read, then the others. -/
  | cons {s t u : σ} {k : String} {v : Value} {ms : List (String × Value)}
    (h : ReadsMember (member s k) v t) (hms : ReadsMembers member t ms u) :
    ReadsMembers member s ((k, v) :: ms) u

variable {member : σ → String → Reader σ} {s t : σ}

theorem furtherMembers_written (layout : Layout) (depth : Nat) (h : ReadsMembers member s ms t)
    {n : Nat} (hn : ms.length < n) (rest : List Char) :
    furtherMembers string member n s (Value.renderMembers layout depth ms ++ rest) =
      .ok (t, rest) := by
  induction h generalizing n with
  | nil =>
    obtain ⟨n, rfl⟩ := Nat.exists_eq_succ_of_ne_zero (Nat.ne_of_gt hn)
    rw [Value.renderMembers, List.append_assoc, List.singleton_append, furtherMembers,
      skipBlanks_gap layout depth rfl]
    rfl
  | @cons s t u k v ms hv _ ih =>
    obtain ⟨n, rfl⟩ := Nat.exists_eq_succ_of_ne_zero (Nat.ne_of_gt (Nat.zero_lt_of_lt hn))
    have hname := string_written k (layout.colon ++ (v.render layout (depth + 1) ++
      (Value.renderMembers layout depth ms ++ rest)))
    have hmember := hv layout (depth + 1) (Value.renderMembers layout depth ms ++ rest)
      stops_renderMembers
    have hmore := ih (Nat.lt_of_succ_lt_succ hn)
    simp only [Value.renderMembers, quote, List.cons_append, List.append_assoc, List.nil_append]
    have hquote (cs : List Char) : skipBlanks (layout.gap (depth + 1) ++ '"' :: cs) = '"' :: cs :=
      skipBlanks_gap layout (depth + 1) rfl
    rw [furtherMembers, skipBlanks_cons rfl]
    simp only [hquote, hname, hmember, hmore, bind, Except.bind]

/-- If the members are read one by one, they are read behind the opening bracket of the object. -/
theorem exists_members (h : ReadsMembers member s ms t) (layout : Layout) (depth : Nat) :
    ∃ body, (Value.object ms).render layout depth = '{' :: body ∧
      ∀ rest, members string member s (body ++ rest) = .ok (t, rest) := by
  cases h with
  | nil => exact ⟨['}'], rfl, fun _ => rfl⟩
  | @cons _ t _ k v ms hv hms =>
    refine ⟨_, by rw [Value.render], ?_⟩
    intro rest
    have hbound : ms.length < (Value.renderMembers layout depth ms ++ rest).length + 1 := by
      have hms := length_lt_renderMembers layout depth ms
      rw [List.length_append]
      omega
    have hname := string_written k (layout.colon ++ (v.render layout (depth + 1) ++
      (Value.renderMembers layout depth ms ++ rest)))
    have hmember := hv layout (depth + 1) (Value.renderMembers layout depth ms ++ rest)
      stops_renderMembers
    have hmore := furtherMembers_written layout depth hms hbound rest
    simp only [quote, List.cons_append, List.append_assoc, List.nil_append]
    rw [members, skipBlanks_gap layout (depth + 1) rfl]
    simp only [hname, hmember, hmore, bind, Except.bind]

/-! ### Records -/

theorem Field.readsMember_readOnce {f : Field α} {a : α} (h : Reads f.read v a) :
    ReadsMember (f.readOnce none) v (some a) := by
  intro layout depth rest hrest
  rw [Field.readOnce, h.afterColon layout depth rest hrest]
  rfl

theorem Field.value_some (f : Field α) (a : α) : f.value (some a) = .ok a := rfl

theorem memberOfOne_self (f : Field α) (met : Option α) :
    memberOfOne f met f.name = f.readOnce met := by
  funext cs
  rw [memberOfOne, if_pos rfl]

theorem reads_recordOfOne {f : Field α} {a : α} (h : Reads f.read v a) :
    Reads (recordOfOne f) (.object [(f.name, v)]) a := by
  intro layout depth bs rest hbs _
  have hmember : ReadsMember (memberOfOne f none f.name) v (some a) := by
    rw [memberOfOne_self]
    exact Field.readsMember_readOnce h
  obtain ⟨body, hbody, hmembers⟩ := exists_members (.cons hmember .nil) layout depth
  rw [recordOfOne, skipBlanks_render hbs, hbody]
  simp only [List.cons_append, hmembers, Field.value_some, bind, Except.bind, pure, Except.pure]

variable {f : Field α} {g : Field β} {a : α} {b : β}

theorem memberOfTwo_first (f : Field α) (g : Field β) (met : Option α × Option β)
    (h : ReadsMember (f.readOnce met.1) v (some a)) :
    ReadsMember (memberOfTwo f g met f.name) v (some a, met.2) := by
  intro layout depth rest hrest
  rw [memberOfTwo, if_pos rfl, h layout depth rest hrest]
  rfl

theorem memberOfTwo_second (f : Field α) (g : Field β) (met : Option α × Option β)
    (hne : f.name ≠ g.name) (h : ReadsMember (g.readOnce met.2) v (some b)) :
    ReadsMember (memberOfTwo f g met g.name) v (met.1, some b) := by
  intro layout depth rest hrest
  rw [memberOfTwo, if_neg hne.symm, if_pos rfl, h layout depth rest hrest]
  rfl

theorem reads_recordOfTwo (hne : f.name ≠ g.name) (hf : Reads f.read v a) (hg : Reads g.read w b) :
    Reads (recordOfTwo f g) (.object [(f.name, v), (g.name, w)]) (a, b) := by
  intro layout depth bs rest hbs _
  have hfirst := memberOfTwo_first f g (none, none) (Field.readsMember_readOnce hf)
  have hsecond := memberOfTwo_second f g (some a, none) hne (Field.readsMember_readOnce hg)
  obtain ⟨body, hbody, hmembers⟩ := exists_members (.cons hfirst (.cons hsecond .nil)) layout depth
  rw [recordOfTwo, skipBlanks_render hbs, hbody]
  simp only [List.cons_append, hmembers, Field.value_some, bind, Except.bind, pure, Except.pure]

/-! ### Values that are kept -/

namespace Value

mutual

/-- What is kept of a value. -/
def kept : Value → Kept
  | truth _ => .other
  | number n => .count n
  | text s => .text s
  | array vs => .array (keptItems vs)
  | object ms => .object (keptMembers ms)

/-- What is kept of the items of an array. -/
def keptItems : List Value → List Kept
  | [] => []
  | v :: vs => v.kept :: keptItems vs

/-- What is kept of the members of an object. -/
def keptMembers : List (String × Value) → List (String × Kept)
  | [] => []
  | (k, v) :: ms => (k, v.kept) :: keptMembers ms

end

/-- Arrays and objects stand in each other at most as deep as the bound. -/
def NestsWithin : Nat → Value → Prop
  | depth + 1, array vs => ∀ v ∈ vs, v.NestsWithin depth
  | depth + 1, object ms => ∀ m ∈ ms, m.2.NestsWithin depth
  | 0, array _ => False
  | 0, object _ => False
  | _, _ => True

theorem keptItems_eq_map (vs : List Value) : keptItems vs = vs.map kept := by
  induction vs with
  | nil => rfl
  | cons v vs ih => rw [keptItems, ih, List.map_cons]

end Value

theorem reads_keep_truth (b : Bool) : Reads (keep depth) (.truth b) .other := by
  intro layout _ bs rest hbs _
  rw [keep, skipBlanks_render hbs]
  cases b <;> rfl

theorem reads_keep_number (n : Count) : Reads (keep depth) (.number n) (.count n) := by
  intro layout _ bs rest hbs hrest
  have hnumber := number_written n hrest
  obtain ⟨d, ds, hd, hdigit⟩ := exists_text_eq_cons n
  rw [hd, List.cons_append] at hnumber
  rw [keep, skipBlanks_render hbs, Value.render, hd, List.cons_append]
  split <;> rename_i heq <;> cases heq
  case h_8 => simp only [hdigit, or_true, if_true, hnumber, bind, Except.bind, pure, Except.pure]
  -- no digit begins a word, a string, an array or an object
  all_goals exact absurd hdigit (by decide)

theorem reads_keep_text (s : String) : Reads (keep depth) (.text s) (.text s) := by
  intro layout _ bs rest hbs _
  rw [keep, skipBlanks_render hbs, Value.render, quote, List.cons_append, List.append_assoc]
  simp only [List.singleton_append, string_written, bind, Except.bind, pure, Except.pure]

theorem reads_keep_array (h : ∀ v ∈ vs, Reads (keep depth) v v.kept) :
    Reads (keep (depth + 1)) (.array vs) (.array (Value.keptItems vs)) := by
  intro layout outer bs rest hbs _
  have hitems : List.Forall₂ (Reads (keep depth)) vs (Value.keptItems vs) := by
    rw [Value.keptItems_eq_map, List.forall₂_map_right_iff]
    exact List.forall₂_same.2 h
  obtain ⟨body, hbody, hread⟩ := exists_items hitems layout outer
  rw [keep, skipBlanks_render hbs, hbody]
  simp only [List.cons_append, hread, bind, Except.bind, pure, Except.pure]

/-- A member that is kept comes behind those that were kept before. -/
def keepMember (depth : Nat) (before : List (String × Kept)) (k : String) :
    Reader (List (String × Kept)) := fun cs => do
  let (v, rest) ← afterColon (keep depth) cs
  return (before ++ [(k, v)], rest)

theorem readsMembers_keepMember (h : ∀ m ∈ ms, Reads (keep depth) m.2 m.2.kept)
    (before : List (String × Kept)) :
    ReadsMembers (keepMember depth) before ms (before ++ Value.keptMembers ms) := by
  induction ms generalizing before with
  | nil =>
    rw [Value.keptMembers, List.append_nil]
    exact .nil
  | cons m ms ih =>
    obtain ⟨hm, hms⟩ := List.forall_mem_cons.1 h
    have hmember : ReadsMember (keepMember depth before m.1) m.2 (before ++ [(m.1, m.2.kept)]) := by
      intro layout outer rest hrest
      rw [keepMember, hm.afterColon layout outer rest hrest]
      rfl
    have hmore := ih hms (before ++ [(m.1, m.2.kept)])
    rw [List.append_assoc] at hmore
    exact .cons hmember hmore

theorem reads_keep_object (h : ∀ m ∈ ms, Reads (keep depth) m.2 m.2.kept) :
    Reads (keep (depth + 1)) (.object ms) (.object (Value.keptMembers ms)) := by
  intro layout outer bs rest hbs _
  obtain ⟨body, hbody, hread⟩ := exists_members (readsMembers_keepMember h []) layout outer
  rw [keep, skipBlanks_render hbs, hbody]
  exact bind_eq_ok_iff.2 ⟨(_, rest), hread rest, rfl⟩

/-- **What is kept**: a value that is not nested too deep is kept as a whole, but for the words in
it. -/
theorem reads_keep : ∀ {depth : Nat} {v : Value}, v.NestsWithin depth → Reads (keep depth) v v.kept
  | _, .truth b, _ => reads_keep_truth b
  | _, .number n, _ => reads_keep_number n
  | _, .text s, _ => reads_keep_text s
  | 0, .array _, h => h.elim
  | 0, .object _, h => h.elim
  | _ + 1, .array _, h => reads_keep_array fun v hv => reads_keep (h v hv)
  | _ + 1, .object _, h => reads_keep_object fun m hm => reads_keep (h m hm)

end RelPlan.Json
