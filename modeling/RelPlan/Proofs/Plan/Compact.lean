import RelPlan.Plan.Compact
import RelPlan.Proofs.Plan.Nodes
import RelPlan.Proofs.Text.Stops
import RelPlan.Query.Parser

/-!
# What the compact form tells

The compact form of a plan shows neither statistics nor estimates. Everything else can be made out
from it, as long as the names are ones that a query can hold and no literal text holds a quote
(`Plan.compact_eq_iff`). Each part of the form ends where a character follows that cannot stand in
it; so two forms with further text behind them are equal only if their parts are equal one by one,
and with them what is left over (`Plan.compact_append_inj`).
-/

namespace RelPlan

open Query (isNameChar)

variable {rest rest' : List Char}

/-! ### Names -/

/-- One or more of the characters that names in queries are made of. -/
def IsName (name : String) : Prop := name.toList ≠ [] ∧ ∀ c ∈ name.toList, isNameChar c

instance (name : String) : Decidable (IsName name) :=
  decidable_of_iff (name.toList ≠ [] ∧ name.toList.all isNameChar) (by simp [IsName])

/-- The characters that stand in front of names or behind them. -/
def delimiters : List Char := [' ', ']', ',', '=', '"']

theorem isNameChar_of_mem_delimiters {c : Char} (h : c ∈ delimiters) : isNameChar c = false := by
  have hall : (delimiters.all fun c => !isNameChar c) = true := by decide +kernel
  simpa using List.all_eq_true.1 hall c h

theorem stops_delimiters {c : Char} (h : c ∈ delimiters) : Stops isNameChar (c :: rest) :=
  stops_cons.2 (isNameChar_of_mem_delimiters h)

theorem name_append_inj {a b : String} (ha : IsName a) (hb : IsName b)
    (hrest : Stops isNameChar rest) (hrest' : Stops isNameChar rest')
    (h : a.toList ++ rest = b.toList ++ rest') : a = b ∧ rest = rest' := by
  obtain ⟨hname, hbehind⟩ := append_inj_of_stops ha.2 hb.2 hrest hrest' h
  exact ⟨String.toList_inj.1 hname, hbehind⟩

/-- No name begins with a delimiter. -/
theorem name_append_ne {name : String} (hname : IsName name) {c : Char} (hc : c ∈ delimiters) :
    name.toList ++ rest ≠ c :: rest' := by
  intro h
  have hfirst : Stops (fun d => d = c) (name.toList ++ rest) := by
    refine stops_append hname.1 hname.2 fun d hd => ?_
    have hne : d ≠ c := by
      rintro rfl
      simp [isNameChar_of_mem_delimiters hc] at hd
    simpa using hne
  rw [h] at hfirst
  simp at hfirst

/-! ### Literals -/

theorem literal_append_inj {v w : String} (hv : '"' ∉ v.toList) (hw : '"' ∉ w.toList)
    (h : v.toList ++ '"' :: rest = w.toList ++ '"' :: rest') : v = w ∧ rest = rest' := by
  have hclass {s : String} (hs : '"' ∉ s.toList) : ∀ c ∈ s.toList, decide (c ≠ '"') := by
    intro c hc
    simpa using ne_of_mem_of_not_mem hc hs
  obtain ⟨hvalue, hbehind⟩ := append_inj_of_stops (hclass hv) (hclass hw) (stops_cons.2 (by simp))
    (stops_cons.2 (by simp)) h
  exact ⟨String.toList_inj.1 hvalue, (List.cons.inj hbehind).2⟩

/-! ### Lists of names -/

/-- Names with a comma in front of each. -/
def furtherNames (names : List String) : List Char := names.flatMap fun n => ',' :: n.toList

theorem toList_intercalate_cons (n : String) (ns : List String) :
    (",".intercalate (n :: ns)).toList = n.toList ++ furtherNames ns := by
  induction ns generalizing n with
  | nil => simp [furtherNames]
  | cons m ns ih =>
    rw [String.intercalate_cons_cons, String.toList_append, String.toList_append, ih m,
      List.append_assoc]
    rfl

theorem stops_furtherNames (names : List String) :
    Stops isNameChar (furtherNames names ++ ']' :: rest) := by
  cases names with
  | nil => exact stops_delimiters (by decide)
  | cons n ns => exact stops_delimiters (by decide)

theorem furtherNames_append_inj {as bs : List String} (has : ∀ a ∈ as, IsName a)
    (hbs : ∀ b ∈ bs, IsName b)
    (h : furtherNames as ++ ']' :: rest = furtherNames bs ++ ']' :: rest') :
    as = bs ∧ rest = rest' := by
  induction as generalizing bs with
  | nil =>
    cases bs with
    | nil => exact ⟨rfl, (List.cons.inj h).2⟩
    | cons b bs => simp [furtherNames] at h
  | cons a as ih =>
    cases bs with
    | nil => simp [furtherNames] at h
    | cons b bs =>
      rw [List.forall_mem_cons] at has hbs
      have hnames : a.toList ++ (furtherNames as ++ ']' :: rest) =
          b.toList ++ (furtherNames bs ++ ']' :: rest') := by
        simpa [furtherNames] using h
      obtain ⟨rfl, hmore⟩ := name_append_inj has.1 hbs.1 (stops_furtherNames as)
        (stops_furtherNames bs) hnames
      obtain ⟨rfl, hrest⟩ := ih has.2 hbs.2 hmore
      exact ⟨rfl, hrest⟩

theorem names_append_inj {as bs : List String} (has : ∀ a ∈ as, IsName a) (hbs : ∀ b ∈ bs, IsName b)
    (h : (",".intercalate as).toList ++ ']' :: rest = (",".intercalate bs).toList ++ ']' :: rest') :
    as = bs ∧ rest = rest' := by
  cases as with
  | nil =>
    cases bs with
    | nil => exact ⟨rfl, (List.cons.inj h).2⟩
    | cons b bs =>
      rw [toList_intercalate_cons, List.append_assoc] at h
      exact absurd h.symm (name_append_ne (hbs b List.mem_cons_self) (by decide))
  | cons a as =>
    cases bs with
    | nil =>
      rw [toList_intercalate_cons, List.append_assoc] at h
      exact absurd h (name_append_ne (has a List.mem_cons_self) (by decide))
    | cons b bs =>
      -- with a comma in front of either list, both are lists of further names
      apply furtherNames_append_inj has hbs
      rw [toList_intercalate_cons, toList_intercalate_cons] at h
      simpa [furtherNames] using h

/-! ### Predicates -/

namespace Predicate

variable {p q : Predicate}

/-- The predicate has names that a query can hold, and no quote in its literal. -/
def Plain : Predicate → Prop
  | literal a v => IsName a.name ∧ '"' ∉ v.toList
  | equality a b => IsName a.name ∧ IsName b.name

instance : (p : Predicate) → Decidable p.Plain
  | literal a v => inferInstanceAs (Decidable (IsName a.name ∧ '"' ∉ v.toList))
  | equality a b => inferInstanceAs (Decidable (IsName a.name ∧ IsName b.name))

theorem SameAs.text_eq (h : p.SameAs q) : p.text = q.text := by
  cases p with
  | literal a v =>
    cases q with
    | literal b w => rw [text, text, h.1, h.2]
    | equality b d => exact h.elim
  | equality a c =>
    cases q with
    | literal b w => exact h.elim
    | equality b d => rw [text, text, h.1, h.2]

/-- In front of a closing bracket the text of a predicate ends where the predicate does. -/
theorem text_append_inj (hp : p.Plain) (hq : q.Plain)
    (h : p.text.toList ++ ']' :: rest = q.text.toList ++ ']' :: rest') :
    p.SameAs q ∧ rest = rest' := by
  have hequals {cs : List Char} : Stops isNameChar ('=' :: cs) := stops_delimiters (by decide)
  have hclose {cs : List Char} : Stops isNameChar (']' :: cs) := stops_delimiters (by decide)
  cases p with
  | literal a v =>
    cases q with
    | literal b w =>
      have hparts : a.name.toList ++ '=' :: '"' :: (v.toList ++ '"' :: ']' :: rest) =
          b.name.toList ++ '=' :: '"' :: (w.toList ++ '"' :: ']' :: rest') := by
        simpa [text] using h
      obtain ⟨hname, hbehind⟩ := name_append_inj hp.1 hq.1 hequals hequals hparts
      have hvalue : v.toList ++ '"' :: ']' :: rest = w.toList ++ '"' :: ']' :: rest' := by
        simpa using hbehind
      obtain ⟨hv, hbehind⟩ := literal_append_inj hp.2 hq.2 hvalue
      exact ⟨⟨hname, hv⟩, (List.cons.inj hbehind).2⟩
    | equality b d =>
      have hparts : a.name.toList ++ '=' :: '"' :: (v.toList ++ '"' :: ']' :: rest) =
          b.name.toList ++ '=' :: (d.name.toList ++ ']' :: rest') := by
        simpa [text] using h
      obtain ⟨-, hbehind⟩ := name_append_inj hp.1 hq.1 hequals hequals hparts
      exact absurd (List.cons.inj hbehind).2.symm (name_append_ne hq.2 (by decide))
  | equality a c =>
    cases q with
    | literal b w =>
      have hparts : a.name.toList ++ '=' :: (c.name.toList ++ ']' :: rest) =
          b.name.toList ++ '=' :: '"' :: (w.toList ++ '"' :: ']' :: rest') := by
        simpa [text] using h
      obtain ⟨-, hbehind⟩ := name_append_inj hp.1 hq.1 hequals hequals hparts
      exact absurd (List.cons.inj hbehind).2 (name_append_ne hp.2 (by decide))
    | equality b d =>
      have hparts : a.name.toList ++ '=' :: (c.name.toList ++ ']' :: rest) =
          b.name.toList ++ '=' :: (d.name.toList ++ ']' :: rest') := by
        simpa [text] using h
      obtain ⟨hleft, hbehind⟩ := name_append_inj hp.1 hq.1 hequals hequals hparts
      obtain ⟨hright, hbehind⟩ := name_append_inj hp.2 hq.2 hclose hclose (List.cons.inj hbehind).2
      exact ⟨⟨hleft, hright⟩, (List.cons.inj hbehind).2⟩

end Predicate

/-! ### Plans -/

namespace Plan

variable {p q : Plan}

/-- The root has names that a query can hold, and no quote in a literal. -/
def PlainRoot : Plan → Prop
  | scan r _ => IsName r.name
  | select p _ _ => p.Plain
  | project as _ _ => ∀ n ∈ namesOf as, IsName n
  | product .. => True
  | join p .. => p.Plain

instance : DecidablePred PlainRoot
  | scan r _ => inferInstanceAs (Decidable (IsName r.name))
  | select p _ _ => inferInstanceAs (Decidable p.Plain)
  | project as _ _ => inferInstanceAs (Decidable (∀ n ∈ namesOf as, IsName n))
  | product .. => inferInstanceAs (Decidable True)
  | join p .. => inferInstanceAs (Decidable p.Plain)

/-- The plans have the same operators in the same places, with the same relation names, the same
lists of names and the same predicates; statistics and estimates may differ. -/
def SameAs : Plan → Plan → Prop
  | scan r _, scan s _ => r.name = s.name
  | select p i _, select q j _ => p.SameAs q ∧ i.SameAs j
  | project as i _, project bs j _ => namesOf as = namesOf bs ∧ i.SameAs j
  | product l r _, product l' r' _ => l.SameAs l' ∧ r.SameAs r'
  | join p l r _, join q l' r' _ => p.SameAs q ∧ l.SameAs l' ∧ r.SameAs r'
  | _, _ => False

/-- What stands behind the name of the operator and a blank. -/
def operands : Plan → List Char
  | scan r _ => '[' :: (r.name.toList ++ [']'])
  | select p i _ => '[' :: (p.text.toList ++ ']' :: ' ' :: '(' :: (i.compact.toList ++ [')']))
  | project as i _ =>
    '[' :: ((",".intercalate (namesOf as)).toList ++ ']' :: ' ' :: '(' ::
      (i.compact.toList ++ [')']))
  | product l r _ => '(' :: (l.compact.toList ++ ',' :: (r.compact.toList ++ [')']))
  | join p l r _ =>
    '[' :: (p.text.toList ++ ']' :: ' ' :: '(' ::
      (l.compact.toList ++ ',' :: (r.compact.toList ++ [')'])))

theorem toList_compact (p : Plan) :
    p.compact.toList = p.operator.name.toList ++ ' ' :: p.operands := by
  cases p <;> simp [compact, headline, operator, Operator.name, operands]

theorem operator_append_inj (h : p.compact.toList ++ rest = q.compact.toList ++ rest') :
    p.operator = q.operator ∧ p.operands ++ rest = q.operands ++ rest' := by
  have hname (o : Operator) : IsName o.name := by cases o <;> decide +kernel
  have hinj (o o' : Operator) (ho : o.name = o'.name) : o = o' := by
    cases o <;> cases o' <;> first | rfl | simp [Operator.name] at ho
  have hblank {cs : List Char} : Stops isNameChar (' ' :: cs) := stops_delimiters (by decide)
  rw [toList_compact, toList_compact, List.append_assoc, List.append_assoc] at h
  obtain ⟨ho, hbehind⟩ := name_append_inj (hname _) (hname _) hblank hblank h
  exact ⟨hinj _ _ ho, (List.cons.inj hbehind).2⟩

/-- The compact form ends where the plan does: if two of them are equal with further text behind
them, the plans are the same, and so are the further texts. -/
theorem compact_append_inj (hp : p.Everywhere PlainRoot) (hq : q.Everywhere PlainRoot)
    (h : p.compact.toList ++ rest = q.compact.toList ++ rest') : p.SameAs q ∧ rest = rest' := by
  induction p generalizing q rest rest' with
  | scan r o =>
    obtain ⟨ho, hoperands⟩ := operator_append_inj h
    cases q with
    | scan s o' =>
      have hname : r.name.toList ++ ']' :: rest = s.name.toList ++ ']' :: rest' := by
        simpa [operands] using hoperands
      have hclose {cs : List Char} : Stops isNameChar (']' :: cs) := stops_delimiters (by decide)
      obtain ⟨hname, hrest⟩ := name_append_inj hp hq hclose hclose hname
      exact ⟨hname, (List.cons.inj hrest).2⟩
    | _ => cases ho
  | select p i o ih =>
    obtain ⟨ho, hoperands⟩ := operator_append_inj h
    cases q with
    | select q j o' =>
      have hpred : p.text.toList ++ ']' :: ' ' :: '(' :: (i.compact.toList ++ ')' :: rest) =
          q.text.toList ++ ']' :: ' ' :: '(' :: (j.compact.toList ++ ')' :: rest') := by
        simpa [operands] using hoperands
      obtain ⟨hpred, hinput⟩ := Predicate.text_append_inj hp.1 hq.1 hpred
      obtain ⟨hinput, hrest⟩ := ih hp.2 hq.2 (by simpa using hinput)
      exact ⟨⟨hpred, hinput⟩, (List.cons.inj hrest).2⟩
    | _ => cases ho
  | project as i o ih =>
    obtain ⟨ho, hoperands⟩ := operator_append_inj h
    cases q with
    | project bs j o' =>
      have hnames : (",".intercalate (namesOf as)).toList ++ ']' :: ' ' :: '(' ::
            (i.compact.toList ++ ')' :: rest) =
          (",".intercalate (namesOf bs)).toList ++ ']' :: ' ' :: '(' ::
            (j.compact.toList ++ ')' :: rest') := by
        simpa [operands] using hoperands
      obtain ⟨hnames, hinput⟩ := names_append_inj hp.1 hq.1 hnames
      obtain ⟨hinput, hrest⟩ := ih hp.2 hq.2 (by simpa using hinput)
      exact ⟨⟨hnames, hinput⟩, (List.cons.inj hrest).2⟩
    | _ => cases ho
  | product l r o ihl ihr =>
    obtain ⟨ho, hoperands⟩ := operator_append_inj h
    cases q with
    | product l' r' o' =>
      have hleft : l.compact.toList ++ ',' :: (r.compact.toList ++ ')' :: rest) =
          l'.compact.toList ++ ',' :: (r'.compact.toList ++ ')' :: rest') := by
        simpa [operands] using hoperands
      obtain ⟨hleft, hright⟩ := ihl hp.2.1 hq.2.1 hleft
      obtain ⟨hright, hrest⟩ := ihr hp.2.2 hq.2.2 (List.cons.inj hright).2
      exact ⟨⟨hleft, hright⟩, (List.cons.inj hrest).2⟩
    | _ => cases ho
  | join p l r o ihl ihr =>
    obtain ⟨ho, hoperands⟩ := operator_append_inj h
    cases q with
    | join q l' r' o' =>
      have hpred : p.text.toList ++ ']' :: ' ' :: '(' ::
            (l.compact.toList ++ ',' :: (r.compact.toList ++ ')' :: rest)) =
          q.text.toList ++ ']' :: ' ' :: '(' ::
            (l'.compact.toList ++ ',' :: (r'.compact.toList ++ ')' :: rest')) := by
        simpa [operands] using hoperands
      obtain ⟨hpred, hinputs⟩ := Predicate.text_append_inj hp.1 hq.1 hpred
      obtain ⟨hleft, hright⟩ := ihl hp.2.1 hq.2.1 (by simpa using hinputs)
      obtain ⟨hright, hrest⟩ := ihr hp.2.2 hq.2.2 (List.cons.inj hright).2
      exact ⟨⟨hpred, hleft, hright⟩, (List.cons.inj hrest).2⟩
    | _ => cases ho

theorem sameAs_of_compact_eq (hp : p.Everywhere PlainRoot) (hq : q.Everywhere PlainRoot)
    (h : p.compact = q.compact) : p.SameAs q := by
  have hforms : p.compact.toList ++ [] = q.compact.toList ++ [] := by rw [h]
  exact (compact_append_inj hp hq hforms).1

/-- Induction over two plans that are the same, node by node. -/
@[elab_as_elim]
theorem SameAs.induction {motive : (p q : Plan) → p.SameAs q → Prop}
    (scan : ∀ {r s : BaseRelation} {o o'} (hname : r.name = s.name),
      motive (.scan r o) (.scan s o') hname)
    (select : ∀ {p q i j o o'} (hp : p.SameAs q) (hi : i.SameAs j), motive i j hi →
      motive (.select p i o) (.select q j o') ⟨hp, hi⟩)
    (project : ∀ {as bs i j o o'} (hnames : namesOf as = namesOf bs) (hi : i.SameAs j),
      motive i j hi → motive (.project as i o) (.project bs j o') ⟨hnames, hi⟩)
    (product : ∀ {l r l' r' o o'} (hl : l.SameAs l') (hr : r.SameAs r'), motive l l' hl →
      motive r r' hr → motive (.product l r o) (.product l' r' o') ⟨hl, hr⟩)
    (join : ∀ {p q l r l' r' o o'} (hp : p.SameAs q) (hl : l.SameAs l') (hr : r.SameAs r'),
      motive l l' hl → motive r r' hr → motive (.join p l r o) (.join q l' r' o') ⟨hp, hl, hr⟩)
    {p q : Plan} (h : p.SameAs q) : motive p q h := by
  induction p generalizing q with
  | scan r o =>
    cases q with
    | scan s o' => exact scan h
    | _ => exact h.elim
  | select p i o ih =>
    cases q with
    | select q j o' => exact select h.1 h.2 (ih h.2)
    | _ => exact h.elim
  | project as i o ih =>
    cases q with
    | project bs j o' => exact project h.1 h.2 (ih h.2)
    | _ => exact h.elim
  | product l r o ihl ihr =>
    cases q with
    | product l' r' o' => exact product h.1 h.2 (ihl h.1) (ihr h.2)
    | _ => exact h.elim
  | join p l r o ihl ihr =>
    cases q with
    | join q l' r' o' => exact join h.1 h.2.1 h.2.2 (ihl h.2.1) (ihr h.2.2)
    | _ => exact h.elim

theorem SameAs.compact_eq (h : p.SameAs q) : p.compact = q.compact := by
  induction h using SameAs.induction with
  | scan hname => rw [compact, compact, headline, headline, hname]
  | select hp _ ih => rw [compact, compact, headline, headline, hp.text_eq, ih]
  | project hnames _ ih => rw [compact, compact, headline, headline, hnames, ih]
  | product _ _ ihl ihr => rw [compact, compact, headline, headline, ihl, ihr]
  | join hp _ _ ihl ihr => rw [compact, compact, headline, headline, hp.text_eq, ihl, ihr]

/-- **The compact form** identifies a plan: two plans whose names are ones that a query can hold,
and whose literals have no quotes in them, have the same compact form exactly if they have the same
operators in the same places, with the same relation names, lists of names and predicates. -/
theorem compact_eq_iff (hp : p.Everywhere PlainRoot) (hq : q.Everywhere PlainRoot) :
    p.compact = q.compact ↔ p.SameAs q :=
  ⟨sameAs_of_compact_eq hp hq, SameAs.compact_eq⟩

/-- A plan with a literal that looks like a part of a plan, with a list of no names, and with counts
that are not shown. -/
def notedShelves (n : Count) : Plan :=
  ((((read ⟨"stock", n, [⟨"item", n⟩]⟩).filtered (.literal ⟨"note", n⟩ "] (SCAN [stock]),")).joined
    ((read ⟨"orders", n, []⟩).times (scan ⟨"notes", n, []⟩ (some ⟨n, []⟩)))
    (.equality ⟨"item", n⟩ ⟨"goods", n⟩)).narrowed [])

theorem notedShelves_sameAs :
    (notedShelves 0).Everywhere PlainRoot ∧ (notedShelves 1).Everywhere PlainRoot ∧
      (notedShelves 0).compact = (notedShelves 1).compact ∧ notedShelves 0 ≠ notedShelves 1 ∧
      (notedShelves 0).SameAs (notedShelves 1) := by
  have hzero : (notedShelves 0).Everywhere PlainRoot := by decide +kernel
  have hone : (notedShelves 1).Everywhere PlainRoot := by decide +kernel
  have hform : (notedShelves 0).compact = (notedShelves 1).compact := rfl
  exact ⟨hzero, hone, hform, by decide, (compact_eq_iff hzero hone).1 hform⟩

end Plan

end RelPlan
