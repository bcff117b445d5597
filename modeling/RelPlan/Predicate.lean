import RelPlan.Relation

/-!
# Predicates

A predicate compares an attribute with a literal or with another attribute. Against schemas it
answers two questions: can it be evaluated on one schema (`Within`), and does it tie two schemas
together (`Links`). A predicate that links two schemas can be turned so that its left attribute
belongs to the left one (`oriented`).
-/

namespace RelPlan

/-- An equality condition on attributes. -/
inductive Predicate where
  /-- The attribute equals the literal text. -/
  | literal (left : Attribute) (value : String)
  /-- The two attributes are equal. -/
  | equality (left right : Attribute)
  deriving DecidableEq

namespace Predicate

/-- The attribute left of the equals sign. -/
def left : Predicate → Attribute
  | literal a _ => a
  | equality a _ => a

/-- The attribute right of the equals sign, if there is one. -/
def right? : Predicate → Option Attribute
  | literal _ _ => none
  | equality _ b => some b

/-- The attributes the predicate names, left first. -/
def attributes : Predicate → List Attribute
  | literal a _ => [a]
  | equality a b => [a, b]

/-- The predicate with its sides exchanged; a literal stays on the right. -/
def reversed : Predicate → Predicate
  | literal a v => literal a v
  | equality a b => equality b a

@[simp] theorem reversed_reversed (p : Predicate) : p.reversed.reversed = p := by
  cases p <;> rfl

/-- The predicate as it is written: a literal stands in double quotes. -/
def text : Predicate → String
  | literal a v => a.name ++ "=\"" ++ v ++ "\""
  | equality a b => a.name ++ "=" ++ b.name

instance : ToString Predicate := ⟨text⟩

/-- The predicates name the same attributes in the same roles, and the same literal. -/
def SameAs : Predicate → Predicate → Prop
  | literal a v, literal b w => a.SameAs b ∧ v = w
  | equality a b, equality c d => a.SameAs c ∧ b.SameAs d
  | _, _ => False

instance : (p q : Predicate) → Decidable (p.SameAs q)
  | literal a v, literal b w => inferInstanceAs (Decidable (a.SameAs b ∧ v = w))
  | equality a b, equality c d => inferInstanceAs (Decidable (a.SameAs c ∧ b.SameAs d))
  | literal _ _, equality _ _ => inferInstanceAs (Decidable False)
  | equality _ _, literal _ _ => inferInstanceAs (Decidable False)

/-- The predicates by first occurrence: of several that are the same only the first stays. -/
def firsts : List Predicate → List Predicate
  | [] => []
  | p :: ps => p :: (firsts ps).filter fun q => ¬ q.SameAs p

/-! ### Predicates and schemas -/

/-- The schema has every attribute the predicate names. -/
def Within (p : Predicate) (r : Relation) : Prop := ∀ a ∈ p.attributes, r.Has a.name

instance (p : Predicate) (r : Relation) : Decidable (p.Within r) :=
  inferInstanceAs (Decidable (∀ a ∈ p.attributes, r.Has a.name))

@[simp] theorem within_literal {a : Attribute} {v : String} {r : Relation} :
    (literal a v).Within r ↔ r.Has a.name := by
  simp [Within, attributes]

@[simp] theorem within_equality {a b : Attribute} {r : Relation} :
    (equality a b).Within r ↔ r.Has a.name ∧ r.Has b.name := by
  simp [Within, attributes]

/-- An equality with one attribute in each of the two schemas, either way round. -/
def Links : Predicate → Relation → Relation → Prop
  | literal _ _, _, _ => False
  | equality a b, l, r => (l.Has a.name ∧ r.Has b.name) ∨ (l.Has b.name ∧ r.Has a.name)

instance : (p : Predicate) → (l r : Relation) → Decidable (p.Links l r)
  | literal _ _, _, _ => inferInstanceAs (Decidable False)
  | equality a b, l, r =>
    inferInstanceAs (Decidable ((l.Has a.name ∧ r.Has b.name) ∨ (l.Has b.name ∧ r.Has a.name)))

/-- A predicate that links two schemas can be evaluated on both together. -/
theorem Links.within_beside {p : Predicate} {l r : Relation} (h : p.Links l r) :
    p.Within (l.beside r) := by
  cases p with
  | literal => exact h.elim
  | equality a b =>
    rw [within_equality, Relation.has_beside, Relation.has_beside]
    rcases h with ⟨ha, hb⟩ | ⟨hb, ha⟩
    · exact ⟨.inl ha, .inr hb⟩
    · exact ⟨.inr ha, .inl hb⟩

/-- The predicate turned so that its left attribute comes from `l`, if it does not already. -/
def oriented (p : Predicate) (l : Relation) : Predicate :=
  if l.Has p.left.name then p else p.reversed

end Predicate

end RelPlan
