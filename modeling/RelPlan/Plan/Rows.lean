import RelPlan.Plan.Basic

/-!
# The rows of a plan

What a plan computes when the rows of the base relations are known. A row gives values to some
attribute names. The rows of a relation form a bag: a list whose order is of no interest, so two
plans mean the same if the rows of one are a permutation of the rows of the other. Estimates have
no influence on rows, and a join puts out what a selection on a product does.
-/

namespace RelPlan

variable {V : Type}

/-! ### Rows -/

/-- Values for some attribute names. -/
abbrev Row (V : Type) := String → Option V

namespace Row

/-- The row without the attributes that are not listed. -/
def restrict (row : Row V) (names : List String) : Row V :=
  fun n => if n ∈ names then row n else none

/-- Two rows as one; an attribute of both has its value from the left one. -/
def beside (left right : Row V) : Row V := fun n => (left n).or (right n)

@[simp] theorem restrict_apply (row : Row V) (names : List String) (n : String) :
    row.restrict names n = if n ∈ names then row n else none := rfl

@[simp] theorem beside_apply (left right : Row V) (n : String) :
    left.beside right n = (left n).or (right n) := rfl

end Row

/-- Every row of the left list beside every row of the right one. -/
def pairRows (left right : List (Row V)) : List (Row V) :=
  left.flatMap fun x => right.map fun y => x.beside y

theorem mem_pairRows {left right : List (Row V)} {row : Row V} :
    row ∈ pairRows left right ↔ ∃ x ∈ left, ∃ y ∈ right, x.beside y = row := by
  simp [pairRows]

/-! ### Databases -/

/-- The rows of all base relations, and the values that literal texts stand for. -/
structure Database (V : Type) where
  /-- The value that a literal text stands for. -/
  literal : String → V
  /-- The rows of a base relation. -/
  rows : BaseRelation → List (Row V)
  /-- A row has values for the attributes of its relation and for no others. -/
  isSome_iff : ∀ r, ∀ row ∈ rows r, ∀ n, (row n).isSome ↔ r.relation.Has n

/-! ### The meaning of predicates and plans -/

/-- The predicate is true of a row: the attributes it names are there, and the values are equal. -/
def Predicate.Holds (db : Database V) : Predicate → Row V → Prop
  | literal a v, row => row a.name = some (db.literal v)
  | equality a b, row => (row a.name).isSome ∧ row a.name = row b.name

instance [DecidableEq V] (db : Database V) :
    (p : Predicate) → (row : Row V) → Decidable (p.Holds db row)
  | .literal a v, row => inferInstanceAs (Decidable (row a.name = some (db.literal v)))
  | .equality a b, row =>
    inferInstanceAs (Decidable ((row a.name).isSome ∧ row a.name = row b.name))

/-- It makes no difference on which side of an equality an attribute stands. -/
theorem Predicate.holds_reversed {db : Database V} {p : Predicate} {row : Row V} :
    p.reversed.Holds db row ↔ p.Holds db row := by
  cases p with
  | literal => exact Iff.rfl
  | equality a b =>
    show ((row b.name).isSome ∧ row b.name = row a.name) ↔
      ((row a.name).isSome ∧ row a.name = row b.name)
    constructor <;> rintro ⟨h, h'⟩ <;> exact ⟨h' ▸ h, h'.symm⟩

namespace Plan

variable [DecidableEq V]

/-- The rows that a plan puts out. A projection shortens every row and removes none. -/
def rows (db : Database V) : Plan → List (Row V)
  | scan r _ => db.rows r
  | select p i _ => (i.rows db).filter fun row => p.Holds db row
  | project as i _ => (i.rows db).map fun row => row.restrict (namesOf as)
  | product l r _ => pairRows (l.rows db) (r.rows db)
  | join p l r _ => (pairRows (l.rows db) (r.rows db)).filter fun row => p.Holds db row

end Plan

end RelPlan
