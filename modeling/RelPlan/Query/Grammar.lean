import RelPlan.Query.Parser

/-!
# The grammar of queries

Which texts spell which queries. Every form of the grammar is a relation between what is meant
and the characters that spell it; where only the form matters, it is a predicate on characters.
The relations say nothing about how a text is read.
-/

namespace RelPlan.Query

/-! ### Characters and words -/

/-- Any number of blanks. -/
def Blanks (cs : List Char) : Prop := ∀ c ∈ cs, isBlank c

/-- One or more blanks. -/
def Gap (cs : List Char) : Prop := cs ≠ [] ∧ Blanks cs

theorem blanks_nil : Blanks [] := fun _ h => nomatch h

theorem Gap.blanks {cs : List Char} (h : Gap cs) : Blanks cs := h.2

/-- A word that is given in lower case, in any letter case. -/
def Keyword (word : String) (cs : List Char) : Prop := cs.map Char.toLower = word.toList

/-- A character with blanks around it. -/
inductive Spaced (c : Char) : List Char → Prop where
  /-- The character between two runs of blanks. -/
  | mk {before behind : List Char} :
      Blanks before → Blanks behind → Spaced c (before ++ c :: behind)

/-! ### Names and numbers -/

/-- A name is spelled by its characters, of which there is at least one. -/
inductive NameForm : String → List Char → Prop where
  /-- One or more name characters. -/
  | mk {cs : List Char} : cs ≠ [] → (∀ c ∈ cs, isNameChar c) → NameForm (String.ofList cs) cs

/-- One or more decimal digits. -/
def DigitsForm (cs : List Char) : Prop := cs ≠ [] ∧ ∀ c ∈ cs, c.isDigit

/-- A number without a sign. -/
inductive UnsignedForm : List Char → Prop where
  /-- Digits alone. -/
  | whole {ds : List Char} : DigitsForm ds → UnsignedForm ds
  /-- Digits, a point and digits. -/
  | decimal {ds es : List Char} : DigitsForm ds → DigitsForm es → UnsignedForm (ds ++ '.' :: es)

/-- A number. -/
inductive NumberForm : List Char → Prop where
  /-- Without a sign. -/
  | positive {cs : List Char} : UnsignedForm cs → NumberForm cs
  /-- With a minus sign. -/
  | negative {cs : List Char} : UnsignedForm cs → NumberForm ('-' :: cs)

/-! ### Lists -/

/-- One or more items with commas between them. -/
inductive ListForm {α : Type} (item : α → List Char → Prop) : List α → List Char → Prop where
  /-- A single item. -/
  | one {a : α} {cs : List Char} : item a cs → ListForm item [a] cs
  /-- An item, a comma, and more items. -/
  | more {a : α} {as : List α} {cs comma rest : List Char} :
      item a cs → Spaced ',' comma → ListForm item as rest →
        ListForm item (a :: as) (cs ++ (comma ++ rest))

/-! ### Conditions -/

/-- What an attribute is compared with. -/
inductive ComparisonForm (left : String) : Condition → List Char → Prop where
  /-- A text in double quotes, which holds none itself. -/
  | quoted {body : List Char} : '"' ∉ body →
      ComparisonForm left (.literal left (String.ofList body)) ('"' :: (body ++ ['"']))
  /-- A number, as it is written. -/
  | number {cs : List Char} : NumberForm cs →
      ComparisonForm left (.literal left (String.ofList cs)) cs
  /-- A name that does not begin with a digit. -/
  | name {right : String} {c : Char} {cs : List Char} : NameForm right (c :: cs) → ¬ c.isDigit →
      ComparisonForm left (.equality left right) (c :: cs)

/-- A condition. -/
inductive ConditionForm : Condition → List Char → Prop where
  /-- A name, an equals sign, and what the attribute is compared with. -/
  | mk {left : String} {condition : Condition} {cs equals rest : List Char} :
      NameForm left cs → Spaced '=' equals → ComparisonForm left condition rest →
        ConditionForm condition (cs ++ (equals ++ rest))

/-! ### Queries -/

/-- The attributes to put out. -/
inductive AttributesForm : Option (List String) → List Char → Prop where
  /-- All of them. -/
  | all : AttributesForm none ['*']
  /-- Those that are listed. -/
  | listed {names : List String} {cs : List Char} :
      ListForm NameForm names cs → AttributesForm (some names) cs

/-- The conditions to meet, behind the relations. -/
inductive WhereForm : List Condition → List Char → Prop where
  /-- There are none. -/
  | absent : WhereForm [] []
  /-- The word `WHERE` and the conditions. -/
  | present {conditions : List Condition} {gap word gap' cs : List Char} :
      Gap gap → Keyword "where" word → Gap gap' → ListForm ConditionForm conditions cs →
        WhereForm conditions (gap ++ (word ++ (gap' ++ cs)))

/-- The end of a text. -/
inductive EndingForm : List Char → Prop where
  /-- Blanks. -/
  | blank {cs : List Char} : Blanks cs → EndingForm cs
  /-- A semicolon between blanks. -/
  | semicolon {cs : List Char} : Spaced ';' cs → EndingForm cs

/-- The text spells the query. -/
inductive Spells : Query → List Char → Prop where
  /-- Blanks, `SELECT`, attributes, `FROM`, relations, conditions, and the end. -/
  | mk {attributes : Option (List String)} {relations : List String}
      {conditions : List Condition}
      {before select gap listed gap' from' gap'' read filtered ending : List Char} :
      Blanks before → Keyword "select" select → Gap gap → AttributesForm attributes listed →
        Gap gap' → Keyword "from" from' → Gap gap'' → ListForm NameForm relations read →
        WhereForm conditions filtered → EndingForm ending →
        Spells ⟨attributes, relations, conditions⟩
          (before ++ (select ++ (gap ++ (listed ++ (gap' ++ (from' ++ (gap'' ++ (read ++
            (filtered ++ ending)))))))))

end RelPlan.Query
