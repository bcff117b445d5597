import RelPlan.Count

/-!
# JSON values and how they are written

A value is written on one line without blanks, or laid out over several lines with two more
spaces for each level. Characters that a JSON string cannot hold as they are, and no others, are
escaped.
-/

namespace RelPlan.Json

/-- The JSON values that are written: numbers are counts. -/
inductive Value where
  /-- The word `true` or `false`. -/
  | truth (b : Bool)
  /-- A number. -/
  | number (n : Count)
  /-- A string. -/
  | text (s : String)
  /-- An array. -/
  | array (items : List Value)
  /-- An object, with its members in order. -/
  | object (members : List (String × Value))

/-! ### Strings -/

/-- The hexadecimal digit of a number below sixteen. -/
def hexDigit (n : Nat) : Char :=
  if n < 10 then Char.ofNat ('0'.toNat + n) else Char.ofNat ('a'.toNat + (n - 10))

/-- A character as it stands in a string. -/
def escaped (c : Char) : List Char :=
  if c = '"' then ['\\', '"']
  else if c = '\\' then ['\\', '\\']
  else if c = '\x08' then ['\\', 'b']
  else if c = '\t' then ['\\', 't']
  else if c = '\n' then ['\\', 'n']
  else if c = '\x0c' then ['\\', 'f']
  else if c = '\r' then ['\\', 'r']
  else if c.toNat < 32 then
    ['\\', 'u', '0', '0', hexDigit (c.toNat / 16), hexDigit (c.toNat % 16)]
  else [c]

/-- A string as it is written, with its quotes. -/
def quote (s : String) : List Char := '"' :: (s.toList.flatMap escaped ++ ['"'])

/-! ### Layouts -/

/-- How the parts of a value are set apart. -/
inductive Layout where
  /-- No blanks at all. -/
  | compact
  /-- One item or member a line. -/
  | pretty

namespace Layout

/-- What stands in front of an item, a member or a closing bracket at some depth. -/
def gap : Layout → Nat → List Char
  | compact, _ => []
  | pretty, depth => '\n' :: List.replicate (2 * depth) ' '

/-- What stands between the name and the value of a member. -/
def colon : Layout → List Char
  | compact => [':']
  | pretty => [':', ' ']

end Layout

/-! ### Writing -/

namespace Value

mutual

/-- A value as it is written at some depth. -/
def render (layout : Layout) : Nat → Value → List Char
  | _, truth true => ['t', 'r', 'u', 'e']
  | _, truth false => ['f', 'a', 'l', 's', 'e']
  | _, number n => n.text.toList
  | _, text s => quote s
  | _, array [] => ['[', ']']
  | depth, array (v :: vs) =>
    '[' :: (layout.gap (depth + 1) ++ render layout (depth + 1) v ++ renderItems layout depth vs)
  | _, object [] => ['{', '}']
  | depth, object ((k, v) :: members) =>
    '{' :: (layout.gap (depth + 1) ++ quote k ++ layout.colon ++ render layout (depth + 1) v
      ++ renderMembers layout depth members)

/-- The items behind the first, and the end of the array. -/
def renderItems (layout : Layout) : Nat → List Value → List Char
  | depth, [] => layout.gap depth ++ [']']
  | depth, v :: vs =>
    ',' :: (layout.gap (depth + 1) ++ render layout (depth + 1) v ++ renderItems layout depth vs)

/-- The members behind the first, and the end of the object. -/
def renderMembers (layout : Layout) : Nat → List (String × Value) → List Char
  | depth, [] => layout.gap depth ++ ['}']
  | depth, (k, v) :: members =>
    ',' :: (layout.gap (depth + 1) ++ quote k ++ layout.colon ++ render layout (depth + 1) v
      ++ renderMembers layout depth members)

end

/-- A value as a text of its own. -/
def toText (layout : Layout) (v : Value) : String := String.ofList (v.render layout 0)

end Value

end RelPlan.Json
