import RelPlan.Json.Number
import RelPlan.Json.Text

/-!
# Reading JSON arrays and objects

The readers here are put together from readers of items and members. A record is a fixed sequence
of named fields. It is read from an object, where its fields may stand in any order among others,
each at most once, or from an array, where exactly its fields stand in their order; a field with a
default may be missing. Values that nobody asks for are passed over.
-/

namespace RelPlan.Json

variable {α β κ σ : Type}

/-! ### Arrays -/

/-- The items behind the first one of an array, up to its end. There are at most as many as the
bound; each takes a comma. -/
def furtherItems (item : Reader α) : Nat → Reader (List α)
  | 0, _ => .error .truncated
  | n + 1, cs =>
    match skipBlanks cs with
    | [] => .error .truncated
    | ']' :: rest => .ok ([], rest)
    | ',' :: rest => do
      let (a, rest) ← item rest
      let (as, rest) ← furtherItems item n rest
      return (a :: as, rest)
    | _ => .error .malformed

/-- The items of an array, behind its opening bracket. -/
def items (item : Reader α) : Reader (List α) := fun cs =>
  match skipBlanks cs with
  | ']' :: rest => .ok ([], rest)
  | cs => do
    let (a, rest) ← item cs
    let (as, rest) ← furtherItems item (rest.length + 1) rest
    return (a :: as, rest)

/-! ### Objects -/

/-- The members behind the first one of an object, up to its end, each taken into a state by
`member`. That reader begins behind the member's name. -/
def furtherMembers (name : Reader κ) (member : σ → κ → Reader σ) : Nat → σ → Reader σ
  | 0, _, _ => .error .truncated
  | n + 1, s, cs =>
    match skipBlanks cs with
    | [] => .error .truncated
    | '}' :: rest => .ok (s, rest)
    | ',' :: rest =>
      match skipBlanks rest with
      | [] => .error .truncated
      | '"' :: rest => do
        let (k, rest) ← name rest
        let (s, rest) ← member s k rest
        furtherMembers name member n s rest
      | _ => .error .malformed
    | _ => .error .malformed

/-- The members of an object, behind its opening bracket. -/
def members (name : Reader κ) (member : σ → κ → Reader σ) (s : σ) : Reader σ := fun cs =>
  match skipBlanks cs with
  | [] => .error .truncated
  | '}' :: rest => .ok (s, rest)
  | '"' :: rest => do
    let (k, rest) ← name rest
    let (s, rest) ← member s k rest
    furtherMembers name member (rest.length + 1) s rest
  | _ => .error .malformed

/-! ### Values that are passed over -/

/-- A value of any kind, nested less deep than the bound. -/
def skipValue : Nat → Reader Unit
  | 0, _ => .error .truncated
  | depth + 1, cs =>
    match skipBlanks cs with
    | [] => .error .truncated
    | 'n' :: rest => word ['u', 'l', 'l'] rest
    | 't' :: rest => word ['r', 'u', 'e'] rest
    | 'f' :: rest => word ['a', 'l', 's', 'e'] rest
    | '"' :: rest => looseString rest
    | '[' :: rest => do
      let (_, rest) ← items (skipValue depth) rest
      return ((), rest)
    | '{' :: rest => members looseString (fun _ _ => afterColon (skipValue depth)) () rest
    | c :: rest =>
      if c = '-' ∨ c.isDigit then looseNumber (c :: rest) else .error .malformed

/-- A value of any kind. Every level takes a bracket, so the text bounds the depth. -/
def skip : Reader Unit := fun cs => skipValue (cs.length + 1) cs

/-! ### Single values of a wanted kind -/

/-- The fault of a value that could be read, but is not wanted. -/
def faultAfter (r : Except Fault α) : Fault :=
  match r with
  | .error f => f
  | .ok _ => .mistyped

/-- The fault of a value that is not of the wanted kind. Words, strings and numbers are read to
their end first; of an array or an object only the bracket counts. -/
def wrongKind (cs : List Char) : Fault :=
  match cs with
  | [] => .truncated
  | 'n' :: rest => faultAfter (word ['u', 'l', 'l'] rest)
  | 't' :: rest => faultAfter (word ['r', 'u', 'e'] rest)
  | 'f' :: rest => faultAfter (word ['a', 'l', 's', 'e'] rest)
  | '"' :: rest => faultAfter (string rest)
  | '[' :: _ => .mistyped
  | '{' :: _ => .mistyped
  | c :: rest => if c = '-' ∨ c.isDigit then faultAfter (number (c :: rest)) else .malformed

/-- A string. -/
def text : Reader String := fun cs =>
  match skipBlanks cs with
  | '"' :: rest => string rest
  | cs => .error (wrongKind cs)

/-- A count. -/
def count : Reader Count := fun cs =>
  match skipBlanks cs with
  | c :: rest =>
    if c = '-' ∨ c.isDigit then do
      let (n, rest) ← number (c :: rest)
      match n with
      | some n => return (n, rest)
      | none => .error .mistyped
    else .error (wrongKind (c :: rest))
  | [] => .error .truncated

/-- The word `true` or `false`. -/
def truth : Reader Bool := fun cs =>
  match skipBlanks cs with
  | 't' :: rest => do
    let ((), rest) ← word ['r', 'u', 'e'] rest
    return (true, rest)
  | 'f' :: rest => do
    let ((), rest) ← word ['a', 'l', 's', 'e'] rest
    return (false, rest)
  | cs => .error (wrongKind cs)

/-- An array of any length. -/
def list (item : Reader α) : Reader (List α) := fun cs =>
  match skipBlanks cs with
  | '[' :: rest => items item rest
  | cs => .error (wrongKind cs)

/-! ### Records -/

/-- A field of a record. -/
structure Field (α : Type) where
  /-- Its name. -/
  name : String
  /-- How its value is read. -/
  read : Reader α
  /-- Its value if it is missing. -/
  absent : Option α

namespace Field

/-- The value of a field that was met or not. -/
def value (f : Field α) (met : Option α) : Except Fault α :=
  match met, f.absent with
  | some a, _ => .ok a
  | none, some a => .ok a
  | none, none => .error .mistyped

/-- The value of a field behind its name; it must not have been met before. -/
def readOnce (f : Field α) (met : Option α) : Reader (Option α) := fun cs =>
  match met with
  | some _ => .error .mistyped
  | none => do
    let (a, rest) ← afterColon f.read cs
    return (some a, rest)

/-- The next field of a record that is read from an array; nothing if the array ends here. Only
the first one has no comma in front. -/
def readNext (f : Field α) (isFirst : Bool) : Reader (Option α) := fun cs =>
  match skipBlanks cs with
  | [] => .error .truncated
  | ']' :: rest => .ok (none, ']' :: rest)
  | c :: rest =>
    if isFirst then do
      let (a, rest) ← f.read (c :: rest)
      return (some a, rest)
    else if c = ',' then do
      let (a, rest) ← f.read rest
      return (some a, rest)
    else .error .malformed

end Field

/-- The end of an array. -/
def endArray : Reader Unit := fun cs =>
  match skipBlanks cs with
  | [] => .error .truncated
  | ']' :: rest => .ok ((), rest)
  | _ => .error .malformed

/-- A member of a record with the fields `f` and `g`. -/
def memberOfTwo (f : Field α) (g : Field β) (met : Option α × Option β) (name : String) :
    Reader (Option α × Option β) := fun cs =>
  if name = f.name then do
    let (a, rest) ← f.readOnce met.1 cs
    return ((a, met.2), rest)
  else if name = g.name then do
    let (b, rest) ← g.readOnce met.2 cs
    return ((met.1, b), rest)
  else do
    let ((), rest) ← afterColon skip cs
    return (met, rest)

/-- A record of two fields. -/
def recordOfTwo (f : Field α) (g : Field β) : Reader (α × β) := fun cs =>
  match skipBlanks cs with
  | '{' :: rest => do
    let (met, rest) ← members string (memberOfTwo f g) (none, none) rest
    let a ← f.value met.1
    let b ← g.value met.2
    return ((a, b), rest)
  | '[' :: rest => do
    let (a, rest) ← f.readNext true rest
    let a ← f.value a
    let (b, rest) ← g.readNext false rest
    let b ← g.value b
    let ((), rest) ← endArray rest
    return ((a, b), rest)
  | cs => .error (wrongKind cs)

/-- A member of a record with the field `f`. -/
def memberOfOne (f : Field α) (met : Option α) (name : String) : Reader (Option α) := fun cs =>
  if name = f.name then f.readOnce met cs
  else do
    let ((), rest) ← afterColon skip cs
    return (met, rest)

/-- A record of one field. -/
def recordOfOne (f : Field α) : Reader α := fun cs =>
  match skipBlanks cs with
  | '{' :: rest => do
    let (met, rest) ← members string (memberOfOne f) none rest
    let a ← f.value met
    return (a, rest)
  | '[' :: rest => do
    let (a, rest) ← f.readNext true rest
    let a ← f.value a
    let ((), rest) ← endArray rest
    return (a, rest)
  | cs => .error (wrongKind cs)

/-! ### Values that are kept for later -/

/-- A value that is read before it is known what it should be. -/
inductive Kept where
  /-- A number that is a count. -/
  | count (n : Count)
  /-- A string. -/
  | text (s : String)
  /-- An array. -/
  | array (items : List Kept)
  /-- An object, with its members in order. -/
  | object (members : List (String × Kept))
  /-- Any other value. -/
  | other

/-- A value of any kind, nested at most as deep as the bound. -/
def keep : Nat → Reader Kept
  | depth, cs =>
    match skipBlanks cs with
    | [] => .error .truncated
    | 'n' :: rest => do
      let ((), rest) ← word ['u', 'l', 'l'] rest
      return (.other, rest)
    | 't' :: rest => do
      let ((), rest) ← word ['r', 'u', 'e'] rest
      return (.other, rest)
    | 'f' :: rest => do
      let ((), rest) ← word ['a', 'l', 's', 'e'] rest
      return (.other, rest)
    | '"' :: rest => do
      let (s, rest) ← string rest
      return (.text s, rest)
    | '[' :: rest =>
      match depth with
      | 0 => .error .malformed
      | depth + 1 => do
        let (vs, rest) ← items (keep depth) rest
        return (.array vs, rest)
    | '{' :: rest =>
      match depth with
      | 0 => .error .malformed
      | depth + 1 => do
        let (ms, rest) ← members string
          (fun ms k cs => do
            let (v, rest) ← afterColon (keep depth) cs
            return (ms ++ [(k, v)], rest))
          ([] : List (String × Kept)) rest
        return (.object ms, rest)
    | c :: rest =>
      if c = '-' ∨ c.isDigit then do
        let (n, rest) ← number (c :: rest)
        return (match n with | some n => .count n | none => .other, rest)
      else .error .malformed

end RelPlan.Json
