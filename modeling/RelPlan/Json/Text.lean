import RelPlan.Json.Reader
import RelPlan.Text.Hexadecimal

/-!
# Reading JSON strings

A string ends at its closing quote. Control characters cannot stand in it as they are. An escape
is one letter, or `u` and four hexadecimal digits; a character beyond the first 65536 takes two of
the latter, a leading and a trailing surrogate. A string that is read must pair its surrogates; in
one that is passed over they are not looked at.
-/

namespace RelPlan.Json

/-- The length of a text in UTF-8. -/
def byteLength : List Char → Nat
  | [] => 0
  | c :: cs => c.utf8Size + byteLength cs

/-- The number that four hexadecimal digits in front of a text spell. With less than four bytes
left the text is truncated, whatever they are. -/
def fourHex : List Char → Except Fault Nat
  | a :: b :: c :: d :: _ =>
    match hexValue? a, hexValue? b, hexValue? c, hexValue? d with
    | some a, some b, some c, some d => .ok (((a * 16 + b) * 16 + c) * 16 + d)
    | _, _, _, _ => .error .malformed
  | cs => if byteLength cs < 4 then .error .truncated else .error .malformed

/-- A code unit that begins a pair. -/
def IsLeading (n : Nat) : Prop := 0xD800 ≤ n ∧ n ≤ 0xDBFF

instance (n : Nat) : Decidable (IsLeading n) :=
  inferInstanceAs (Decidable (0xD800 ≤ n ∧ n ≤ 0xDBFF))

/-- A code unit that ends a pair. -/
def IsTrailing (n : Nat) : Prop := 0xDC00 ≤ n ∧ n ≤ 0xDFFF

instance (n : Nat) : Decidable (IsTrailing n) :=
  inferInstanceAs (Decidable (0xDC00 ≤ n ∧ n ≤ 0xDFFF))

/-- The character that a letter behind a backslash stands for. -/
def ofShortEscape : Char → Option Char
  | '"' => some '"'
  | '\\' => some '\\'
  | '/' => some '/'
  | 'b' => some '\x08'
  | 'f' => some '\x0c'
  | 'n' => some '\n'
  | 'r' => some '\r'
  | 't' => some '\t'
  | _ => none

/-- The character behind a backslash and `u`, with the number of characters that spell it. -/
def unicodeEscape (cs : List Char) : Except Fault (Char × Nat) := do
  let n ← fourHex cs
  if IsTrailing n then .error .malformed
  else if IsLeading n then
    match cs.drop 4 with
    | '\\' :: 'u' :: more =>
      let m ← fourHex more
      if IsTrailing m then
        return (Char.ofNat (0x10000 + (n - 0xD800) * 0x400 + (m - 0xDC00)), 10)
      else .error .malformed
    | [] => .error .truncated
    | ['\\'] => .error .truncated
    | _ => .error .malformed
  else return (Char.ofNat n, 4)

/-- The character behind a backslash, with the number of characters that spell it. -/
def escape : List Char → Except Fault (Char × Nat)
  | [] => .error .truncated
  | 'u' :: cs => do
    let (c, used) ← unicodeEscape cs
    return (c, used + 1)
  | c :: _ =>
    match ofShortEscape c with
    | some d => .ok (d, 1)
    | none => .error .malformed

/-- An escape that is only passed over: surrogates need not be paired, and the character is of no
interest. -/
def looseEscape : List Char → Except Fault (Char × Nat)
  | [] => .error .truncated
  | 'u' :: cs => do
    let _ ← fourHex cs
    return ('u', 5)
  | c :: _ => if (ofShortEscape c).isSome then .ok (c, 1) else .error .malformed

/-- The characters up to the closing quote, after `used` characters that an escape has taken. -/
def stringFrom (escape : List Char → Except Fault (Char × Nat)) : Nat → Reader (List Char)
  | _, [] => .error .truncated
  | used + 1, _ :: cs => stringFrom escape used cs
  | 0, '"' :: cs => .ok ([], cs)
  | 0, '\\' :: cs => do
    let (c, used) ← escape cs
    let (more, rest) ← stringFrom escape used cs
    return (c :: more, rest)
  | 0, c :: cs =>
    if c.toNat < 32 then .error .malformed
    else do
      let (more, rest) ← stringFrom escape 0 cs
      return (c :: more, rest)

/-- The string behind its opening quote. -/
def string : Reader String := fun cs => do
  let (s, rest) ← stringFrom escape 0 cs
  return (String.ofList s, rest)

/-- A string that is passed over, behind its opening quote. -/
def looseString : Reader Unit := fun cs => do
  let (_, rest) ← stringFrom looseEscape 0 cs
  return ((), rest)

end RelPlan.Json
