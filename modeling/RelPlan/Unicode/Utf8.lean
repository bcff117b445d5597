import RelPlan.Unicode.CodeSet

/-!
# Sets of characters as bytes

In UTF-8 a character has one to four bytes. The bytes behind the first one have six bits of its code
point each, and the first one has the others. A set of characters is therefore a list of rows of
byte ranges: a text of one character is in the set if for some row it has one byte from each range
of the row. Each range of code points is cut into as few rows as possible.
-/

namespace RelPlan

/-- The bytes from one to another. -/
structure ByteRange where
  /-- The first byte. -/
  first : Nat
  /-- The last byte. -/
  last : Nat
  deriving DecidableEq

namespace ByteRange

/-- A byte alone. -/
def single (byte : Nat) : ByteRange := ⟨byte, byte⟩

/-- The least byte that goes on with a character. -/
def trailing : Nat := 0x80

/-- All bytes that go on with a character. -/
def anyTrailing : ByteRange := ⟨trailing, trailing + 63⟩

/-- The number of values of so many bytes behind the first one. -/
def valuesOf : Nat → Nat
  | 0 => 1
  | n + 1 => 64 * valuesOf n

/-- The rows for the numbers from one to another, in a first byte on top of the given one and `n`
bytes behind it. Where the first byte changes, the numbers are cut, unless all bytes behind it are
possible. -/
def rows : Nat → Nat → Nat → Nat → List (List ByteRange)
  | base, 0, first, last => [[⟨base + first, base + last⟩]]
  | base, n + 1, first, last =>
    let size := valuesOf (n + 1)
    let top := first / size
    let bottom := last / size
    let below (byte first last : Nat) : List (List ByteRange) :=
      (rows trailing n first last).map (single (base + byte) :: ·)
    if top = bottom then below top (first % size) (last % size)
    else
      let startsWhole : Bool := first % size = 0
      let endsWhole : Bool := last % size + 1 = size
      let wholeFrom := if startsWhole then top else top + 1
      let wholeBehind := if endsWhole then bottom + 1 else bottom
      (if startsWhole then [] else below top (first % size) (size - 1)) ++
        (if wholeFrom < wholeBehind then
          [⟨base + wholeFrom, base + (wholeBehind - 1)⟩ :: List.replicate (n + 1) anyTrailing]
        else []) ++
        (if endsWhole then [] else below bottom 0 (last % size))

/-- A row has a range for the first byte and one for every byte behind it. -/
theorem length_of_mem_rows {base n first last : Nat} {row : List ByteRange}
    (h : row ∈ rows base n first last) : row.length = n + 1 := by
  induction n generalizing base first last row with
  | zero => simp_all [rows]
  | succ n ih =>
    rw [rows] at h
    split at h
    · obtain ⟨r, hr, rfl⟩ := List.mem_map.mp h
      exact congrArg (· + 1) (ih hr)
    · simp only [List.mem_append, List.mem_ite_nil_left, List.mem_ite_nil_right,
        List.mem_singleton, List.mem_map] at h
      rcases h with (⟨-, r, hr, rfl⟩ | ⟨-, rfl⟩) | ⟨-, r, hr, rfl⟩
      · exact congrArg (· + 1) (ih hr)
      · simp
      · exact congrArg (· + 1) (ih hr)

end ByteRange

/-- Code points that are encoded in the same number of bytes. -/
structure Utf8Block where
  /-- The first code point. -/
  first : Nat
  /-- The last code point. -/
  last : Nat
  /-- What the first byte is put on top of. -/
  base : Nat
  /-- The number of bytes behind the first one. -/
  more : Nat

/-- All characters. The surrogates lie between two of the blocks. -/
def utf8Blocks : List Utf8Block :=
  [⟨0, 0x7F, 0, 0⟩, ⟨0x80, 0x7FF, 0xC0, 1⟩, ⟨0x800, 0xD7FF, 0xE0, 2⟩, ⟨0xE000, 0xFFFF, 0xE0, 2⟩,
  ⟨0x10000, 0x10FFFF, 0xF0, 3⟩]

namespace CodeSet

/-- The rows of byte ranges that a set of characters consists of, in ascending order. -/
def byteRows (s : CodeSet) : List (List ByteRange) :=
  utf8Blocks.flatMap fun block => s.ranges.flatMap fun (first, last) =>
    let first := max first block.first
    let last := min last block.last
    if first ≤ last then ByteRange.rows block.base block.more first last else []

/-- A character has at most four bytes. -/
theorem length_le_of_mem_byteRows {s : CodeSet} {row : List ByteRange} (h : row ∈ s.byteRows) :
    row.length ≤ 4 := by
  simp only [byteRows, List.mem_flatMap] at h
  obtain ⟨block, hb, range, -, h⟩ := h
  split at h
  · have hm : ∀ b ∈ utf8Blocks, b.more ≤ 3 := by decide
    exact ByteRange.length_of_mem_rows h ▸ Nat.succ_le_succ (hm block hb)
  · cases h

end CodeSet

end RelPlan
