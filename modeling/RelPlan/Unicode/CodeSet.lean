/-!
# Sets of code points

A set of code points is held as the code points at which membership changes: the first one that is
in it, the first one behind that which is not, and so on. Two sets are combined by one walk over
both lists. A code point is in the combination if what it is in of the two says so
(`contains_combine`).
-/

namespace RelPlan

/-- A set of code points. -/
structure CodeSet where
  /-- The code points at which membership changes, in ascending order. -/
  edges : List Nat
  deriving DecidableEq

namespace CodeSet

/-! ### Membership -/

/-- Whether `n` is inside, given the edges ahead and whether what is in front of them is inside. -/
def insideFrom (inside : Bool) (n : Nat) : List Nat → Bool
  | [] => inside
  | e :: es => if n < e then inside else insideFrom (!inside) n es

/-- The set has `n` in it. -/
def contains (s : CodeSet) (n : Nat) : Bool := insideFrom false n s.edges

/-- An edge changes nothing in front of it. -/
theorem insideFrom_cons_of_lt {n e : Nat} (h : n < e) (inside : Bool) (es : List Nat) :
    insideFrom inside n (e :: es) = inside := if_pos h

/-- From an edge on membership is the opposite one. -/
theorem insideFrom_cons_of_le {n e : Nat} (h : e ≤ n) (inside : Bool) (es : List Nat) :
    insideFrom inside n (e :: es) = insideFrom (!inside) n es := if_neg (Nat.not_lt.mpr h)

/-- In front of all edges nothing changes. -/
theorem insideFrom_of_lt {n : Nat} {es : List Nat} (h : ∀ e ∈ es, n < e) (inside : Bool) :
    insideFrom inside n es = inside := by
  cases es with
  | nil => rfl
  | cons e es => exact insideFrom_cons_of_lt (h e (List.mem_cons_self ..)) inside es

/-! ### Ranges -/

/-- The set with nothing in it. -/
def empty : CodeSet := ⟨[]⟩

/-- All code points from one to another. -/
def ofRange (first last : Nat) : CodeSet := ⟨[first, last + 1]⟩

/-- A range has in it what lies between its ends. -/
theorem contains_ofRange (first last n : Nat) :
    (ofRange first last).contains n = true ↔ first ≤ n ∧ n ≤ last := by
  simp only [contains, ofRange, insideFrom]
  by_cases h₁ : n < first <;> by_cases h₂ : n < last + 1 <;> simp [h₁, h₂] <;> omega

/-- The edges of ranges in ascending order. Ranges that touch are joined. -/
def edgesOfRanges : List (Nat × Nat) → List Nat
  | [] => []
  | (first, last) :: ranges =>
    match edgesOfRanges ranges with
    | [] => [first, last + 1]
    | e :: es => if e = last + 1 then first :: es else first :: (last + 1) :: e :: es

/-- The union of ranges in ascending order. -/
def ofRanges (ranges : List (Nat × Nat)) : CodeSet := ⟨edgesOfRanges ranges⟩

/-- The ranges between edges. -/
def rangesOfEdges : List Nat → List (Nat × Nat)
  | first :: behind :: es => (first, behind - 1) :: rangesOfEdges es
  | _ => []

/-- The ranges that a set consists of, with both ends included, in ascending order. -/
def ranges (s : CodeSet) : List (Nat × Nat) := rangesOfEdges s.edges

/-- The set with every code point moved up. -/
def moveUp (s : CodeSet) (distance : Nat) : CodeSet := ⟨s.edges.map (· + distance)⟩

/-- The set with every code point moved down. -/
def moveDown (s : CodeSet) (distance : Nat) : CodeSet := ⟨s.edges.map (· - distance)⟩

/-! ### Combinations -/

/-- The edges ahead, with one more if there is a change at it. -/
def changeAt (e : Nat) (before after : Bool) (es : List Nat) : List Nat :=
  if before = after then es else e :: es

/-- The edges of a combination, given the edges ahead of both sets and whether what is in front of
them is inside. -/
def combineFrom (f : Bool → Bool → Bool) (a b : Bool) : List Nat → List Nat → List Nat
  | [], [] => []
  | x :: xs, [] => changeAt x (f a b) (f (!a) b) (combineFrom f (!a) b xs [])
  | [], y :: ys => changeAt y (f a b) (f a (!b)) (combineFrom f a (!b) [] ys)
  | x :: xs, y :: ys =>
    if x < y then changeAt x (f a b) (f (!a) b) (combineFrom f (!a) b xs (y :: ys))
    else if y < x then changeAt y (f a b) (f a (!b)) (combineFrom f a (!b) (x :: xs) ys)
    else changeAt x (f a b) (f (!a) (!b)) (combineFrom f (!a) (!b) xs ys)
termination_by xs ys => xs.length + ys.length

/-- The code points of which `f` holds, given whether the first and the second set have them. What
is in neither should not be in the combination. -/
def combine (f : Bool → Bool → Bool) (s t : CodeSet) : CodeSet :=
  ⟨combineFrom f false false s.edges t.edges⟩

/-- The code points in at least one of the sets. -/
def union : CodeSet → CodeSet → CodeSet := combine (· || ·)

/-- The code points in both sets. -/
def intersection : CodeSet → CodeSet → CodeSet := combine (· && ·)

/-- The code points in the first set alone. -/
def difference : CodeSet → CodeSet → CodeSet := combine fun a b => a && !b

/-- The code points in exactly one of the sets. -/
def symmetricDifference : CodeSet → CodeSet → CodeSet := combine (· != ·)

instance : Union CodeSet := ⟨union⟩
instance : Inter CodeSet := ⟨intersection⟩
instance : SDiff CodeSet := ⟨difference⟩

/-- The union of several sets. -/
def unionOf (sets : List CodeSet) : CodeSet := sets.foldr (· ∪ ·) empty

/-- All characters: all code points but the surrogates. -/
def everything : CodeSet := ⟨[0, 0xD800, 0xE000, 0x110000]⟩

/-- All characters that are not in a set. -/
def complement (s : CodeSet) : CodeSet := everything \ s

/-! ### Membership in combinations -/

/-- A change at a code point does not show in front of it. -/
theorem insideFrom_changeAt_of_lt {n e : Nat} (h : n < e) {before after : Bool} {es : List Nat}
    (hes : ∀ e' ∈ es, n < e') :
    insideFrom before n (changeAt e before after es) = before := by
  unfold changeAt
  split
  · exact insideFrom_of_lt hes before
  · exact if_pos h

/-- A change at a code point shows from there on. -/
theorem insideFrom_changeAt_of_le {n e : Nat} (h : e ≤ n) (before after : Bool) (es : List Nat) :
    insideFrom before n (changeAt e before after es) = insideFrom after n es := by
  unfold changeAt
  split
  · next ha => rw [ha]
  · next ha =>
    rw [insideFrom, if_neg (Nat.not_lt.mpr h)]
    cases before <;> cases after <;> simp_all

/-- A combination has no edges but those of the two sets. -/
theorem lt_of_mem_combineFrom {n : Nat} (f : Bool → Bool → Bool) {a b : Bool} {xs ys : List Nat}
    (hx : ∀ x ∈ xs, n < x) (hy : ∀ y ∈ ys, n < y) : ∀ e ∈ combineFrom f a b xs ys, n < e := by
  fun_induction combineFrom f a b xs ys <;> simp_all [changeAt] <;> split <;> simp_all

/-- Whether a code point is inside of a combination depends on the two sets at that code point. -/
theorem insideFrom_combineFrom (f : Bool → Bool → Bool) {a b : Bool} {xs ys : List Nat} (n : Nat)
    (hx : xs.Pairwise (· < ·)) (hy : ys.Pairwise (· < ·)) :
    insideFrom (f a b) n (combineFrom f a b xs ys) =
      f (insideFrom a n xs) (insideFrom b n ys) := by
  fun_induction combineFrom f a b xs ys with
  | case1 => rfl
  | case2 a b x xs ih =>
    obtain ⟨hx, hxs⟩ := List.pairwise_cons.mp hx
    rcases Nat.lt_or_ge n x with hn | hn
    · rw [insideFrom_cons_of_lt hn, insideFrom_changeAt_of_lt hn]
      · rfl
      · exact lt_of_mem_combineFrom f (fun e he => Nat.lt_trans hn (hx e he)) (by simp)
    · rw [insideFrom_cons_of_le hn, insideFrom_changeAt_of_le hn, ih hxs hy]
  | case3 a b y ys ih =>
    obtain ⟨hy, hys⟩ := List.pairwise_cons.mp hy
    rcases Nat.lt_or_ge n y with hn | hn
    · rw [insideFrom_cons_of_lt hn, insideFrom_changeAt_of_lt hn]
      · rfl
      · exact lt_of_mem_combineFrom f (by simp) (fun e he => Nat.lt_trans hn (hy e he))
    · rw [insideFrom_cons_of_le hn, insideFrom_changeAt_of_le hn, ih hx hys]
  | case4 a b x xs y ys hxy ih =>
    obtain ⟨hxs, hxs'⟩ := List.pairwise_cons.mp hx
    have hys : ∀ e ∈ y :: ys, x < e := fun e he =>
      (List.mem_cons.mp he).elim (· ▸ hxy) fun he =>
        Nat.lt_trans hxy ((List.pairwise_cons.mp hy).1 e he)
    rcases Nat.lt_or_ge n x with hn | hn
    · rw [insideFrom_cons_of_lt hn, insideFrom_cons_of_lt (Nat.lt_trans hn hxy),
        insideFrom_changeAt_of_lt hn]
      exact lt_of_mem_combineFrom f (fun e he => Nat.lt_trans hn (hxs e he))
        fun e he => Nat.lt_trans hn (hys e he)
    · rw [insideFrom_cons_of_le hn, insideFrom_changeAt_of_le hn, ih hxs' hy]
  | case5 a b x xs y ys _ hyx ih =>
    obtain ⟨hys, hys'⟩ := List.pairwise_cons.mp hy
    have hxs : ∀ e ∈ x :: xs, y < e := fun e he =>
      (List.mem_cons.mp he).elim (· ▸ hyx) fun he =>
        Nat.lt_trans hyx ((List.pairwise_cons.mp hx).1 e he)
    rcases Nat.lt_or_ge n y with hn | hn
    · rw [insideFrom_cons_of_lt hn, insideFrom_cons_of_lt (Nat.lt_trans hn hyx),
        insideFrom_changeAt_of_lt hn]
      exact lt_of_mem_combineFrom f (fun e he => Nat.lt_trans hn (hxs e he))
        fun e he => Nat.lt_trans hn (hys e he)
    · rw [insideFrom_cons_of_le hn, insideFrom_changeAt_of_le hn, ih hx hys']
  | case6 a b x xs y ys hxy hyx ih =>
    obtain rfl : x = y := Nat.le_antisymm (Nat.not_lt.mp hyx) (Nat.not_lt.mp hxy)
    obtain ⟨hxs, hxs'⟩ := List.pairwise_cons.mp hx
    obtain ⟨hys, hys'⟩ := List.pairwise_cons.mp hy
    rcases Nat.lt_or_ge n x with hn | hn
    · rw [insideFrom_cons_of_lt hn, insideFrom_cons_of_lt hn, insideFrom_changeAt_of_lt hn]
      exact lt_of_mem_combineFrom f (fun e he => Nat.lt_trans hn (hxs e he))
        fun e he => Nat.lt_trans hn (hys e he)
    · rw [insideFrom_cons_of_le hn, insideFrom_cons_of_le hn, insideFrom_changeAt_of_le hn,
        ih hxs' hys']

/-- A code point is in a combination if what it is in of the two sets says so. -/
theorem contains_combine {f : Bool → Bool → Bool} (hf : f false false = false) {s t : CodeSet}
    (hs : s.edges.Pairwise (· < ·)) (ht : t.edges.Pairwise (· < ·)) (n : Nat) :
    (s.combine f t).contains n = f (s.contains n) (t.contains n) := by
  have h := insideFrom_combineFrom f (a := false) (b := false) n hs ht
  rwa [hf] at h

end CodeSet

end RelPlan
