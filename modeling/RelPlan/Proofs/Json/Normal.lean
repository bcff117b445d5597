import RelPlan.Proofs.Json.Forms

/-!
# Normal texts

A value can be stored as many texts: the members of an object may stand in any order and among
others, a record may be an array, and what has a default may be missing. One of these texts is the
one that is written. It is read as the value it was written for, with every count (`Faithful`), and
so each text that can be read has the same meaning as a normal text, which is its own normal text.
This holds of every JSON form (`faithful_forms`).
-/

namespace RelPlan.Json

variable {α : Type} {read : Reader α} {toJson : α → Value}

/-- The text that is written for a value, on one line. -/
def encode (toJson : α → Value) (a : α) : String := (toJson a).toText .compact

/-- The text that is written for what a text is read as. -/
def normalise (read : Reader α) (toJson : α → Value) (text : String) : Except Fault String := do
  let a ← whole read text
  return encode toJson a

/-- Values can be stored as texts. -/
structure Faithful (read : Reader α) (toJson : α → Value) : Prop where
  /-- What is written for a value is read as that value. -/
  whole_encode (a : α) : whole read (encode toJson a) = .ok a
  /-- If a text is read as a value, however it is written, what is written for the value is read as
  the same value, and the same text is written for it again. -/
  again {text : String} {a : α} (h : whole read text = .ok a) :
    whole read (encode toJson a) = whole read text ∧
      normalise read toJson (encode toJson a) = normalise read toJson text

theorem faithful_of_reads (h : ∀ a, Reads read (toJson a) a) : Faithful read toJson where
  whole_encode a := (h a).whole_toText .compact
  again {text a} ha := by
    have hread : whole read (encode toJson a) = .ok a := (h a).whole_toText .compact
    constructor
    · rw [hread, ha]
    · rw [normalise, normalise, hread, ha]

/-- **Stored values**: attributes, predicates, relations, base relations, catalogues (whether or not
the rules of catalogues hold) and options can be stored as texts and are read as what they were. -/
theorem faithful_forms :
    Faithful Attribute.read Attribute.toJson ∧ Faithful Predicate.read Predicate.toJson ∧
      Faithful Relation.read Relation.toJson ∧ Faithful BaseRelation.read BaseRelation.toJson ∧
      Faithful Catalogue.read Catalogue.toJson ∧ Faithful Options.read Options.toJson :=
  ⟨faithful_of_reads Attribute.reads_toJson, faithful_of_reads Predicate.reads_toJson,
    faithful_of_reads Relation.reads_toJson,
    faithful_of_reads fun r => BaseRelation.reads_toJson r (by decide),
    faithful_of_reads Catalogue.reads_toJson, faithful_of_reads Options.reads_toJson⟩

/-- An attribute as an array, a member that nobody asks for, and the fields in another order. -/
example :
    whole Relation.read
        " \x7b \"attributes\": [[\"a\", 7]], \"note\": null, \"tuple_count\": 3 \x7d " =
      .ok ⟨.clamp 3, [⟨"a", .clamp 7⟩]⟩ := by
  decide +kernel

end RelPlan.Json
