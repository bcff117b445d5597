import RelPlan.Proofs.Catalogue.Loading
import RelPlan.Proofs.Json.Forms

/-!
# Storing and loading a catalogue

The text of a catalogue lists its relations as they are (`relationsOfText_toText`), whether or not
the rules of catalogues hold. If they do, the relations can be entered again one by one; so a valid
catalogue that is stored and loaded comes back as it was (`ofText_toText`).
-/

namespace RelPlan.Catalogue

theorem relationsOfText_toText (c : Catalogue) : relationsOfText c.toText = .ok c.relations := by
  rw [relationsOfText, toText, c.reads_toJson.whole_toText]

/-- **Round trip**: a valid catalogue that is stored as a text can be loaded from it, and comes back
with the same relations, statistics and attributes in the same order, whatever characters are in the
names and however large the counts are. -/
theorem ofText_toText {c : Catalogue} (hc : c.Valid) : (ofText c.toText).result = .ok c := by
  rw [ofText, Logged.result_bind, Logged.result_ofExcept, relationsOfText_toText]
  exact result_load_of_valid hc

/-- Names with nothing in them, with characters that have to be escaped or lie far out, and the
largest count. -/
def oddlyNamed : Catalogue :=
  ⟨[⟨"", .clamp countLimit, [⟨"\"\\/", 1⟩, ⟨"\x00\x08\t\n\x1f\x7f", .clamp countLimit⟩]⟩,
    ⟨"relations", 0, []⟩, ⟨"𝄞 é", .clamp 10, [⟨"", .clamp 10⟩]⟩]⟩

theorem ofText_oddlyNamed :
    oddlyNamed.Valid ∧ (ofText oddlyNamed.toText).result = .ok oddlyNamed := by
  have hvalid : oddlyNamed.Valid := ⟨by decide, by decide, by decide⟩
  exact ⟨hvalid, ofText_toText hvalid⟩

end RelPlan.Catalogue
