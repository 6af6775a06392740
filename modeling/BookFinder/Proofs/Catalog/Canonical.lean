import BookFinder.Proofs.Catalog.Payload

/-! # One text for each record

A record may be written in many ways: its members in any order and with others between them, by
either name of its number, with escapes, or as an array. Written again after it has been read, it
has one text alone. -/

namespace BookFinder.Catalog

/-- The text of the record that a payload holds. -/
def Record.rewritten (payload : String) : Option String :=
  (Record.read payload).map fun record => record.toJson.render

theorem Record.read_render (record : Record) : Record.read record.toJson.render = some record := by
  rw [Record.read, Json.read_render record.natural_toJson, Option.bind_some, Record.ofJson_toJson]

theorem Record.read_eq_some_iff {payload : String} {record : Record} :
    Record.read payload = some record ↔
      ∃ json, Json.WritesElement payload.toList json ∧ IsRecord json record := by
  simp only [Record.read, Option.bind_eq_some_iff, Json.read_eq_some_iff,
    Record.ofJson_eq_some_iff]

theorem Record.render_inj {record other : Record} :
    record.toJson.render = other.toJson.render ↔ record = other := by
  constructor
  · intro h
    have hread := Record.read_render record
    rw [h, Record.read_render] at hread
    exact (Option.some.inj hread).symm
  · intro h
    rw [h]

theorem Record.rewritten_of_read {payload : String} {record : Record}
    (h : Record.read payload = some record) :
    Record.rewritten payload = some record.toJson.render := by
  rw [Record.rewritten, h, Option.map_some]

/-- A record is read from its text as it was. Whatever payload it is read from, as a value that
stands for it, its text is read as the same record and comes out the same when it is written once
more. Two payloads hold one record if and only if they are rewritten as one text. -/
theorem Record.rewriting_canonical :
    (∀ record, Record.read record.toJson.render = some record) ∧
    (∀ (payload : String) (record : Record),
      Record.read payload = some record ↔
        ∃ json, Json.WritesElement payload.toList json ∧ IsRecord json record) ∧
    (∀ (payload : String) (record : Record), Record.read payload = some record →
      ∃ text, Record.rewritten payload = some text ∧ Record.read text = some record ∧
        Record.rewritten text = some text) ∧
    ∀ (payload other : String) (record otherRecord : Record),
      Record.read payload = some record → Record.read other = some otherRecord →
      (record = otherRecord ↔ Record.rewritten payload = Record.rewritten other) := by
  refine ⟨Record.read_render, fun _ _ => Record.read_eq_some_iff, ?_, ?_⟩
  · intro payload record h
    have hread := Record.read_render record
    exact ⟨_, Record.rewritten_of_read h, hread, Record.rewritten_of_read hread⟩
  · intro payload other record otherRecord h hother
    rw [Record.rewritten_of_read h, Record.rewritten_of_read hother, Option.some.injEq,
      Record.render_inj]

/-- A record as an object with an escaped pair and with half a pair in a member of no meaning, and as
an array. -/
example :
    Record.rewritten
        "\x7b\"isbn13\": \"978\", \"note\": [\"\\ud83d\"], \"title\": \"\\ud83d\\udcd5\"\x7d" =
      Record.rewritten "[\"📕\", \"\", \"\", \"978\"]" := by
  decide +kernel

end BookFinder.Catalog
