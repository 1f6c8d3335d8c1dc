import CiPipeline.Definition.Basic
import CiPipeline.Proofs.Data.Fields

/-!
# Parse — texts and the data of their descriptions

A text that is accepted has a description; any other is no definition, whatever is wrong with it.

* `Definition.parse_ok_iff`: what is accepted;
* `Definition.invalid_of_not_ok`: what is said of any other text;
* `Definition.decode_of_read`, `Definition.ok_of_parse`: the description comes from one entry of the
  text's datum.
-/

namespace CiPipeline
namespace Definition

open Datum

theorem parse_ok_iff {text : String} {path : Path} {definition : Definition} :
    parse text path = .ok definition ↔ decode text = .ok definition := by
  delta parse
  cases decode text with
  | error e => simp
  | ok definition' => simp

theorem invalid_of_not_ok {text : String} {path : Path}
    (refused : ∀ definition, parse text path ≠ .ok definition) :
    ∃ reason, parse text path = .error (.invalidExport path reason) := by
  cases decoded : decode text with
  | error e =>
      refine ⟨e.message .yaml, ?_⟩
      delta parse
      rw [decoded]
  | ok definition => exact absurd (parse_ok_iff.2 decoded) (refused definition)

/-- A text that can be read is described by its entry. -/
theorem decode_of_read {text : String} {file entry : Datum} {fields : List (Datum × Datum)}
    (read : Yaml.Document.decode fileDatum text = .ok file) (top : file.untagged = .record fields)
    (root : field? rootKey fields = some entry) : decode text = ofDatum entry := by
  rw [decode, read]
  change ofFileDatum file = _
  simp only [ofFileDatum, top, root]

/-- The datum of a text that can be read is the datum of its document. -/
theorem eq_datum_of_read {text : String} {file : Datum}
    (read : Yaml.Document.decode fileDatum text = .ok file) :
    file = (Yaml.Document.ofText text).datum .full := by
  rcases Except.bind_ok read with ⟨datum, judged, whole⟩
  have datum_eq : datum = (Yaml.Document.ofText text).datum .full := by
    rw [fileDatum] at judged
    cases checked : ((Yaml.Document.ofText text).datum .full).check with
    | error e =>
        rw [checked] at judged
        cases judged
    | ok _ =>
        rw [checked] at judged
        exact (Except.ok.inj judged).symm
  split_ifs at whole
  rw [← datum_eq]
  exact (Except.ok.inj whole).symm

theorem ok_of_parse {text : String} {path : Path} {fields : List (Datum × Datum)} {entry : Datum}
    {definition : Definition}
    (top : ((Yaml.Document.ofText text).datum .full).untagged = .record fields)
    (root : field? rootKey fields = some entry) (ok : parse text path = .ok definition) :
    ofDatum entry = .ok definition := by
  have decoded := parse_ok_iff.1 ok
  rcases Except.bind_ok decoded with ⟨file, read, _⟩
  rw [← eq_datum_of_read read] at top
  rwa [decode_of_read read top root] at decoded

end Definition
end CiPipeline
