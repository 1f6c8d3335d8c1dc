import CiPipeline.Export.Travis
import CiPipeline.Proofs.Yaml.Tree

/-!
# ReadBack — an exported file says its configuration

The file of a pipeline is read with the reader of definition files.  Names of stages and jobs and
the lines of processes may be any texts: the style of each line is chosen so that it is read as the
same text, and not as a number, a boolean or a collection.

* `TravisConfig.datum`: what the file of a configuration says;
* `TravisConfig.decode_write`: every configuration is read back;
* `exported_file_read_back`: so is what is exported of a pipeline.
-/

namespace CiPipeline

open Yaml

namespace TravisConfig

/-- A configuration as data. -/
def datum (c : TravisConfig) : Datum :=
  .record
    [(.text "language", .text c.language), (.text "node_js", .list (c.nodeVersions.map .text)),
      (.text "cache", .record [(.text "directories", .list (c.cachedDirectories.map .text))]),
      (.text "script", .list (c.script.map .text))]

theorem isName_field : ∀ name ∈ ["language", "node_js", "cache", "directories", "script"],
    IsName name := by
  decide

/-- The file of a configuration is read back, whatever its texts are. -/
theorem decode_write (c : TravisConfig) :
    Document.decode Definition.fileDatum c.write = .ok c.datum := by
  have isName := isName_field
  simp only [List.mem_cons, List.not_mem_nil, or_false, forall_eq_or_imp, forall_eq] at isName
  rcases isName with ⟨language, nodeVersions, cache, directories, script⟩
  have proper : (Form.record c.fields).Proper := by
    refine ⟨?_, ⟨language, trivial⟩, ⟨nodeVersions, trivial⟩, ⟨cache, ?_⟩, ⟨script, trivial⟩, trivial⟩
    · change ["language", "node_js", "cache", "script"].Nodup
      decide
    · refine ⟨?_, ⟨directories, trivial⟩, trivial⟩
      change ["directories"].Nodup
      decide
  have shallow : (Form.record c.fields).depth ≤ depthLimit := by
    change 3 ≤ 128
    decide
  exact Form.decode_write proper shallow

end TravisConfig

/-- The file that is exported of a pipeline is read as the configuration that the pipeline is
translated to: each line of the script is the same text, at the same place. -/
theorem exported_file_read_back (p : Pipeline) :
    ∃ text, p.exportFor "travis" = .ok text ∧
      Document.decode Definition.fileDatum text = .ok p.toTravis.datum :=
  ⟨p.toTravis.write, rfl, p.toTravis.decode_write⟩

end CiPipeline
