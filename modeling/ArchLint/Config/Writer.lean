import ArchLint.Config.Basic
import ArchLint.Dump.Writer

/-! # Configurations as documents

* `Config.toJson` — a configuration with all its settings, whether they were given or not.
-/

namespace ArchLint

open Json (texts)

/-- A layout as a document. -/
def Layout.toJson (l : Layout) : Json :=
  .obj [("features_path", .str l.featuresPath), ("core_path", .str l.corePath),
    ("entity_patterns", texts l.entityPatterns), ("model_patterns", texts l.modelPatterns)]

/-- The suffixes as a document. -/
def Naming.toJson (n : Naming) : Json :=
  .obj [("entity_suffix", .str n.entitySuffix), ("model_suffix", .str n.modelSuffix),
    ("repository_suffix", .str n.repositorySuffix), ("bloc_suffix", .str n.blocSuffix),
    ("cubit_suffix", .str n.cubitSuffix)]

/-- The overrides as a document. -/
def Overrides.toJson (o : Overrides) : Json :=
  .obj (o.entries.map fun (rule, token) => (rule, .str token))

/-- The lint settings as a document. -/
def Linting.toJson (l : Linting) : Json :=
  .obj [("enabled", .bool l.enabled), ("severity", l.severity.toJson)]

/-- The choices of packages as a document. -/
def Templates.toJson (t : Templates) : Json :=
  .obj [("state_management", .str t.stateManagement), ("di_package", .str t.diPackage)]

/-- A configuration as a document. -/
def Config.toJson (c : Config) : Json :=
  .obj [("structure", c.layout.toJson), ("naming", c.naming.toJson), ("lint", c.lint.toJson),
    ("templates", c.templates.toJson)]

end ArchLint
