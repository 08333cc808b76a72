import PluginOrder.Resolution

/-!
# What a resolution reads of its configuration

A configuration holds settings for matching versions and settings for the log.  Two configurations
agree if they match versions in the same way.  One lemma for each step from a single import to the
whole resolution says that the step comes to the same under both, its journal included: what is
reported does not depend on what is shown.
-/

namespace PluginOrder

/-- Two configurations match versions in the same way. -/
structure Config.Agrees (c c' : Config) : Prop where
  looseVersions : c.looseVersions = c'.looseVersions
  includePrerelease : c.includePrerelease = c'.includePrerelease

variable {c c' : Config}

namespace Config.Agrees

/-! ## Matching an import -/

theorem dialect_eq (h : c.Agrees c') : c.dialect = c'.dialect := by
  rw [Config.dialect, Config.dialect, h.looseVersions]

theorem isRange_eq (h : c.Agrees c') : c.isRange = c'.isRange := by
  funext range
  cases range <;> simp only [Config.isRange, h.dialect_eq]

theorem accepts_eq (h : c.Agrees c') : c.accepts = c'.accepts := by
  funext version range
  cases range <;> simp only [Config.accepts, h.dialect_eq, h.includePrerelease]

theorem scan_eq (h : c.Agrees c') (provider : String) (range : Value) (seen : Bool)
    (services : List Service) :
    Import.scan c provider range seen services = Import.scan c' provider range seen services := by
  induction services generalizing seen with
  | nil => rfl
  | cons service rest ih => simp only [Import.scan, h.accepts_eq, ih]

theorem validate_eq (h : c.Agrees c') : Import.validate c = Import.validate c' := by
  funext i provider?
  cases provider? with
  | none => rfl
  | some provider => simp only [Import.validate, h.isRange_eq, h.scan_eq]

/-! ## Building the graph and resolving -/

theorem addImport_eq (h : c.Agrees c') : Building.addImport c = Building.addImport c' := by
  funext catalog importer b i
  simp only [Building.addImport, h.validate_eq]

theorem addImports_eq (h : c.Agrees c') : Building.addImports c = Building.addImports c' := by
  funext catalog importer b imports
  induction imports generalizing b with
  | nil => rfl
  | cons i rest ih => simp only [Building.addImports, h.addImport_eq, ih]

theorem addPlugin_eq (h : c.Agrees c') : Building.addPlugin c = Building.addPlugin c' := by
  funext catalog b key p
  simp only [Building.addPlugin, h.addImports_eq]

theorem buildGraph_eq (h : c.Agrees c') (catalog : Catalog) :
    catalog.buildGraph c = catalog.buildGraph c' := by
  simp only [Catalog.buildGraph, h.addPlugin_eq]

theorem resolve_eq (h : c.Agrees c') (catalog : Catalog) :
    catalog.resolve c = catalog.resolve c' := by
  simp only [Catalog.resolve, h.buildGraph_eq]

end Config.Agrees

end PluginOrder
