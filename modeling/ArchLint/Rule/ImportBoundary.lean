import ArchLint.Rule.Basic

/-! # Import boundaries

Rules that forbid the files of one layer to import certain packages or files in certain directories.

* `Layer` — the layers of a feature.
* `ImportBoundary` — a boundary, with steps that extend it.
* `ImportBoundary.violation?` — why an import crosses it.
* `Rule.domainNoDataImports` and the like — the boundaries between the layers.
-/

namespace ArchLint

/-- A layer of a feature. -/
inductive Layer where
  | domain
  | data
  | presentation
deriving DecidableEq, Repr

/-- The name of a layer at the beginning of a message. -/
def Layer.label : Layer → String
  | .domain => "Domain"
  | .data => "Data"
  | .presentation => "Presentation"

/-- The file lies in the layer. -/
def Layer.holds : Layer → FileContext → Bool
  | .domain, ctx => ctx.isDomainPath
  | .data, ctx => ctx.isDataPath
  | .presentation, ctx => ctx.isPresentationPath

/-- A boundary that the files of a layer must not import across. -/
structure ImportBoundary where
  code : String
  name : String
  description : String := ""
  correction : Option String := none
  source : Layer := .domain
  /-- What lies beyond the boundary, in messages. -/
  target : String := "forbidden"
  /-- Directories beyond the boundary. -/
  fragments : List String := []
  /-- Beginnings of URIs beyond the boundary. -/
  packages : List String := []
  severity : Severity := .error
deriving DecidableEq, Repr

namespace ImportBoundary

/-- The boundary with more directories beyond it. -/
def forbidFragments (b : ImportBoundary) (fragments : List String) : ImportBoundary :=
  { b with fragments := b.fragments ++ fragments }

/-- The boundary with more packages beyond it. -/
def forbidPackages (b : ImportBoundary) (packages : List String) : ImportBoundary :=
  { b with packages := b.packages ++ packages }

/-- The URI without its package scheme. -/
def withoutScheme (uri : String) : String :=
  if Text.startsWith uri "package:" then String.ofList (uri.toList.drop 8) else uri

/-- Why an import crosses the boundary, if it does: a package counts before a directory, and a core
library of the language crosses none. White space around a URI does not count. -/
def violation? (b : ImportBoundary) (uri : String) : Option String :=
  let uri := Text.trim uri
  match b.packages.find? (Text.startsWith uri) with
  | some package => some ("`" ++ package ++ "`")
  | none =>
    if Text.startsWith uri "dart:" then none
    else
      let path := NormalPath.of (withoutScheme uri)
      (b.fragments.find? path.contains).map fun fragment => "a `/" ++ fragment ++ "/` path"

/-- What the boundary says of an import. -/
def finding? (b : ImportBoundary) (r : Reference) : Option Finding :=
  (b.violation? r.uri).map fun reason =>
    ⟨r.span, b.source.label ++ " layer must not import " ++ b.target ++ " code: '" ++ r.uri ++
      "' matches " ++ reason⟩

/-- The boundary as a rule. -/
def rule (b : ImportBoundary) : Rule where
  name := b.name
  code := b.code
  description := b.description
  severity := b.severity
  correction := b.correction
  findings := fun ctx u => some (if b.source.holds ctx then u.imports.filterMap b.finding? else [])

end ImportBoundary

/-- Directories of a data layer. -/
def dataFragments : List String :=
  ["data", "models", "datasources"]

/-- Directories of a presentation layer. -/
def presentationFragments : List String :=
  ["presentation", "blocs", "cubits", "pages", "widgets", "screens"]

/-- Libraries for user interfaces. -/
def userInterfacePackages : List String :=
  ["package:flutter/material.dart", "package:flutter/widgets.dart",
    "package:flutter/cupertino.dart"]

/-- Clients of servers and stores. -/
def dataClientPackages : List String :=
  ["package:dio/", "package:http/", "package:sqflite/", "package:hive/",
    "package:shared_preferences/"]

namespace Rule

/-- The domain does not import the data layer. -/
def domainNoDataImports : Rule :=
  ImportBoundary.rule
    { code := "CMA010", name := "domain_no_data_imports", source := .domain, target := "data",
      fragments := dataFragments, packages := dataClientPackages,
      description := "Domain layer must not import from the data layer",
      correction := some
        "Depend on a domain abstraction (entity or repository interface) instead" }

/-- The domain does not import the presentation layer. -/
def domainNoPresentationImports : Rule :=
  ImportBoundary.rule
    { code := "CMA011", name := "domain_no_presentation_imports", source := .domain,
      target := "presentation", fragments := presentationFragments,
      packages := userInterfacePackages,
      description := "Domain layer must not import from the presentation layer",
      correction := some
        "Keep the domain free of UI code; let presentation depend on domain instead" }

/-- The data layer does not import the presentation layer. -/
def dataNoPresentationImports : Rule :=
  ImportBoundary.rule
    { code := "CMA012", name := "data_no_presentation_imports", source := .data,
      target := "presentation", fragments := presentationFragments,
      packages := userInterfacePackages,
      description := "Data layer must not import from the presentation layer",
      correction := some
        "Expose data through repositories; presentation depends on data, not the reverse" }

end Rule

end ArchLint
