import ArchLint.Config.Basic
import ArchLint.Yaml.Value

/-! # Configurations in YAML

The settings lie under one key of a YAML document, in sections. Whatever the document leaves out has its
default; keys that are no settings are passed over.

* `Config.ofDocument?` — the configuration in a document.
* `Config.ofText?` — the configuration in a text.
-/

namespace ArchLint

open Yaml (Document Node defaulted?)

/-- The layout in a section. -/
def Layout.ofNode? (d : Document) (n : Node) : Option Layout := do
  let entries ← d.entries? n
  let default : Layout := {}
  return {
    featuresPath := ← defaulted? entries "features_path" default.featuresPath d.text?
    corePath := ← defaulted? entries "core_path" default.corePath d.text?
    entityPatterns := ← defaulted? entries "entity_patterns" default.entityPatterns d.texts?
    modelPatterns := ← defaulted? entries "model_patterns" default.modelPatterns d.texts? }

/-- The naming in a section. -/
def Naming.ofNode? (d : Document) (n : Node) : Option Naming := do
  let entries ← d.entries? n
  let default : Naming := {}
  return {
    entitySuffix := ← defaulted? entries "entity_suffix" default.entitySuffix d.text?
    modelSuffix := ← defaulted? entries "model_suffix" default.modelSuffix d.text?
    repositorySuffix := ← defaulted? entries "repository_suffix" default.repositorySuffix d.text?
    blocSuffix := ← defaulted? entries "bloc_suffix" default.blocSuffix d.text?
    cubitSuffix := ← defaulted? entries "cubit_suffix" default.cubitSuffix d.text? }

/-- The severities of single rules. Of two for one rule the last one counts. -/
def Overrides.ofNode? (d : Document) (n : Node) : Option Overrides := do
  let entries ← d.entries? n
  let tokens ← entries.mapM fun (name, value) => (d.text? value).map (name, ·)
  return Overrides.ofList tokens

/-- The lint settings in a section. -/
def Linting.ofNode? (d : Document) (n : Node) : Option Linting := do
  let entries ← d.entries? n
  let default : Linting := {}
  return {
    enabled := ← defaulted? entries "enabled" default.enabled d.flag?
    severity := ← defaulted? entries "severity" default.severity (Overrides.ofNode? d) }

/-- The choices of packages in a section. -/
def Templates.ofNode? (d : Document) (n : Node) : Option Templates := do
  let entries ← d.entries? n
  let default : Templates := {}
  return {
    stateManagement := ← defaulted? entries "state_management" default.stateManagement d.text?
    diPackage := ← defaulted? entries "di_package" default.diPackage d.text? }

namespace Config

/-- The key that the settings lie under. -/
def key : String :=
  "clean_modular_architecture"

/-- A section, or what holds without it. A section may be null. -/
def section? {α : Type} (d : Document) (entries : List (String × Node)) (name : String)
    (fallback : α) (read : Node → Option α) : Option α :=
  defaulted? entries name fallback fun n => (d.optional? read n).map (·.getD fallback)

/-- The configuration from its sections. -/
def ofNode? (d : Document) (n : Node) : Option Config := do
  let entries ← d.entries? n
  return {
    layout := ← section? d entries "structure" {} (Layout.ofNode? d)
    naming := ← section? d entries "naming" {} (Naming.ofNode? d)
    lint := ← section? d entries "lint" {} (Linting.ofNode? d)
    templates := ← section? d entries "templates" {} (Templates.ofNode? d) }

/-- The configuration in a document. -/
def ofDocument? (d : Document) : Option Config :=
  (d.optional? (fun n => (d.entries? n).bind fun entries => section? d entries key {} (ofNode? d))
    d.root).map (·.getD {})

/-- The configuration in a text. A blank text sets nothing. -/
def ofText? (text : String) : Option Config :=
  if Text.allBlank text then some {} else (Document.read? text).bind ofDocument?

end Config

end ArchLint
