import SqlRoutes.Command.Run
import SqlRoutes.Proofs.Json.RoundTrip

namespace SqlRoutes

section Reading

def Value.text? : Value → Option String
  | .text s => some s
  | _ => none

def Value.items? : Value → Option (List Value)
  | .list items => some items
  | _ => none

/-- The values of a map that has entries of just these names, in this order. -/
def Value.fields? (names : List String) : Value → Option (List Value)
  | .map entries =>
    if entries.map (fun entry => entry.1.text?) = names.map some then some (entries.map (·.2))
    else none
  | _ => none

def Placeholder.shown? (document : Value) : Option Placeholder :=
  match document.fields? ["style", "marker"] with
  | some [style, marker] => do (ofNames (← style.text?) (← marker.text?)).toOption
  | _ => none

def Query.shown? (document : Value) : Option Query :=
  match document.fields? ["name", "sql", "rewritten_sql", "parameters", "placeholder"] with
  | some [name, sql, prepared, parameters, placeholder] => do
    return ⟨← name.text?, ← sql.text?, ← prepared.text?,
      ← (← parameters.items?).mapM Value.text?, ← Placeholder.shown? placeholder⟩
  | _ => none

def Route.shown? (document : Value) : Option Route :=
  match document.fields? ["method", "pattern", "queries"] with
  | some [method, pattern, queries] => do
    return ⟨← pattern.text?, ← method.text?, ← (← queries.items?).mapM Query.shown?⟩
  | _ => none

/-- The driver, the text of its placeholder and the routes that a document shows. -/
def RouteConfig.shown? (document : Value) : Option (String × String × List Route) :=
  match document.fields? ["driver", "placeholder", "routes"] with
  | some [driver, placeholder, routes] => do
    return (← driver.text?, ← placeholder.text?, ← (← routes.items?).mapM Route.shown?)
  | _ => none

end Reading

section Fields

def Placeholder.fields (p : Placeholder) : List (String × Value) :=
  [("style", .text p.style.name), ("marker", .text (.ofList [p.marker]))]

def Query.fields (query : Query) : List (String × Value) :=
  [("name", .text query.name), ("sql", .text query.sql), ("rewritten_sql", .text query.prepared),
    ("parameters", .list (query.parameters.map .text)),
    ("placeholder", .map (Json.keyed query.placeholder.fields))]

def Route.fields (route : Route) : List (String × Value) :=
  [("method", .text route.method), ("pattern", .text route.pattern),
    ("queries", .list (route.queries.map Query.document))]

def RouteConfig.fields (config : RouteConfig) : List (String × Value) :=
  [("driver", .text config.driver), ("placeholder", .text config.binding.placeholder.text),
    ("routes", .list (config.routes.map Route.document))]

end Fields

theorem Query.document_eq (query : Query) : query.document = .map (Json.keyed query.fields) := rfl

theorem Route.document_eq (route : Route) : route.document = .map (Json.keyed route.fields) := rfl

theorem RouteConfig.document_eq (config : RouteConfig) :
    config.document = .map (Json.keyed config.fields) := rfl

section Plain

open Json (Plain)

theorem Placeholder.plain_fields (p : Placeholder) : Plain (.map (Json.keyed p.fields)) :=
  .map (by simp [fields]) (by simp [fields, Plain.text])

theorem Query.plain_document (query : Query) : Plain query.document := by
  have names : Plain (.list (query.parameters.map .text)) := .list (by simp [Plain.text])
  rw [document_eq]
  exact .map (by simp [fields]) (by simp [fields, Plain.text, names, Placeholder.plain_fields])

theorem Route.plain_document (route : Route) : Plain route.document := by
  have queries : Plain (.list (route.queries.map Query.document)) :=
    .list (by simp [Query.plain_document])
  rw [document_eq]
  exact .map (by simp [fields]) (by simp [fields, Plain.text, queries])

theorem RouteConfig.plain_document (config : RouteConfig) : Plain config.document := by
  have routes : Plain (.list (config.routes.map Route.document)) :=
    .list (by simp [Route.plain_document])
  rw [document_eq]
  exact .map (by simp [fields]) (by simp [fields, Plain.text, routes])

end Plain

section Shown

theorem Value.fields?_keyed (entries : List (String × Value)) :
    Value.fields? (entries.map (·.1)) (.map (Json.keyed entries)) = some (entries.map (·.2)) := by
  have names : (Json.keyed entries).map (fun entry => entry.1.text?) =
      (entries.map (·.1)).map some := by
    simp [Json.keyed, Value.text?]
  rw [Value.fields?, if_pos names, Json.keyed, List.map_map]
  rfl

theorem mapM_map_of_some {α β : Type} {f : α → β} {g : β → Option α} (items : List α)
    (each : ∀ a, g (f a) = some a) : (items.map f).mapM g = some items := by
  induction items with
  | nil => rfl
  | cons a items ih =>
    rw [List.map_cons, List.mapM_cons, each, ih]
    rfl

theorem Placeholder.ofNames_name (p : Placeholder) :
    ofNames p.style.name (.ofList [p.marker]) = .ok p := by
  obtain ⟨style, marker⟩ := p
  have known : Style.ofName? style.name = some style := by cases style <;> rfl
  rw [ofNames, known]
  simp [make]

theorem Placeholder.shown?_fields (p : Placeholder) :
    shown? (.map (Json.keyed p.fields)) = some p := by
  have found : Value.fields? ["style", "marker"] _ = _ := Value.fields?_keyed p.fields
  rw [shown?, found]
  change (ofNames p.style.name (.ofList [p.marker])).toOption = _
  rw [ofNames_name]
  rfl

theorem Query.shown?_document (query : Query) : shown? query.document = some query := by
  have found : Value.fields? ["name", "sql", "rewritten_sql", "parameters", "placeholder"] _ = _ :=
    Value.fields?_keyed query.fields
  have names : (query.parameters.map Value.text).mapM Value.text? = some query.parameters :=
    mapM_map_of_some _ fun _ => rfl
  rw [shown?, document_eq, found]
  simp [fields, Value.text?, Value.items?, names, Placeholder.shown?_fields]

theorem Route.shown?_document (route : Route) : shown? route.document = some route := by
  have found : Value.fields? ["method", "pattern", "queries"] _ = _ :=
    Value.fields?_keyed route.fields
  have queries := mapM_map_of_some route.queries Query.shown?_document
  rw [shown?, document_eq, found]
  simp [fields, Value.text?, Value.items?, queries]

theorem RouteConfig.shown?_document (config : RouteConfig) : shown? config.document =
    some (config.driver, config.binding.placeholder.text, config.routes) := by
  have found : Value.fields? ["driver", "placeholder", "routes"] _ = _ :=
    Value.fields?_keyed config.fields
  have routes := mapM_map_of_some config.routes Route.shown?_document
  rw [shown?, document_eq, found]
  simp [fields, Value.text?, Value.items?, routes]

end Shown

theorem Command.report_document {v : Value} (plain : Json.Plain v) (log : List String) :
    let report := (Output.document v).report log
    report.exitCode = 0 ∧ report.broken = none ∧ report.items = [] ∧
      Json.readText report.echoed.toList = .ok v := by
  obtain ⟨text, written, reads⟩ := Json.readText_write plain
  have again := reads ['\n'] (List.forall_mem_singleton.2 rfl)
  simp only [Output.report, written, String.toList_ofList]
  exact ⟨trivial, trivial, trivial, again⟩

end SqlRoutes
