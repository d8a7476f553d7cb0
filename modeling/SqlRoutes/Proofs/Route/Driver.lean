import SqlRoutes.Proofs.Route.Reading
import SqlRoutes.Proofs.Value.Display

/-!
Whether a configuration names its driver. In lines it always does: a first line without a driver is
refused. A document has to give its driver a value that counts as true; the text of the value is
stripped after that, so that a text of white space alone ends in a driver without a name.
-/
namespace SqlRoutes.Route

open Log

namespace Document

section Drivers

variable (document : Graph)

def driverAt? : Option Place := do
  let entries ← entriesAt? document document.root
  let database ← entriesAt? document (document.field? entries "db")
  document.field? database "driver"

def Undriven : Prop := ∀ place ∈ driverAt? document, (document.cell place).truthy = false

def BlankDriver : Prop :=
  ∃ place ∈ driverAt? document, ∃ s, document.cell place = .text s ∧ s ≠ "" ∧ stripped s = ""

end Drivers

theorem stripped_stripped (text : String) : stripped (stripped text) = stripped text := by
  simp only [stripped, String.toList_ofList, Text.strip_strip]

theorem stripped_ne_empty {text : String} (filled : Filled text.toList) : stripped text ≠ "" := by
  obtain ⟨c, member, isFilled⟩ := filled
  simpa [stripped] using Text.strip_ne_nil member isFilled

section Loading

variable {document : Graph} {source : String} {strict : Bool} {config : RouteConfig}

theorem driverAt?_eq {entries database : List (Place × Place)}
    (root : document.rootCell = .map entries)
    (cell : document.cellAt (document.field? entries "db") = .map database) :
    driverAt? document = document.field? database "driver" := by
  have outer : entriesAt? document document.root = some entries := by
    change document.cellAt (some document.root) = .map entries at root
    simp only [entriesAt?, root]
  have inner : entriesAt? document (document.field? entries "db") = some database := by
    simp only [entriesAt?, cell]
  simp only [driverAt?, outer, inner, Option.bind_eq_bind, Option.bind_some]

theorem exists_place {place : Option Place} {text : String}
    (read : textOrEmpty document place = .ok text) (nonempty : text ≠ "") :
    ∃ found, place = some found ∧ (document.cell found).truthy = true ∧
      document.display found = .ok text := by
  have absent : textOrEmpty document place ≠ .ok "" := by
    intro empty
    exact nonempty (Except.ok.inj (read.symm.trans empty))
  unfold textOrEmpty at read absent
  split at read
  · exact absurd rfl absent
  · next found =>
    split at read
    · next truthy =>
      refine ⟨found, rfl, truthy, ?_⟩
      unfold Document.text at read
      cases shown : document.display found with
      | error e =>
        rw [shown] at read
        cases read
      | ok other =>
        rw [shown] at read
        obtain rfl := Except.ok.inj read
        rfl
    · exact absurd (Except.ok.inj read).symm nonempty

theorem exists_driver_of_database {entries : List (Place × Place)} {driver options : String}
    (read : database document source entries = .ok (driver, options)) :
    ∃ fields text, document.cellAt (document.field? entries "db") = .map fields ∧
      textOrEmpty document (document.field? fields "driver") = .ok text ∧ text ≠ "" ∧
      driver = stripped text := by
  unfold database at read
  split at read
  · next fields cell =>
    cases found : textOrEmpty document (document.field? fields "driver") with
    | error e =>
      rw [found] at read
      cases read
    | ok text =>
      rw [found] at read
      by_cases empty : text = ""
      · rw [empty] at read
        cases read
      · simp only [bind, Except.bind, if_neg empty] at read
        split at read
        · cases read
        · obtain ⟨rfl, -⟩ := Prod.mk.inj (Except.ok.inj read)
          exact ⟨fields, text, cell, found, empty, rfl⟩
  · cases read

theorem exists_driver (loaded : (load source strict document).outcome = .ok config) :
    ∃ place text, driverAt? document = some place ∧ (document.cell place).truthy = true ∧
      document.display place = .ok text ∧ config.driver = stripped text := by
  unfold load at loaded
  split at loaded
  · next entries root =>
    obtain ⟨⟨driver, options⟩, read, later⟩ := Traced.outcome_bind_eq_ok.1 loaded
    obtain ⟨places, -, later⟩ := Traced.outcome_bind_eq_ok.1 later
    obtain ⟨binding, -, later⟩ := Traced.outcome_bind_eq_ok.1 later
    obtain ⟨routes, -, same⟩ := Traced.outcome_bind_eq_ok.1 later
    obtain rfl := Except.ok.inj same
    obtain ⟨fields, text, cell, isText, nonempty, named⟩ := exists_driver_of_database read
    obtain ⟨place, stands, truthy, shown⟩ := exists_place isText nonempty
    exact ⟨place, text, (driverAt?_eq root cell).trans stands, truthy, shown, named⟩
  · cases loaded

theorem database_of_undriven {entries : List (Place × Place)}
    (root : document.rootCell = .map entries) (undriven : Undriven document) :
    database document source entries = .error (.defect source ⟨.driverUnset, none⟩) := by
  unfold database
  split
  · next fields cell =>
    have nothing : textOrEmpty document (document.field? fields "driver") = .ok "" := by
      rw [Undriven, driverAt?_eq root cell] at undriven
      unfold textOrEmpty
      split
      · rfl
      · next place stands => rw [undriven place stands, if_neg Bool.false_ne_true]
    rw [nothing]
    rfl
  · rfl

theorem load_of_undriven (undriven : Undriven document) :
    ∃ problem ∈ [Problem.notMapping, .driverUnset],
      (load source strict document).outcome = .error (.defect source ⟨problem, none⟩) := by
  unfold load
  split
  · next entries root =>
    refine ⟨.driverUnset, by simp, ?_⟩
    rw [Traced.outcome_bind, Traced.outcome_ofExcept, database_of_undriven root undriven]
    rfl
  · exact ⟨.notMapping, by simp, rfl⟩

theorem driver_stripped (loaded : (load source strict document).outcome = .ok config) :
    stripped config.driver = config.driver := by
  obtain ⟨_, text, -, -, -, driver⟩ := exists_driver loaded
  rw [driver, stripped_stripped]

theorem driver_eq_empty_iff (loaded : (load source strict document).outcome = .ok config) :
    config.driver = "" ↔ BlankDriver document := by
  obtain ⟨place, text, stands, truthy, shown, driver⟩ := exists_driver loaded
  constructor
  · intro empty
    have nothing : stripped text = "" := driver.symm.trans empty
    by_cases isText : ∃ s, document.cell place = .text s
    · obtain ⟨s, cell⟩ := isText
      obtain rfl := Except.ok.inj ((Graph.display_text cell).symm.trans shown)
      have nonempty : s ≠ "" := by simpa [cell, Cell.truthy, Atom.truthy] using truthy
      exact ⟨place, stands, s, cell, nonempty, nothing⟩
    · have filled := Graph.filled_display shown fun s cell => isText ⟨s, cell⟩
      exact absurd nothing (stripped_ne_empty filled)
  · rintro ⟨other, stands', s, cell, -, nothing⟩
    obtain rfl := Option.some.inj (stands.symm.trans stands')
    obtain rfl := Except.ok.inj ((Graph.display_text cell).symm.trans shown)
    exact driver.trans nothing

end Loading

end Document

namespace Conf

theorem driverOf_eq_stripped (line : List Char) :
    driverOf line = Document.stripped (.ofList ((Text.strip line).takeWhile (· ≠ ' '))) := by
  simp only [driverOf, Document.stripped, String.toList_ofList]

theorem driverOf_ne_empty {line : List Char} (filled : isBlankLine line = false) :
    driverOf line ≠ "" := by
  have some : Text.strip line ≠ [] := by simpa [isBlankLine] using filled
  obtain ⟨c, rest, shape⟩ := List.exists_cons_of_ne_nil some
  have first : Text.isBlank c = false := by
    have head := Text.head_of_strip_eq (Text.strip_strip line)
    simpa [shape] using head
  have notSpace : c ≠ ' ' := by
    intro same
    rw [same] at first
    cases first
  have kept : Filled (String.ofList ((Text.strip line).takeWhile (· ≠ ' '))).toList :=
    ⟨c, by simp [shape, notSpace], first⟩
  rw [driverOf_eq_stripped]
  exact Document.stripped_ne_empty kept

theorem driver_of_ok {source : String} {strict : Bool} {text : List Char} {config : RouteConfig}
    (parsed : (parse source strict text).outcome = .ok config) :
    config.driver ≠ "" ∧ Document.stripped config.driver = config.driver := by
  obtain ⟨first, rest, -, filled, driver, -⟩ := parse_eq_ok_iff.1 parsed
  rw [driver]
  refine ⟨driverOf_ne_empty filled, ?_⟩
  rw [driverOf_eq_stripped, Document.stripped_stripped]

end Conf

/-- A configuration in lines is loaded with a driver that has a name, and a first line without one is
refused. A document without a driver is refused, too; the driver it is loaded with is without white
space around it, and has a name unless the document gives it as a text of white space. -/
theorem driver_named (source : String) (strict : Bool) :
    (∀ text config, (Conf.parse source strict text).outcome = .ok config →
      config.driver ≠ "" ∧ Document.stripped config.driver = config.driver) ∧
    (∀ text, (∀ first ∈ (Text.splitLines text).head?, Conf.isBlankLine first = true) →
      (Conf.parse source strict text).outcome =
        .error (.defect source ⟨.driverLineMissing, some 1⟩)) ∧
    (∀ document config, (Document.load source strict document).outcome = .ok config →
      Document.stripped config.driver = config.driver ∧
        (config.driver = "" ↔ Document.BlankDriver document)) ∧
    (∀ document, Document.Undriven document → ∃ problem ∈ [Problem.notMapping, .driverUnset],
      (Document.load source strict document).outcome =
        .error (.defect source ⟨problem, none⟩)) ∧
    ∀ text, (∃ e, Yaml.load text = .error e ∧
        (parseYaml source strict text).outcome = .error (yamlError source e)) ∨
      ∃ document, Yaml.load text = .ok document ∧
        (parseYaml source strict text).outcome = (Document.load source strict document).outcome := by
  refine ⟨?_, ?_, ?_, ?_, ?_⟩
  · intro text config parsed
    exact Conf.driver_of_ok parsed
  · intro text blank
    exact Conf.parse_of_driverless source strict blank
  · intro document config loaded
    exact ⟨Document.driver_stripped loaded, Document.driver_eq_empty_iff loaded⟩
  · intro document undriven
    exact Document.load_of_undriven undriven
  · intro text
    cases read : Yaml.load text with
    | error e =>
      refine .inl ⟨e, rfl, ?_⟩
      rw [parseYaml, Traced.outcome_bind, Traced.outcome_ofExcept, read]
      rfl
    | ok document => exact .inr ⟨document, rfl, parseYaml_of_load read⟩

theorem driver_named_blank :
    (∃ config, (Conf.parse "a" false "ql".toList).outcome = .ok config ∧ config.driver ≠ "") ∧
    (Conf.parse "a" false "\n".toList).outcome =
      .error (.defect "a" ⟨.driverLineMissing, some 1⟩) ∧
    (∃ document config, (Document.load "a" false document).outcome = .ok config ∧
      Document.stripped config.driver = config.driver ∧ Document.BlankDriver document) ∧
    ∃ problem ∈ [Problem.notMapping, .driverUnset],
      (Document.load "a" false (Graph.single .null)).outcome =
        .error (.defect "a" ⟨problem, none⟩) := by
  obtain ⟨lines, driverless, documents, undriven, -⟩ := driver_named "a" false
  have parsed : (Conf.parse "a" false "ql".toList).outcome =
      .ok ⟨"ql", "", ⟨"ql", .given ⟨.numbered, '$'⟩, false⟩, []⟩ := by decide +kernel
  have blank : ∀ first ∈ (Text.splitLines "\n".toList).head?, Conf.isBlankLine first = true := by
    intro first leads
    cases leads
    rfl
  let document : Graph :=
    ⟨#[.map [(1, 2)], .text "db", .map [(3, 4)], .text "driver", .text " "], 0⟩
  have loaded : (Document.load "a" false document).outcome =
      .ok ⟨"", "", ⟨"", .fallback, false⟩, []⟩ := by decide +kernel
  obtain ⟨stripped, empty⟩ := documents document _ loaded
  have missing : Document.Undriven (Graph.single .null) := by
    intro place stands
    cases stands
  exact ⟨⟨_, parsed, (lines _ _ parsed).1⟩, driverless _ blank,
    ⟨document, _, loaded, stripped, empty.1 rfl⟩, undriven _ missing⟩

/-- A driver of white space alone is refused in lines, but not in a document. -/
theorem blank_driver_loads :
    (Conf.parse "<string>" false " \n".toList).outcome =
        .error (.defect "<string>" ⟨.driverLineMissing, some 1⟩) ∧
      (parseYaml "<string>" false "db: \x7bdriver: ' '\x7d\n".toList).outcome.map (·.driver) =
        .ok "" := by
  decide +kernel

end SqlRoutes.Route
