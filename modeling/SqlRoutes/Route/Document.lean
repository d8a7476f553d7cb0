import SqlRoutes.Route.Basic
import SqlRoutes.Value.Graph

/-!
Route configurations as documents: a map with the keys `db` and `pages`, where every page has a
pattern, a method and a map of named statements.
-/
namespace SqlRoutes.Route.Document

def text (document : Graph) (place : Place) : Except LoadError String :=
  (document.display place).mapError fun e => .scalar (.overlong e)

/-- The text of a value, which is empty if the value counts as false. -/
def textOrEmpty (document : Graph) (place : Option Place) : Except LoadError String :=
  match place with
  | none => .ok ""
  | some place => if (document.cell place).truthy then text document place else .ok ""

/-- One named statement; bytes are text in the eight-bit format. -/
def query (document : Graph) (source pattern : String) (entry : Place × Place) :
    Except LoadError (String × String) :=
  match document.cell entry.2 with
  | .text sql => do return (← text document entry.1, sql)
  | .bytes content =>
    match Encoding.Utf8.decode content with
    | .ok sql => do return (← text document entry.1, .ofList sql)
    | .error fault => .error (.queryBytes fault)
  | _ => do
    throw (.defect source ⟨.invalidQuery pattern (← text document entry.1), none⟩)

def queries (document : Graph) (source pattern : String) (place : Option Place) :
    Except LoadError (List (String × String)) :=
  match document.cellAt place with
  | .null => .ok []
  | .map entries => entries.mapM (query document source pattern)
  | _ => .error (.defect source ⟨.queriesNotMapping pattern, none⟩)

def page (document : Graph) (source : String) (p : Placeholder) (routes : List Route)
    (place : Option Place) : Log.Traced LoadError (List Route) :=
  match document.cellAt place with
  | .map entries => do
    let pattern ← .ofExcept (textOrEmpty document (document.field? entries "pattern"))
    if pattern = "" then .fail (.defect source ⟨.patternEmpty, none⟩)
    else
      let method ← .ofExcept (textOrEmpty document (document.field? entries "method"))
      let queries ← .ofExcept
        (queries document source pattern (document.field? entries "queries"))
      (register p routes method pattern queries none).mapError (.defect source)
  | _ => .fail (.defect source ⟨.pageNotMapping, none⟩)

def pages (document : Graph) (source : String) (p : Placeholder) (routes : List Route) :
    List (Option Place) → Log.Traced LoadError (List Route)
  | [] => return routes
  | place :: places => do
    let routes ← page document source p routes place
    pages document source p routes places

def stripped (text : String) : String := .ofList (Text.strip text.toList)

def database (document : Graph) (source : String) (entries : List (Place × Place)) :
    Except LoadError (String × String) :=
  match document.cellAt (document.field? entries "db") with
  | .map entries => do
    let driver ← textOrEmpty document (document.field? entries "driver")
    if driver = "" then throw (.defect source ⟨.driverUnset, none⟩)
    let options ← textOrEmpty document (document.field? entries "options")
    return (stripped driver, stripped options)
  | _ => .error (.defect source ⟨.driverUnset, none⟩)

def pageList (document : Graph) (source : String) (entries : List (Place × Place)) :
    Except LoadError (List (Option Place)) :=
  match document.cellAt (document.field? entries "pages") with
  | .null => .ok []
  | .list places => .ok (places.map some)
  | .pairs pairs => .ok (pairs.map fun _ => none)
  | _ => .error (.defect source ⟨.pagesNotList, none⟩)

def load (source : String) (strict : Bool) (document : Graph) : Log.Traced LoadError RouteConfig :=
  match document.rootCell with
  | .map entries => do
    let (driver, options) ← .ofExcept (database document source entries)
    let places ← .ofExcept (pageList document source entries)
    let binding ← (Binding.forDriver [] strict driver).mapError .unknownDriver
    let routes ← pages document source binding.placeholder [] places
    return ⟨driver, options, binding, routes⟩
  | _ => .fail (.defect source ⟨.notMapping, none⟩)

end SqlRoutes.Route.Document
