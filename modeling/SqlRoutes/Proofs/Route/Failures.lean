import SqlRoutes.Proofs.Log.Traced
import SqlRoutes.Route.Source

/-!
How loading a configuration fails. Whatever is wrong with the form of a text is reported as a
failure of the library's own, with the name of the text's source. A document fails otherwise for the
values it holds: a value that has no text, bytes that are no text, or a text that is no value of its
type. Files add paths that cannot be looked up and encodings in which they cannot be read; that a
file cannot be opened or read is reported. A text with half of a surrogate pair is none here, and
has an outcome of its own. Limits of the machine, such as how deep a document may nest before the
stack is used up, are no part of this.
-/
namespace SqlRoutes

theorem Atom.isOverlong_iff {a : Atom} :
    a.isOverlong = true ↔ ∃ i, a = .int i ∧ Nat.pow 10 digitLimit ≤ i.natAbs := by
  cases a with
  | int i =>
    simp only [isOverlong, decide_eq_true_eq, Atom.int.injEq, exists_eq_left']
  | _ => simp [isOverlong]

/-- The places of the values that a value consists of. -/
def Cell.parts : Cell → List Place
  | .list items | .set items => items
  | .pairs entries | .map entries => entries.flatMap fun entry => [entry.1, entry.2]
  | .atom _ | .undefined => []

namespace Graph

inductive Holds (graph : Graph) : Place → Place → Prop where
  | here (place : Place) : Holds graph place place
  | part {outer part inner : Place} (direct : part ∈ (graph.cell outer).parts)
      (inside : Holds graph part inner) : Holds graph outer inner

/-- A number with too many digits stands in the value. -/
def Unwritable (graph : Graph) (place : Place) : Prop :=
  ∃ inner i, graph.Holds place inner ∧ graph.cell inner = .atom (.int i) ∧
    Nat.pow 10 digitLimit ≤ i.natAbs

def TextError (graph : Graph) (place : Place) (e : Overlong) : Prop :=
  e = ⟨none⟩ ∧ graph.Unwritable place

variable {graph : Graph} {place part : Place}

theorem Unwritable.of_part (direct : part ∈ (graph.cell place).parts)
    (unwritable : graph.Unwritable part) : graph.Unwritable place := by
  obtain ⟨inner, i, inside, number, long⟩ := unwritable
  exact ⟨inner, i, .part direct inside, number, long⟩

theorem throws_bounded {form : Atom → String} {a : Atom} (cell : graph.cell place = .atom a) :
    Throws (a.bounded form) (graph.TextError place) := by
  unfold Atom.bounded
  split
  · next long =>
    obtain ⟨i, rfl, many⟩ := Atom.isOverlong_iff.1 long
    exact throws_error.2 ⟨rfl, place, i, .here place, cell, many⟩
  · exact throws_ok _

/-- Only a number without a text keeps a value from having one. -/
theorem throws_described (depth : Nat) (around : List Place) (place : Place) :
    Throws (graph.described depth around place) (graph.TextError place) := by
  induction depth generalizing around place with
  | zero => exact throws_ok ""
  | succ depth ih =>
    have inner : ∀ part ∈ (graph.cell place).parts,
        Throws (graph.described depth (place :: around) part) (graph.TextError place) := by
      intro part direct
      exact (ih (place :: around) part).mono fun _ => And.imp_right (Unwritable.of_part direct)
    have row : ∀ (items : List Place) (close : List String → String),
        (∀ part ∈ items, part ∈ (graph.cell place).parts) →
        Throws (items.mapM (graph.described depth (place :: around)) >>= fun texts =>
          pure (close texts)) (graph.TextError place) := by
      intro items close direct
      have parts := throws_mapM fun part member => inner part (direct part member)
      exact parts.bind fun _ _ => throws_ok _
    unfold described
    cases cell : graph.cell place with
    | atom a => exact throws_bounded cell
    | undefined => exact throws_ok _
    | list items =>
      rw [cell] at row
      dsimp only
      split
      · exact throws_ok _
      · exact row items _ fun _ => id
    | pairs entries =>
      rw [cell] at row
      dsimp only
      split
      · exact throws_ok _
      · refine Throws.bind (throws_mapM fun entry member => ?_) fun _ _ => throws_ok _
        exact row [entry.1, entry.2] _ fun part direct =>
          List.mem_flatMap.2 ⟨entry, member, direct⟩
    | set members =>
      rw [cell] at row
      dsimp only
      cases members with
      | nil => exact throws_ok _
      | cons member members => exact row (member :: members) _ fun _ => id
    | map entries =>
      rw [cell] at inner
      dsimp only
      split
      · exact throws_ok _
      · refine Throws.bind (throws_mapM fun entry member => ?_) fun _ _ => throws_ok _
        have key := inner entry.1 (List.mem_flatMap.2 ⟨entry, member, .head _⟩)
        have value := inner entry.2 (List.mem_flatMap.2 ⟨entry, member, .tail _ (.head _)⟩)
        exact key.bind fun _ _ => value.bind fun _ _ => throws_ok _

theorem throws_display (place : Place) :
    Throws (graph.display place) (graph.TextError place) := by
  unfold display
  split
  · next cell => exact throws_bounded cell
  · exact throws_described _ _ place

end Graph

theorem Binding.throws_forDriver (strict : Bool) (driver : String) :
    Throws (Binding.forDriver [] strict driver).outcome fun e =>
      strict = true ∧ Driver.known? [] e.driver = none := by
  simp only [forDriver, Log.Traced.outcome_bind]
  refine Throws.bind ?_ fun _ _ => throws_ok _
  unfold Driver.resolve
  cases found : Driver.known? [] driver with
  | some convention => exact throws_ok _
  | none =>
    cases strict with
    | true => exact throws_error.2 ⟨rfl, found⟩
    | false => exact throws_ok _

namespace Route

open Log Encoding

/-- What is said of a text that is refused: a defect with the name of its source, or a driver that
is not known. -/
inductive Refused (strict : Bool) (source : String) : LoadError → Prop where
  | defect (found : Defect) : Refused strict source (.defect source found)
  | unknownDriver {e : UnknownDriver} (strictly : strict = true)
      (unknown : Driver.known? [] e.driver = none) : Refused strict source (.unknownDriver e)

theorem throws_binding (strict : Bool) (source driver : String) :
    Throws ((Binding.forDriver [] strict driver).outcome.mapError .unknownDriver)
      (Refused strict source) := by
  refine throws_mapError.2 ((Binding.throws_forDriver strict driver).mono ?_)
  exact fun _ ⟨strictly, unknown⟩ => .unknownDriver strictly unknown

namespace Conf

theorem throws_parse (source : String) (strict : Bool) (text : List Char) :
    Throws (parse source strict text).outcome (Refused strict source) := by
  unfold parse parseLines
  split
  · exact throws_error.2 (.defect _)
  · split
    · exact throws_error.2 (.defect _)
    · simp only [Traced.outcome_bind, Traced.outcome_mapError]
      refine (throws_binding strict source _).bind fun _ _ => Throws.bind ?_ fun _ _ => throws_ok _
      exact throws_mapError.2 fun found _ => .defect found

end Conf

namespace Document

variable {document : Graph} {place : Place}

def IsPage (document : Graph) (page : List (Place × Place)) : Prop :=
  ∃ entries places place, document.rootCell = .map entries ∧
    document.cellAt (document.field? entries "pages") = .list places ∧ place ∈ places ∧
    document.cell place = .map page

/-- A query of a page: the places of its name and its statement. -/
def IsQuery (document : Graph) (query : Place × Place) : Prop :=
  ∃ page queries, IsPage document page ∧
    document.cellAt (document.field? page "queries") = .map queries ∧ query ∈ queries

/-- The value is used as text: the driver or its options, the pattern or the method of a page, or
the name of a query. -/
inductive IsText (document : Graph) : Place → Prop where
  | database {entries database : List (Place × Place)} {name : String} {place : Place}
      (root : document.rootCell = .map entries)
      (cell : document.cellAt (document.field? entries "db") = .map database)
      (named : name ∈ ["driver", "options"]) (field : document.field? database name = some place) :
      IsText document place
  | page {page : List (Place × Place)} {name : String} {place : Place}
      (isPage : IsPage document page) (named : name ∈ ["pattern", "method"])
      (field : document.field? page name = some place) : IsText document place
  | query {query : Place × Place} (isQuery : IsQuery document query) : IsText document query.1

/-- The errors of a document that are not reported: a value used as text has none, or the bytes of
a statement are none. -/
inductive Escapes (document : Graph) : LoadError → Prop where
  | text {place : Place} (isText : IsText document place)
      (unwritable : document.Unwritable place) : Escapes document (.scalar (.overlong ⟨none⟩))
  | bytes {query : Place × Place} {content : List UInt8} {fault : Fault}
      (isQuery : IsQuery document query) (cell : document.cell query.2 = .bytes content)
      (undecodable : Utf8.decode content = .error fault) : Escapes document (.queryBytes fault)

theorem throws_text (isText : IsText document place) :
    Throws (text document place) (Escapes document) := by
  refine throws_mapError.2 ((Graph.throws_display place).mono ?_)
  rintro _ ⟨rfl, unwritable⟩
  exact .text isText unwritable

theorem throws_textOrEmpty {place : Option Place}
    (isText : ∀ found, place = some found → IsText document found) :
    Throws (textOrEmpty document place) (Escapes document) := by
  unfold textOrEmpty
  split
  · exact throws_ok ""
  · next found =>
    split
    · exact throws_text (isText found rfl)
    · exact throws_ok ""

def Fails (strict : Bool) (source : String) (document : Graph) (e : LoadError) : Prop :=
  Refused strict source e ∨ Escapes document e

variable {strict : Bool} {source : String}

theorem throws_query {pattern : String} {entry : Place × Place} (isQuery : IsQuery document entry) :
    Throws (query document source pattern entry) (Fails strict source document) := by
  have name : Throws (text document entry.1) (Fails strict source document) :=
    (throws_text (.query isQuery)).mono fun _ => .inr
  unfold query
  split
  · exact name.bind fun _ _ => throws_ok _
  · next content cell =>
    split
    · exact name.bind fun _ _ => throws_ok _
    · next fault undecodable => exact throws_error.2 (.inr (.bytes isQuery cell undecodable))
  · exact name.bind fun _ _ => throws_error.2 (.inl (.defect _))

theorem throws_queries {pattern : String} {page : List (Place × Place)}
    (isPage : IsPage document page) :
    Throws (queries document source pattern (document.field? page "queries"))
      (Fails strict source document) := by
  unfold queries
  split
  · exact throws_ok []
  · next entries cell =>
    exact throws_mapM fun entry member => throws_query ⟨page, entries, isPage, cell, member⟩
  · exact throws_error.2 (.inl (.defect _))

theorem throws_page {p : Placeholder} {routes : List Route} {place : Option Place}
    (isPage : ∀ entries, document.cellAt place = .map entries → IsPage document entries) :
    Throws (page document source p routes place).outcome (Fails strict source document) := by
  unfold page
  split
  · next entries cell =>
    have found := isPage entries cell
    have field : ∀ name ∈ ["pattern", "method"],
        Throws (textOrEmpty document (document.field? entries name))
          (Fails strict source document) := fun name named =>
      (throws_textOrEmpty fun _ field => .page found named field).mono fun _ => .inr
    simp only [Traced.outcome_bind, Traced.outcome_ofExcept]
    refine (field "pattern" (by decide)).bind fun pattern _ => ?_
    split
    · exact throws_error.2 (.inl (.defect _))
    · simp only [Traced.outcome_bind, Traced.outcome_ofExcept, Traced.outcome_mapError]
      refine (field "method" (by decide)).bind fun method _ => ?_
      refine (throws_queries found).bind fun queries _ => ?_
      exact throws_mapError.2 fun defect _ => .inl (.defect defect)
  · exact throws_error.2 (.inl (.defect _))

theorem throws_pages {p : Placeholder} {routes : List Route} {places : List (Option Place)}
    (arePages : ∀ place ∈ places, ∀ entries, document.cellAt place = .map entries →
      IsPage document entries) :
    Throws (pages document source p routes places).outcome (Fails strict source document) := by
  induction places generalizing routes with
  | nil => exact throws_ok routes
  | cons place places ih =>
    obtain ⟨first, others⟩ := List.forall_mem_cons.1 arePages
    rw [pages, Traced.outcome_bind]
    exact (throws_page first).bind fun _ _ => ih others

theorem throws_database {entries : List (Place × Place)} (root : document.rootCell = .map entries) :
    Throws (database document source entries) (Fails strict source document) := by
  unfold database
  split
  · next fields cell =>
    have field : ∀ name ∈ ["driver", "options"],
        Throws (textOrEmpty document (document.field? fields name))
          (Fails strict source document) := fun name named =>
      (throws_textOrEmpty fun _ field => .database root cell named field).mono fun _ => .inr
    refine (field "driver" (by decide)).bind fun driver _ => ?_
    have rest : Throws (textOrEmpty document (document.field? fields "options") >>= fun options =>
        pure (stripped driver, stripped options)) (Fails strict source document) :=
      (field "options" (by decide)).bind fun _ _ => throws_ok _
    split
    · exact throws_error.2 (.inl (.defect _))
    · exact rest
  · exact throws_error.2 (.inl (.defect _))

theorem throws_pageList {entries : List (Place × Place)} :
    Throws (pageList document source entries) (Fails strict source document) := by
  unfold pageList
  split
  · exact throws_ok _
  · exact throws_ok _
  · exact throws_ok _
  · exact throws_error.2 (.inl (.defect _))

theorem isPage_of_listed {entries page : List (Place × Place)} {places : List (Option Place)}
    {place : Option Place} (root : document.rootCell = .map entries)
    (listed : pageList document source entries = .ok places) (member : place ∈ places)
    (cell : document.cellAt place = .map page) : IsPage document page := by
  unfold pageList at listed
  split at listed
  · obtain rfl := Except.ok.inj listed
    cases member
  · next found list =>
    obtain rfl := Except.ok.inj listed
    obtain ⟨found, inside, rfl⟩ := List.mem_map.1 member
    exact ⟨entries, _, found, root, list, inside, cell⟩
  · obtain rfl := Except.ok.inj listed
    obtain ⟨-, -, rfl⟩ := List.mem_map.1 member
    cases cell
  · cases listed

theorem throws_load : Throws (load source strict document).outcome
    (Fails strict source document) := by
  unfold load
  split
  · next entries root =>
    simp only [Traced.outcome_bind, Traced.outcome_ofExcept, Traced.outcome_mapError]
    refine (throws_database root).bind fun ⟨driver, options⟩ _ => ?_
    refine throws_pageList.bind fun places listed => ?_
    refine ((throws_binding strict source driver).mono fun _ => .inl).bind fun binding _ => ?_
    refine Throws.bind (throws_pages ?_) fun _ _ => throws_ok _
    exact fun place member page cell => isPage_of_listed root listed member cell
  · exact throws_error.2 (.inl (.defect _))

end Document

/-- The errors of a text in the document format that are not reported: it holds a text that is no
value of its type, or the document that it is has such an error. -/
inductive TextEscapes (text : List Char) : LoadError → Prop where
  | value {e : Scalar.Invalid} (invalid : Yaml.load text = .error (.scalar e)) :
      TextEscapes text (.scalar e)
  | document {document : Graph} {e : LoadError} (read : Yaml.load text = .ok document)
      (escapes : Document.Escapes document e) : TextEscapes text e

theorem throws_parseYaml (source : String) (strict : Bool) (text : List Char) :
    Throws (parseYaml source strict text).outcome fun e => Refused strict source e ∨
      TextEscapes text e ∨ e = .surrogate ∧ Yaml.load text = .error .surrogate := by
  simp only [parseYaml, Traced.outcome_bind, Traced.outcome_ofExcept]
  cases read : Yaml.load text with
  | ok document =>
    exact (throws_ok _).bind fun other same => by
      obtain rfl := Except.ok.inj same
      exact Document.throws_load.mono fun _ => Or.imp_right fun escapes =>
        .inl (.document read escapes)
  | error failure =>
    refine (throws_error.2 ?_).bind fun _ same => by cases same
    cases failure with
    | problem cause line => exact .inl (.defect _)
    | scalar e => exact .inr (.inl (.value read))
    | surrogate => exact .inr (.inr ⟨rfl, rfl⟩)

/-- The bytes of this statement are no text, and the document is not reported as one with a
defect. -/
theorem undecodable_query_escapes : ∃ e,
    (parseYaml "<string>" false ("db: {driver: pgx}\n" ++
      "pages: [{pattern: /a, method: GET, queries: {q: !!binary /w==}}]\n").toList).outcome =
        .error e ∧ e.failure? = none := by
  have escaped : (match (parseYaml "<string>" false ("db: {driver: pgx}\n" ++
      "pages: [{pattern: /a, method: GET, queries: {q: !!binary /w==}}]\n").toList).outcome with
      | .ok _ => false
      | .error e => e.failure?.isNone) = true := by decide +kernel
  generalize (parseYaml _ _ _).outcome = outcome at escaped ⊢
  cases outcome with
  | ok config => cases escaped
  | error e => exact ⟨e, rfl, Option.isNone_iff_eq_none.1 escaped⟩

/-- The paths at which a file is looked for. -/
def lookedUp (base : Path) : List Path :=
  if suffixes.contains base.suffix then [base] else (candidates? base).getD []

inductive Unread (files : Files) (encoding : String) (path : Path) : Unreadable → Prop where
  | unopened {e : SystemError} (reading : files.reading path = .unopened e) :
      Unread files encoding path (.unopened path e)
  | interrupted {e : SystemError} (reading : files.reading path = .interrupted e) :
      Unread files encoding path (.interrupted e)
  | undecodable {content : List UInt8} {charset : Charset} {fault : Fault}
      (reading : files.reading path = .content content)
      (named : Charset.ofName encoding = .ok charset)
      (undecodable : charset.decode content = .error (.undecodable fault)) :
      Unread files encoding path (.undecodable fault)

/-- The errors that are reported: there is no file, or there are several, or the one there is is
gone when it is read, or cannot be read, or what it holds is refused. -/
inductive Reported (files : Files) (strict : Bool) (encoding : String) (base : Path) :
    LoadError → Prop where
  | notFound (tried : Option (List String))
      (absent : ∀ path ∈ lookedUp base, files.isFile path = false) :
      Reported files strict encoding base (.fileNotFound base.text tried)
  | several {paths : List Path} (present : paths = (lookedUp base).filter files.isFile)
      (many : 1 < paths.length) : Reported files strict encoding base
        (.defect base.text ⟨.severalFiles (paths.map Path.text), none⟩)
  | gone {path : Path} {e : SystemError} (tried : path ∈ lookedUp base)
      (present : files.isFile path = true) (number : e.number = SystemError.absent.number)
      (reading : files.reading path = .unopened e ∨ files.reading path = .interrupted e) :
      Reported files strict encoding base (.fileNotFound path.text none)
  | unread {path : Path} {reason : Unreadable} (tried : path ∈ lookedUp base)
      (present : files.isFile path = true) (unread : Unread files encoding path reason) :
      Reported files strict encoding base (.defect path.text ⟨.unreadable reason, none⟩)
  | refused {path : Path} {text : List Char} {e : LoadError} (tried : path ∈ lookedUp base)
      (read : readText files path encoding = .ok text) (refused : Refused strict path.text e) :
      Reported files strict encoding base e

/-- The errors that are not reported: the path has no name to which a suffix could be added, or
cannot be looked up, or the file can be opened but its encoding is not known or not one in which
the file can be read, or the file's text has such an error. -/
inductive Escapes (files : Files) (encoding : String) (base : Path) : LoadError → Prop where
  | nameless (bare : base.names = []) : Escapes files encoding base (.emptyName base.text)
  | unreachable {path : Path} {e : SystemError} (tried : path ∈ lookedUp base)
      (fails : files.obstacle? path = some e) : Escapes files encoding base (.unreachable path e)
  | encoding {path : Path} {e : Charset.Error} (tried : path ∈ lookedUp base)
      (present : files.isFile path = true)
      (asked : e = .zeroInName ∨ ∀ failed, files.reading path ≠ .unopened failed)
      (unknown : Charset.ofName encoding = .error e) : Escapes files encoding base (.charset e)
  | decoding {path : Path} {content : List UInt8} {charset : Charset} {e : Charset.Error}
      (tried : path ∈ lookedUp base) (present : files.isFile path = true)
      (reading : files.reading path = .content content)
      (named : Charset.ofName encoding = .ok charset)
      (undecodable : charset.decode content = .error e)
      (other : ∀ fault, e ≠ .undecodable fault) : Escapes files encoding base (.charset e)
  | text {path : Path} {text : List Char} {e : LoadError} (tried : path ∈ lookedUp base)
      (read : readText files path encoding = .ok text) (document : path.suffix ≠ ".conf")
      (escapes : TextEscapes text e) : Escapes files encoding base e

/-- What the file holds is no text here: half of a surrogate pair comes of its bytes, or stands in
the document. -/
inductive Halved (files : Files) (encoding : String) (base : Path) : Prop where
  | bytes {path : Path} {content : List UInt8} {charset : Charset} (tried : path ∈ lookedUp base)
      (reading : files.reading path = .content content)
      (named : Charset.ofName encoding = .ok charset)
      (halved : charset.decode content = .error .surrogate)
  | document {path : Path} {text : List Char} (tried : path ∈ lookedUp base)
      (read : readText files path encoding = .ok text) (document : path.suffix ≠ ".conf")
      (halved : Yaml.load text = .error .surrogate)

section Files

variable {files : Files} {strict : Bool} {encoding : String} {base path : Path}

theorem lookedUp_of_suffix (known : suffixes.contains base.suffix = true) :
    lookedUp base = [base] := by
  simp only [lookedUp, if_pos known]

theorem lookedUp_of_candidates {tried : List Path}
    (unknown : ¬suffixes.contains base.suffix = true) (candidates : candidates? base = some tried) :
    lookedUp base = tried := by
  simp only [lookedUp, if_neg unknown, candidates, Option.getD_some]

theorem names_of_candidates? (lost : candidates? base = none) : base.names = [] := by
  cases last : base.names.getLast? with
  | none => exact List.getLast?_eq_none_iff.1 last
  | some name => simp [candidates?, suffixes, Path.extend?, last] at lost

theorem existing_eq_ok {paths found : List Path} (ok : existing files paths = .ok found) :
    found = paths.filter files.isFile := by
  unfold existing at ok
  split at ok
  · cases ok
  · exact (Except.ok.inj ok).symm

theorem throws_existing (files : Files) (paths : List Path) :
    Throws (existing files paths) fun e =>
      ∃ path ∈ paths, ∃ failed, files.obstacle? path = some failed ∧
        e = .unreachable path failed := by
  unfold existing
  split
  · next e found =>
    obtain ⟨path, member, stops⟩ := List.exists_of_findSome?_eq_some found
    obtain ⟨failed, fails, rfl⟩ := Option.map_eq_some_iff.1 stops
    exact throws_error.2 ⟨path, member, failed, fails, rfl⟩
  · exact throws_ok _

theorem absent_of_existing {paths : List Path} (none : existing files paths = .ok []) :
    ∀ path ∈ paths, files.isFile path = false := by
  intro path member
  have nothing := List.filter_eq_nil_iff.1 (existing_eq_ok none).symm path member
  simpa using nothing

theorem present_of_existing {paths found : List Path} (ok : existing files paths = .ok found)
    (member : path ∈ found) : path ∈ paths ∧ files.isFile path = true :=
  List.mem_filter.1 (existing_eq_ok ok ▸ member)

inductive Located (files : Files) (base : Path) : Except LoadError Path → Prop where
  | nameless (bare : base.names = []) : Located files base (.error (.emptyName base.text))
  | unreachable {path : Path} {e : SystemError} (tried : path ∈ lookedUp base)
      (fails : files.obstacle? path = some e) : Located files base (.error (.unreachable path e))
  | absent (tried : Option (List String))
      (none : ∀ path ∈ lookedUp base, files.isFile path = false) :
      Located files base (.error (.fileNotFound base.text tried))
  | several {paths : List Path} (present : paths = (lookedUp base).filter files.isFile)
      (many : 1 < paths.length) : Located files base
        (.error (.defect base.text ⟨.severalFiles (paths.map Path.text), none⟩))
  | found {path : Path} (tried : path ∈ lookedUp base) (present : files.isFile path = true) :
      Located files base (.ok path)

theorem located (files : Files) (base : Path) : Located files base (locate files base) := by
  unfold locate
  split
  · next known =>
    have all := lookedUp_of_suffix known
    cases looked : existing files [base] with
    | error e =>
      obtain ⟨path, member, failed, fails, rfl⟩ := throws_existing files [base] e looked
      exact .unreachable (all ▸ member) fails
    | ok found =>
      cases found with
      | nil => exact .absent none (all ▸ absent_of_existing looked)
      | cons first others =>
        obtain ⟨tried, present⟩ := present_of_existing looked (.head _)
        exact .found (all ▸ tried) present
  · next unknown =>
    split
    · next lost => exact .nameless (names_of_candidates? lost)
    · next tried candidates =>
      have all := lookedUp_of_candidates unknown candidates
      cases looked : existing files tried with
      | error e =>
        obtain ⟨path, member, failed, fails, rfl⟩ := throws_existing files tried e looked
        exact .unreachable (all ▸ member) fails
      | ok found =>
        rcases found with _ | ⟨first, _ | ⟨second, others⟩⟩
        · exact .absent _ (all ▸ absent_of_existing looked)
        · obtain ⟨tried, present⟩ := present_of_existing looked (.head _)
          exact .found (all ▸ tried) present
        · exact .several (all ▸ existing_eq_ok looked) (by simp)

def Fails (files : Files) (strict : Bool) (encoding : String) (base : Path) (e : LoadError) :
    Prop :=
  Reported files strict encoding base e ∨ Escapes files encoding base e ∨
    e = .surrogate ∧ Halved files encoding base

theorem throws_locate : Throws (locate files base) (Fails files strict encoding base) := by
  intro e failed
  have outcome := located files base
  rw [failed] at outcome
  cases outcome with
  | nameless bare => exact .inr (.inl (.nameless bare))
  | unreachable tried fails => exact .inr (.inl (.unreachable tried fails))
  | absent tried none => exact .inl (.notFound tried none)
  | several present many => exact .inl (.several present many)

theorem locate_eq_ok (ok : locate files base = .ok path) :
    path ∈ lookedUp base ∧ files.isFile path = true := by
  have outcome := located files base
  rw [ok] at outcome
  cases outcome with
  | found tried present => exact ⟨tried, present⟩

theorem reported_unread {e : SystemError} {reason : Unreadable} (tried : path ∈ lookedUp base)
    (present : files.isFile path = true)
    (reading : files.reading path = .unopened e ∨ files.reading path = .interrupted e)
    (unread : Unread files encoding path reason) :
    Reported files strict encoding base (Route.unread path e reason) := by
  unfold Route.unread
  split
  · next number => exact .gone tried present number reading
  · exact .unread tried present unread

theorem throws_decoded {content : List UInt8} {charset : Charset} (tried : path ∈ lookedUp base)
    (present : files.isFile path = true) (reading : files.reading path = .content content)
    (named : Charset.ofName encoding = .ok charset) :
    Throws (decoded path charset content) (Fails files strict encoding base) := by
  unfold decoded
  split
  · exact throws_ok _
  · next fault undecodable =>
    exact throws_error.2 (.inl (.unread tried present (.undecodable reading named undecodable)))
  · next halved => exact throws_error.2 (.inr (.inr ⟨rfl, .bytes tried reading named halved⟩))
  · next e other _ undecodable =>
    exact throws_error.2
      (.inr (.inl (.decoding tried present reading named undecodable other)))

theorem throws_readText (tried : path ∈ lookedUp base) (present : files.isFile path = true) :
    Throws (readText files path encoding) (Fails files strict encoding base) := by
  unfold readText
  split
  · next unnamed => exact throws_error.2 (.inr (.inl (.encoding tried present (.inl rfl) unnamed)))
  · next reading _ =>
    exact throws_error.2 (.inl (reported_unread tried present (.inl reading) (.unopened reading)))
  · next unnamed unopened =>
    exact throws_error.2 (.inr (.inl (.encoding tried present (.inr unopened) unnamed)))
  · next reading _ =>
    exact throws_error.2
      (.inl (reported_unread tried present (.inr reading) (.interrupted reading)))
  · next reading named => exact throws_decoded tried present reading named

theorem throws_load (files : Files) (strict : Bool) (encoding base : String) :
    Throws (load files strict encoding base).outcome
      (Fails files strict encoding (Path.ofString base)) := by
  simp only [load, loadFile, Traced.outcome_bind, Traced.outcome_ofExcept]
  refine throws_locate.bind fun path ok => ?_
  obtain ⟨tried, present⟩ := locate_eq_ok ok
  refine (throws_readText tried present).bind fun text read => ?_
  refine (throws_ok ()).bind fun _ _ => ?_
  split
  · exact (Conf.throws_parse _ _ _).mono fun _ refused => .inl (.refused tried read refused)
  · next document =>
    refine (throws_parseYaml _ _ _).mono fun _ => Or.imp ?_ (Or.imp ?_ ?_)
    · exact fun refused => .refused tried read refused
    · exact fun escapes => .text tried read document escapes
    · exact fun ⟨same, halved⟩ => ⟨same, .document tried read document halved⟩

end Files

def loadKinds : List FailureKind := [.fileNotFound, .parse, .unknownDriver]

/-- The outcome is a configuration or a failure of one of the kinds. -/
def Documented (kinds : List FailureKind) (outcome : Except LoadError RouteConfig) : Prop :=
  Throws outcome fun e => ∃ failure, e.failure? = some failure ∧ failure.kind ∈ kinds

theorem kind_of_failure {e : LoadError} {failure : Failure} (known : e.failure? = some failure) :
    failure.kind ∈ loadKinds := by
  cases e with
  | defect =>
    obtain rfl := Option.some.inj known
    exact .tail _ (.head _)
  | unknownDriver =>
    obtain rfl := Option.some.inj known
    exact .tail _ (.tail _ (.head _))
  | fileNotFound =>
    obtain rfl := Option.some.inj known
    exact .head _
  | _ => cases known

theorem Refused.failure {strict : Bool} {source : String} {e : LoadError}
    (refused : Refused strict source e) :
    ∃ failure, e.failure? = some failure ∧ failure.kind ∈ [.parse, .unknownDriver] := by
  cases refused with
  | defect found => exact ⟨_, rfl, .head _⟩
  | unknownDriver => exact ⟨_, rfl, .tail _ (.head _)⟩

theorem Reported.failure {files : Files} {strict : Bool} {encoding : String} {base : Path}
    {e : LoadError} (reported : Reported files strict encoding base e) :
    ∃ failure, e.failure? = some failure ∧ failure.kind ∈ loadKinds := by
  cases reported with
  | notFound | gone => exact ⟨_, rfl, .head _⟩
  | several | unread => exact ⟨_, rfl, .tail _ (.head _)⟩
  | refused tried read refused =>
    obtain ⟨failure, known, -⟩ := refused.failure
    exact ⟨failure, known, kind_of_failure known⟩

theorem TextEscapes.failure {text : List Char} {e : LoadError} (escapes : TextEscapes text e) :
    e.failure? = none := by
  cases escapes with
  | value => rfl
  | document read escapes => cases escapes <;> rfl

theorem Escapes.failure {files : Files} {encoding : String} {base : Path} {e : LoadError}
    (escapes : Escapes files encoding base e) : e.failure? = none := by
  cases escapes with
  | nameless | unreachable | encoding | decoding => rfl
  | text tried read document escapes => exact escapes.failure

/-- Errors of two sorts, reported ones and others, besides half of a surrogate pair. -/
theorem documented_iff {kinds : List FailureKind} {outcome : Except LoadError RouteConfig}
    {P Q : LoadError → Prop} {halved : Prop}
    (cases : Throws outcome fun e => P e ∨ Q e ∨ e = .surrogate ∧ halved)
    (reported : ∀ e, P e → ∃ failure, e.failure? = some failure ∧ failure.kind ∈ kinds)
    (escapes : ∀ e, Q e → e.failure? = none) :
    Documented kinds outcome ↔ Throws outcome fun e => ¬(Q e ∨ e = .surrogate) := by
  constructor
  · intro all e failed other
    obtain ⟨failure, known, -⟩ := all e failed
    have unknown : e.failure? = none := by
      rcases other with other | rfl
      · exact escapes e other
      · rfl
    cases known.symm.trans unknown
  · intro none e failed
    rcases cases e failed with known | other | ⟨same, -⟩
    · exact reported e known
    · exact absurd (.inl other) (none e failed)
    · exact absurd (.inr same) (none e failed)

theorem documented_parseYaml_iff (source : String) (strict : Bool) (text : List Char) :
    Documented [.parse, .unknownDriver] (parseYaml source strict text).outcome ↔
      Throws (parseYaml source strict text).outcome fun e =>
        ¬(TextEscapes text e ∨ e = .surrogate) :=
  documented_iff (throws_parseYaml source strict text) (fun _ => Refused.failure)
    fun _ => TextEscapes.failure

theorem documented_load_iff (files : Files) (strict : Bool) (encoding base : String) :
    Documented loadKinds (load files strict encoding base).outcome ↔
      Throws (load files strict encoding base).outcome fun e =>
        ¬(Escapes files encoding (Path.ofString base) e ∨ e = .surrogate) :=
  documented_iff (throws_load files strict encoding base) (fun _ => Reported.failure)
    fun _ => Escapes.failure

-- A file that may not be opened is reported; a path that may not be looked up is not.
example :
    let closed : Files := fun _ => .ok (.file false (.unopened .forbidden))
    let hidden : Files := fun _ => .error .forbidden
    (load closed false "utf-8" "a.yml").outcome = .error (.defect "a.yml"
      ⟨.unreadable (.unopened ⟨"", ["a.yml"]⟩ .forbidden), none⟩) ∧
    (load hidden false "utf-8" "a.yml").outcome =
      .error (.unreachable ⟨"", ["a.yml"]⟩ .forbidden) := by
  intro closed hidden
  exact ⟨rfl, rfl⟩

end Route

end SqlRoutes
