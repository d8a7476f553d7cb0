import SqlRoutes.Proofs.Query.Splice
import SqlRoutes.Proofs.Query.Supply
import SqlRoutes.Proofs.Route.WellFormed

/-!
What a request has to supply. The statements of a route can all be given their values just when
every parameter of the route has one, and in a loaded configuration these are the bind variables
that stand in the statements.
-/
namespace SqlRoutes.Route

open Log Query Sql

inductive Loaded (strict : Bool) (config : RouteConfig) : Prop where
  | lines {source : String} {text : List Char}
      (parsed : (Conf.parse source strict text).outcome = .ok config)
  | yaml {source : String} {text : List Char}
      (parsed : (parseYaml source strict text).outcome = .ok config)
  | document {source : String} {document : Graph}
      (loaded : (Document.load source strict document).outcome = .ok config)
  | files {files : Files} {encoding base : String}
      (loaded : (load files strict encoding base).outcome = .ok config)

variable {strict : Bool} {config : RouteConfig} {route : Route}

theorem Loaded.wellFormed (loaded : Loaded strict config) : config.WellFormed strict := by
  cases loaded with
  | lines parsed => exact Conf.wellFormed_of_parse parsed
  | yaml parsed => exact wellFormed_of_parseYaml parsed
  | document loaded => exact Document.wellFormed_of_load loaded
  | files loaded => exact wellFormed_of_load loaded

def boundNames (sql : String) : List String :=
  ((tokens sql.toList).filter isBind).map bindName

theorem parameters_of_compiled {ε : Type} {sql name : String} {p : Placeholder} {query : Query}
    (compiled : (Query.compile sql p name : Traced ε Query).outcome = .ok query) :
    query.parameters = boundNames sql := by
  obtain rfl : Query.ofSql sql p name = query := Except.ok.inj compiled
  rw [boundNames, ← variableNames_lexemes, Query.ofSql, splice_eq_substitute]

theorem forall_bind_iff {α : Type} (route : Route) (value? : String → Option α) :
    (∀ query ∈ route.queries, ∃ bound, query.bind value? = .ok bound) ↔
      ∀ name ∈ route.parameters, (value? name).isSome := by
  have listed (name : String) : name ∈ route.parameters ↔
      ∃ query ∈ route.queries, name ∈ query.parameters := by
    rw [Route.parameters, mem_distinct, List.mem_flatMap]
  constructor
  · intro bound name member
    obtain ⟨query, inside, used⟩ := (listed name).1 member
    exact exists_bind_iff.1 (bound query inside) name used
  · intro present query inside
    refine exists_bind_iff.2 fun name used => ?_
    exact present name ((listed name).2 ⟨query, inside, used⟩)

/-- The parameters of a route are just the names for which a request has to have values, so that all
its statements can be given theirs. Each is listed once, in the order in which the names first come
up in the statements, and the names of a statement are those of the bind variables in its text. -/
theorem parameters_required (loaded : Loaded strict config) (member : route ∈ config.routes) :
    (∀ {α : Type} (value? : String → Option α),
      (∀ query ∈ route.queries, ∃ bound, query.bind value? = .ok bound) ↔
        ∀ name ∈ route.parameters, (value? name).isSome) ∧
    Firsts (route.queries.flatMap (·.parameters)) route.parameters ∧
    ∀ query ∈ route.queries, query.parameters = boundNames query.sql := by
  refine ⟨fun value? => forall_bind_iff route value?, firsts_iff.2 rfl, ?_⟩
  intro query inside
  exact parameters_of_compiled (loaded.wellFormed.compiled route member query inside)

theorem parameters_required_shared :
    let text := "pgx\nGET /\na: :y,:x,:y\nb: 1\nc: :x,:z"
    let p : Placeholder := ⟨.numbered, '$'⟩
    let route : Route :=
      ⟨"/", "GET", [.ofSql ":y,:x,:y" p "a", .ofSql "1" p "b", .ofSql ":x,:z" p "c"]⟩
    let config : RouteConfig := ⟨"pgx", "", ⟨"pgx", .given p, true⟩, [route]⟩
    (Conf.parse "a.conf" true text.toList).outcome = .ok config ∧
      route.parameters = ["y", "x", "z"] ∧
      (∀ query ∈ route.queries, ∃ bound,
        query.bind (List.lookup · [("z", 1), ("y", 2), ("x", 3), ("w", 4)]) = .ok bound) ∧
      ¬∀ query ∈ route.queries, ∃ bound,
        query.bind (List.lookup · [("x", 1), ("y", 2)]) = .ok bound := by
  intro text p route config
  have parsed : (Conf.parse "a.conf" true text.toList).outcome = .ok config := by decide +kernel
  have names : route.parameters = ["y", "x", "z"] := by decide +kernel
  obtain ⟨required, -⟩ := parameters_required (.lines parsed) (List.mem_singleton_self route)
  rw [names] at required
  exact ⟨parsed, names, (required _).2 (by decide), fun all => by
    have present := (required _).1 all "z" (by decide)
    cases present⟩

end SqlRoutes.Route
