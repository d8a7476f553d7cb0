import SqlRoutes.Proofs.Route.Grammar
import SqlRoutes.Route.Source

/-!
What every loaded configuration is like, in whatever format it was written. Registering a route
keeps the routes registered: each has a method, a pattern and compiled statements, and no two have
method and pattern in common. So looking a route up finds it, and finds nothing that is not there.
-/
namespace SqlRoutes

theorem Binding.forDriver_eq_ok {strict : Bool} {driver : String} {binding : Binding}
    (bound : (Binding.forDriver [] strict driver).outcome = .ok binding) :
    binding.driver = driver ∧
      (Driver.resolve [] strict driver).outcome = .ok binding.convention := by
  obtain ⟨convention, resolved, same⟩ := Log.Traced.outcome_bind_eq_ok.1 bound
  obtain rfl := Except.ok.inj same
  exact ⟨rfl, resolved⟩

namespace Route

open Log

structure Registered (p : Placeholder) (routes : List Route) : Prop where
  methods : ∀ route ∈ routes, route.method ∈ methods
  patterns : ∀ route ∈ routes, route.pattern ≠ ""
  apart : (routes.map fun route => (route.method, route.pattern)).Nodup
  compiled : ∀ route ∈ routes, ∀ query ∈ route.queries, query = .ofSql query.sql p query.name

section Registering

variable {p : Placeholder} {routes after : List Route}

theorem registered_nil (p : Placeholder) : Registered p [] :=
  ⟨by simp, by simp, List.nodup_nil, by simp⟩

theorem eq_ofSql_of_mem_compiled {queries : List (String × String)} {query : Query}
    (member : query ∈ Conf.compiled p queries) : query = .ofSql query.sql p query.name := by
  obtain ⟨entry, -, rfl⟩ := List.mem_map.1 member
  rfl

theorem Registered.register {method pattern : String} {queries : List (String × String)}
    {line : Option Nat} (registered : Registered p routes) (filled : pattern ≠ "")
    (added : (register p routes method pattern queries line).outcome = .ok after) :
    Registered p after := by
  obtain ⟨⟨known, fresh⟩, rfl⟩ := Conf.register_eq_ok_iff.1 added
  constructor
  · exact List.forall_mem_append.2 ⟨registered.methods, List.forall_mem_singleton.2 known⟩
  · exact List.forall_mem_append.2 ⟨registered.patterns, List.forall_mem_singleton.2 filled⟩
  · rw [List.map_append, List.map_singleton]
    refine List.Nodup.append registered.apart (List.nodup_singleton _) ?_
    simpa using fresh
  · refine List.forall_mem_append.2 ⟨registered.compiled, List.forall_mem_singleton.2 ?_⟩
    exact fun query member => eq_ofSql_of_mem_compiled member

end Registering

namespace Conf

theorem pattern_of_formed {p : Placeholder} {run : List (List Char)} (formed : Formed run) :
    (routeOf p run).pattern ≠ "" := by
  cases run with
  | nil => exact formed.elim
  | cons head body =>
    obtain ⟨method, pattern, words⟩ := List.length_eq_two.1 formed.2.2.1
    have member : pattern ∈ Text.words head := by simp [words]
    simpa [routeOf, header, words, String.ofList_eq_empty_iff] using
      Text.ne_nil_of_mem_words member

theorem eq_ofSql_of_mem_routeOf {p : Placeholder} {run : List (List Char)} {query : Query}
    (member : query ∈ (routeOf p run).queries) : query = .ofSql query.sql p query.name := by
  obtain ⟨lines, -, started⟩ := List.mem_filterMap.1 member
  cases lines with
  | nil => cases started
  | cons line after =>
    rw [queryAt] at started
    split at started
    · obtain rfl := Option.some.inj started
      rfl
    · cases started

theorem registered_routes {p : Placeholder} {lines : List (List Char)} {found : List Route}
    (parsed : (Conf.routes p lines).outcome = .ok found) : Registered p found := by
  obtain ⟨formed, apart, rfl⟩ := routes_eq_ok_iff_runs.1 parsed
  constructor
  · exact List.forall_mem_map.2 fun run member => method_of_formed (formed run member)
  · exact List.forall_mem_map.2 fun run member => pattern_of_formed (formed run member)
  · rw [List.map_map]
    exact apart
  · exact List.forall_mem_map.2 fun run _ query member => eq_ofSql_of_mem_routeOf member

end Conf

namespace Document

variable {document : Graph} {source : String} {p : Placeholder} {routes after : List Route}

theorem registered_page {place : Option Place} (registered : Registered p routes)
    (read : (page document source p routes place).outcome = .ok after) : Registered p after := by
  unfold page at read
  split at read
  · obtain ⟨pattern, -, read⟩ := Traced.outcome_bind_eq_ok.1 read
    split at read
    · cases read
    · next filled =>
      obtain ⟨method, -, read⟩ := Traced.outcome_bind_eq_ok.1 read
      obtain ⟨queries, -, read⟩ := Traced.outcome_bind_eq_ok.1 read
      exact registered.register filled (Traced.outcome_mapError_eq_ok.1 read)
  · cases read

theorem registered_pages {places : List (Option Place)} (registered : Registered p routes)
    (read : (pages document source p routes places).outcome = .ok after) : Registered p after := by
  induction places generalizing routes with
  | nil =>
    obtain rfl := Except.ok.inj read
    exact registered
  | cons place places ih =>
    obtain ⟨middle, first, later⟩ := Traced.outcome_bind_eq_ok.1 read
    exact ih (registered_page registered first) later

end Document

end Route

namespace RouteConfig

open Log

/-- What may be relied on in a configuration that was loaded with this setting. -/
structure WellFormed (strict : Bool) (config : RouteConfig) : Prop where
  methods : ∀ route ∈ config.routes, route.method = "GET" ∨ route.method = "POST"
  patterns : ∀ route ∈ config.routes, route.pattern ≠ ""
  apart : (config.routes.map fun route => (route.method, route.pattern)).Nodup
  driver : config.binding.driver = config.driver
  resolved : (Driver.resolve [] strict config.driver).outcome = .ok config.binding.convention
  compiled : ∀ route ∈ config.routes, ∀ query ∈ route.queries,
    (Query.compile query.sql config.binding.placeholder query.name :
      Traced Route.LoadError Query).outcome = .ok query
  found : ∀ route ∈ config.routes,
    config.get route.pattern route.method = .ok route ∧
      config.get route.pattern (.ofList (Text.lower route.method.toList)) = .ok route
  missing : ∀ pattern method, (∃ e, config.get pattern method = .error e) ↔
    ∀ route ∈ config.routes,
      ¬(route.pattern = pattern ∧ route.method = .ofList (Text.upper method.toList))

variable {config : RouteConfig}

theorem get_eq_ok {route : Route} {method : String}
    (apart : (config.routes.map fun route => (route.method, route.pattern)).Nodup)
    (member : route ∈ config.routes)
    (spelled : String.ofList (Text.upper method.toList) = route.method) :
    config.get route.pattern method = .ok route := by
  unfold get
  simp only [spelled]
  split
  · next other found =>
    have same := List.find?_some found
    have inside := List.mem_of_find?_eq_some found
    simp only [Bool.and_eq_true, decide_eq_true_eq] at same
    rw [List.inj_on_of_nodup_map apart inside member (Prod.ext same.2 same.1)]
  · next absent =>
    have none := List.find?_eq_none.1 absent route member
    simp at none

theorem get_eq_error_iff {pattern method : String} :
    (∃ e, config.get pattern method = .error e) ↔ ∀ route ∈ config.routes,
      ¬(route.pattern = pattern ∧ route.method = .ofList (Text.upper method.toList)) := by
  unfold get
  dsimp only
  split
  · next found =>
    have same := List.find?_some found
    have inside := List.mem_of_find?_eq_some found
    simp only [Bool.and_eq_true, decide_eq_true_eq] at same
    exact iff_of_false (by simp) fun none => none _ inside same
  · next absent =>
    have none := List.find?_eq_none.1 absent
    exact iff_of_true ⟨_, rfl⟩ (by simpa using none)

theorem upper_of_mem_methods {method : String} (known : method ∈ Route.methods) :
    String.ofList (Text.upper method.toList) = method ∧
      String.ofList (Text.upper (String.ofList (Text.lower method.toList)).toList) = method := by
  have all : ∀ method ∈ Route.methods, String.ofList (Text.upper method.toList) = method ∧
      String.ofList (Text.upper (String.ofList (Text.lower method.toList)).toList) = method := by
    decide +kernel
  exact all method known

theorem wellFormed_of_registered {strict : Bool}
    (bound : (Binding.forDriver [] strict config.driver).outcome = .ok config.binding)
    (registered : Route.Registered config.binding.placeholder config.routes) :
    config.WellFormed strict := by
  obtain ⟨driver, resolved⟩ := Binding.forDriver_eq_ok bound
  constructor
  · intro route member
    simpa [Route.methods] using registered.methods route member
  · exact registered.patterns
  · exact registered.apart
  · exact driver
  · exact resolved
  · intro route member query inside
    exact congrArg Except.ok (registered.compiled route member query inside).symm
  · intro route member
    obtain ⟨upper, lower⟩ := upper_of_mem_methods (registered.methods route member)
    exact ⟨get_eq_ok registered.apart member upper, get_eq_ok registered.apart member lower⟩
  · intro pattern method
    exact get_eq_error_iff

end RouteConfig

namespace Route

open Log

variable {source : String} {strict : Bool} {config : RouteConfig}

theorem Conf.wellFormed_of_parse {text : List Char}
    (parsed : (Conf.parse source strict text).outcome = .ok config) : config.WellFormed strict := by
  obtain ⟨first, rest, -, -, -, -, bound, read⟩ := Conf.parse_eq_ok_iff.1 parsed
  exact RouteConfig.wellFormed_of_registered bound (Conf.registered_routes read)

theorem Document.wellFormed_of_load {document : Graph}
    (loaded : (Document.load source strict document).outcome = .ok config) :
    config.WellFormed strict := by
  unfold Document.load at loaded
  split at loaded
  · obtain ⟨⟨driver, options⟩, -, loaded⟩ := Traced.outcome_bind_eq_ok.1 loaded
    obtain ⟨places, -, loaded⟩ := Traced.outcome_bind_eq_ok.1 loaded
    obtain ⟨binding, bound, loaded⟩ := Traced.outcome_bind_eq_ok.1 loaded
    obtain ⟨routes, read, same⟩ := Traced.outcome_bind_eq_ok.1 loaded
    obtain rfl := Except.ok.inj same
    exact RouteConfig.wellFormed_of_registered (Traced.outcome_mapError_eq_ok.1 bound)
      (Document.registered_pages (registered_nil _) read)
  · cases loaded

theorem wellFormed_of_parseYaml {text : List Char}
    (parsed : (parseYaml source strict text).outcome = .ok config) : config.WellFormed strict := by
  obtain ⟨document, -, loaded⟩ := Traced.outcome_bind_eq_ok.1 parsed
  exact Document.wellFormed_of_load loaded

theorem wellFormed_of_load {files : Files} {encoding base : String}
    (loaded : (load files strict encoding base).outcome = .ok config) :
    config.WellFormed strict := by
  obtain ⟨path, -, read⟩ := Traced.outcome_bind_eq_ok.1 loaded
  obtain ⟨text, -, rest⟩ := Traced.outcome_bind_eq_ok.1 read
  obtain ⟨-, -, parsed⟩ := Traced.outcome_bind_eq_ok.1 rest
  split at parsed
  · exact Conf.wellFormed_of_parse parsed
  · exact wellFormed_of_parseYaml parsed

/-- Whatever is loaded is well formed: from a text in the line format, from any document, from a
text in the document format, and from any files. -/
theorem loaded_wellFormed (files : Files) (strict : Bool) (encoding base source : String)
    (text : List Char) (document : Graph) (config : RouteConfig) :
    ((Conf.parse source strict text).outcome = .ok config → config.WellFormed strict) ∧
      ((Document.load source strict document).outcome = .ok config → config.WellFormed strict) ∧
      ((parseYaml source strict text).outcome = .ok config → config.WellFormed strict) ∧
      ((load files strict encoding base).outcome = .ok config → config.WellFormed strict) :=
  ⟨Conf.wellFormed_of_parse, Document.wellFormed_of_load, wellFormed_of_parseYaml,
    wellFormed_of_load⟩

theorem loaded_wellFormed_both :
    let route : Route := ⟨"/", "GET", [.ofSql "A :b" ⟨.numbered, '$'⟩ "q"]⟩
    let config : RouteConfig := ⟨"pgx", "", ⟨"pgx", .given ⟨.numbered, '$'⟩, true⟩, [route]⟩
    (Conf.parse "a.conf" true "pgx\nGET /\nq: A :b".toList).outcome = .ok config ∧
      (parseYaml "a.yml" true ("db:\n  driver: pgx\npages:\n- pattern: /\n  method: GET\n" ++
        "  queries:\n    q: A :b\n").toList).outcome = .ok config ∧
      config.get "/" "get" = .ok route ∧ ∃ e, config.get "/" "post" = .error e := by
  intro route config
  let lines := "pgx\nGET /\nq: A :b".toList
  let document := ("db:\n  driver: pgx\npages:\n- pattern: /\n  method: GET\n" ++
    "  queries:\n    q: A :b\n").toList
  have parsed : (Conf.parse "a.conf" true lines).outcome = .ok config := by decide +kernel
  have read : (parseYaml "a.yml" true document).outcome = .ok config := by decide +kernel
  obtain ⟨ofLines, -⟩ := loaded_wellFormed (fun _ => .error .absent) true "utf-8" "" "a.conf" lines
    (.single .null) config
  obtain ⟨-, -, ofDocument, -⟩ := loaded_wellFormed (fun _ => .error .absent) true "utf-8" ""
    "a.yml" document (.single .null) config
  have lower : String.ofList (Text.lower route.method.toList) = "get" := by decide +kernel
  have upper : route.method ≠ String.ofList (Text.upper "post".toList) := by decide +kernel
  have found := ((ofLines parsed).found route (.head _)).2
  rw [lower] at found
  refine ⟨parsed, read, found, ?_⟩
  refine ((ofDocument read).missing "/" "post").2 fun other member same => ?_
  obtain rfl := List.mem_singleton.1 member
  exact upper same.2

end Route

end SqlRoutes
