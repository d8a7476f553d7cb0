import Mathlib
import SqlRoutes.Proofs.Query.Layout
import SqlRoutes.Proofs.Route.Statement
import SqlRoutes.Proofs.Text.Lines

/-!
Statements on several lines. Their parts are joined with blanks where the file has line feeds, so a
line comment goes on to the end of the statement. The parameters are those that the text in the
file has before its first line comment; the ones after it are not seen.
-/
namespace SqlRoutes.Route.Conf

open Log Query Sql

/-- The parts as they stand in the file, each on a line. -/
def Statement.layout (statement : Statement) : List Char := ['\n'].intercalate statement.parts

def hiddenNames (text : List Char) : List String :=
  variableNames ((lexemes text).dropWhile fun lexeme => lexeme.kind ≠ .lineComment)

/-- The parts are on lines of their own, and only the first may be empty. -/
structure Statement.InLines (statement : Statement) : Prop where
  started : statement.parts ≠ []
  noFeed : ∀ part ∈ statement.parts, '\n' ∉ part
  filled : ∀ part ∈ statement.parts.tail, part ≠ []

theorem not_feed_mem_splitLines (text : List Char) :
    ∀ line ∈ Text.splitLines text, '\n' ∉ line := by
  fun_induction Text.splitLines text with
  | case1 => simp
  | case2 rest ih => exact List.forall_mem_cons.2 ⟨List.not_mem_nil, ih⟩
  | case3 c rest notPair isBreak ih => exact List.forall_mem_cons.2 ⟨List.not_mem_nil, ih⟩
  | case4 c rest notPair noBreak none ih =>
    have other : '\n' ≠ c := by
      rintro rfl
      exact noBreak rfl
    simpa using other
  | case5 c rest notPair noBreak first lines found ih =>
    have other : '\n' ≠ c := by
      rintro rfl
      exact noBreak rfl
    rw [found, List.forall_mem_cons] at ih
    refine List.forall_mem_cons.2 ⟨?_, ih.2⟩
    rw [List.mem_cons, not_or]
    exact ⟨other, ih.1⟩

theorem mem_of_mem_strip {text : List Char} {c : Char} (member : c ∈ Text.strip text) :
    c ∈ text := by
  unfold Text.strip Text.stripRight Text.stripLeft at member
  rw [List.mem_reverse] at member
  have inside := (List.dropWhile_suffix _).subset member
  rw [List.mem_reverse] at inside
  exact (List.dropWhile_suffix _).subset inside

theorem ofText_continuation {line text : List Char}
    (shape : Line.ofText line = .continuation text) : text = Text.strip line ∧ text ≠ [] := by
  simp only [Line.ofText] at shape
  split at shape
  · cases shape
  next filled =>
  split at shape
  · cases shape
    exact ⟨rfl, by simpa using filled⟩
  · split at shape <;> cases shape

theorem ofText_query {line name sql : List Char}
    (shape : Line.ofText line = .query (some (name, sql))) :
    Text.cut? ':' (Text.strip line) = some (name, sql) := by
  simp only [Line.ofText] at shape
  split at shape
  · cases shape
  split at shape
  · cases shape
  · split at shape
    · cases shape
    · exact Line.query.inj shape

theorem mem_continued {lines : List (List Char)} {part : List Char}
    (noFeed : ∀ line ∈ lines, '\n' ∉ line) (member : part ∈ continued lines) :
    '\n' ∉ part ∧ part ≠ [] := by
  induction lines with
  | nil => cases member
  | cons line lines ih =>
    rw [List.forall_mem_cons] at noFeed
    unfold continued at member
    split at member
    · next text shape =>
      rcases List.mem_cons.1 member with rfl | later
      · obtain ⟨rfl, filled⟩ := ofText_continuation shape
        exact ⟨fun inside => noFeed.1 (mem_of_mem_strip inside), filled⟩
      · exact ih noFeed.2 later
    · cases member

theorem inLines_of_mem {lines : List (List Char)} {statement : Statement}
    (noFeed : ∀ line ∈ lines, '\n' ∉ line) (member : statement ∈ statements lines) :
    statement.InLines := by
  induction lines with
  | nil => cases member
  | cons line lines ih =>
    rw [List.forall_mem_cons] at noFeed
    unfold statements at member
    split at member
    · next name sql shape =>
      rcases List.mem_cons.1 member with rfl | later
      · have line := (Text.eq_append_of_cut? (ofText_query shape)).1
        refine ⟨List.cons_ne_nil _ _, ?_, fun part inside => (mem_continued noFeed.2 inside).2⟩
        intro part inside
        rcases List.mem_cons.1 inside with rfl | later
        · intro feed
          apply noFeed.1
          apply mem_of_mem_strip
          rw [line]
          exact List.mem_append_right _ (.tail _ (mem_of_mem_strip feed))
        · exact (mem_continued noFeed.2 later).1
      · exact ih noFeed.2 later
    · exact ih noFeed.2 member

theorem map_spaced_intercalate {parts : List (List Char)} (noFeed : ∀ part ∈ parts, '\n' ∉ part) :
    (['\n'].intercalate parts).map spaced = [' '].intercalate parts := by
  induction parts with
  | nil => rfl
  | cons part parts ih =>
    rw [List.forall_mem_cons] at noFeed
    have same := map_spaced_eq_self noFeed.1
    cases parts with
    | nil => rw [List.intercalate_singleton, List.intercalate_singleton, same]
    | cons next parts =>
      rw [List.intercalate_cons_cons, List.intercalate_cons_cons, List.map_append, List.map_append,
        same, ih noFeed.2]
      rfl

theorem joinParts_eq {statement : Statement} (inLines : statement.InLines) :
    ∃ text, (statement.layout = text ∨ statement.layout = '\n' :: text) ∧
      (joinParts statement.parts).toList = text.map spaced := by
  obtain ⟨name, parts⟩ := statement
  obtain ⟨started, noFeed, filled⟩ := inLines
  obtain ⟨first, others, rfl⟩ := List.exists_cons_of_ne_nil started
  have kept : others.filter (fun part => !part.isEmpty) = others := by
    rw [List.filter_eq_self]
    intro part member
    simpa using filled part member
  unfold joinParts Statement.layout
  rw [String.toList_ofList]
  -- An empty first part is left out, and with it the line feed after it.
  cases first with
  | cons c first =>
    refine ⟨_, .inl rfl, ?_⟩
    rw [map_spaced_intercalate noFeed, List.filter_cons_of_pos (by rfl), kept]
  | nil =>
    rw [List.filter_cons_of_neg (by simp), kept]
    cases others with
    | nil => exact ⟨[], .inl rfl, rfl⟩
    | cons next others =>
      refine ⟨['\n'].intercalate (next :: others), .inr ?_, ?_⟩
      · rw [List.intercalate_cons_cons]
        rfl
      · exact (map_spaced_intercalate fun part member => noFeed part (.tail _ member)).symm

theorem query_parameters (p : Placeholder) {statement : Statement} (inLines : statement.InLines) :
    (statement.query p).parameters = openNames statement.layout := by
  obtain ⟨text, layout, joined⟩ := joinParts_eq inLines
  calc (statement.query p).parameters
      = variableNames (lexemes (text.map spaced)) := by
        rw [Statement.query, Query.ofSql, joined, splice_eq_substitute]
    _ = openNames text := variableNames_lexemes_spaced text
    _ = openNames statement.layout := by
        rcases layout with same | same
        · rw [same]
        · rw [same, openNames_feed]

theorem names_eq_append (text : List Char) (p : Placeholder) :
    (splice text p).2 = openNames text ++ hiddenNames text := by
  calc (splice text p).2
      = variableNames (lexemes text) := by rw [splice_eq_substitute]
    _ = openNames text ++ hiddenNames text := by
        rw [openNames, hiddenNames, ← variableNames_append, List.takeWhile_append_dropWhile]

theorem parse_eq_ok {source : String} {strict : Bool} {text : List Char} {config : RouteConfig}
    (parsed : (parse source strict text).outcome = .ok config) :
    ∃ lines, (Text.splitLines text).tail = lines ∧
      (routes config.binding.placeholder lines).outcome = .ok config.routes := by
  unfold parse parseLines at parsed
  split at parsed
  · simp at parsed
  next first lines split =>
  split at parsed
  · simp at parsed
  obtain ⟨binding, -, rest⟩ := Traced.outcome_bind_eq_ok.1 parsed
  obtain ⟨found, read, made⟩ := Traced.outcome_bind_eq_ok.1 rest
  obtain rfl := Except.ok.inj made
  rw [split]
  exact ⟨lines, rfl, Traced.outcome_mapError_eq_ok.1 read⟩

/-- The queries of a configuration that is read are the statements written in it. Each has for
parameters the names before the first line comment of its layout: of all names in the layout none
is gained, and the ones that are lost are those after that comment. -/
theorem parse_parameters {source : String} {strict : Bool} {text : List Char} {config : RouteConfig}
    (parsed : (parse source strict text).outcome = .ok config) :
    (config.routes.flatMap (·.queries)).map (fun query => (query.name, query.parameters)) =
      (statements (Text.splitLines text).tail).map
        (fun statement => (statement.name, openNames statement.layout)) ∧
    ∀ statement ∈ statements (Text.splitLines text).tail,
      (splice statement.layout config.binding.placeholder).2 =
        openNames statement.layout ++ hiddenNames statement.layout := by
  refine ⟨?_, fun statement _ => names_eq_append _ _⟩
  have noFeed := not_feed_mem_splitLines text
  obtain ⟨lines, same, found⟩ := parse_eq_ok parsed
  rw [routes_queries found, List.map_map, same]
  apply List.map_congr_left
  intro statement member
  have later : ∀ line ∈ lines, '\n' ∉ line := by
    intro line inside
    rw [← same] at inside
    exact noFeed line (List.mem_of_mem_tail inside)
  rw [Function.comp_apply, query_parameters _ (inLines_of_mem later member)]
  rfl

theorem parse_parameters_two_lines :
    ∃ config, (parse "" false "ql\nGET /\nq: SELECT\n  :id".toList).outcome = .ok config ∧
      (config.routes.flatMap (·.queries)).map (fun query => (query.name, query.parameters)) =
        [("q", ["id"])] := by
  have parsed : (parse "" false "ql\nGET /\nq: SELECT\n  :id".toList).outcome =
      .ok ⟨"ql", "", ⟨"ql", .given ⟨.numbered, '$'⟩, false⟩,
        [⟨"/", "GET", [⟨"q", "SELECT :id", "SELECT $1", ["id"], ⟨.numbered, '$'⟩⟩]⟩]⟩ := by cbv
  have names : (statements (Text.splitLines "ql\nGET /\nq: SELECT\n  :id".toList).tail).map
      (fun statement => (statement.name, openNames statement.layout)) = [("q", ["id"])] := by cbv
  exact ⟨_, parsed, (parse_parameters parsed).1.trans names⟩

/-- A line comment in the first part hides the parameter in the second. -/
theorem comment_hides_continuation :
    ∃ config, (parse "" false
        "sqlite3\nGET /a\nq: SELECT 1 -- note\n  WHERE id = :id\n".toList).outcome = .ok config ∧
      config.routes.flatMap (fun route => route.queries.map (·.parameters)) = [[]] ∧
      (statements (Text.splitLines
        "sqlite3\nGET /a\nq: SELECT 1 -- note\n  WHERE id = :id\n".toList).tail).map
          (fun statement => (splice statement.layout config.binding.placeholder).2) = [["id"]] := by
  have parsed : (parse "" false
      "sqlite3\nGET /a\nq: SELECT 1 -- note\n  WHERE id = :id\n".toList).outcome =
        .ok ⟨"sqlite3", "", ⟨"sqlite3", .given ⟨.named, ':'⟩, false⟩,
          [⟨"/a", "GET", [⟨"q", "SELECT 1 -- note WHERE id = :id",
            "SELECT 1 -- note WHERE id = :id", [], ⟨.named, ':'⟩⟩]⟩]⟩ := by cbv
  exact ⟨_, parsed, rfl, by cbv⟩

end SqlRoutes.Route.Conf
