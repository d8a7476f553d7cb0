import SqlRoutes.Proofs.Route.Grammar
import SqlRoutes.Proofs.Text.Lines

/-!
What a configuration says, whatever its format: a driver with its options, and pages with named
statements. An outline can be written in lines if no part of it is taken for another there. It is
read back from them: the first line is its driver, and the lines of each page are a route.
-/
namespace SqlRoutes.Route

structure Page where
  method : String
  pattern : String
  queries : List (String × String)
  deriving DecidableEq, Repr

structure Outline where
  driver : String
  options : String
  pages : List Page
  deriving DecidableEq, Repr

def Page.route (p : Placeholder) (page : Page) : Route :=
  ⟨page.pattern, page.method, Conf.compiled p page.queries⟩

def Page.header (page : Page) : String × String := (page.method, page.pattern)

def Outline.config (outline : Outline) (binding : Binding) : RouteConfig :=
  ⟨outline.driver, outline.options, binding, outline.pages.map (Page.route binding.placeholder)⟩

def Page.pathLine (page : Page) : List Char := page.method.toList ++ ' ' :: page.pattern.toList

def queryLine (query : String × String) : List Char :=
  query.1.toList ++ ':' :: ' ' :: query.2.toList

def Page.lines (page : Page) : List (List Char) := page.pathLine :: page.queries.map queryLine

def OneLine (line : List Char) : Prop := ∀ c ∈ line, Text.isBreak c = false

instance : DecidablePred OneLine := List.decidableBAll fun c => Text.isBreak c = false

inductive Laid : List Page → List (List Char) → Prop where
  | nil : Laid [] []
  | page {gap : List Char} {page : Page} {pages : List Page} {lines : List (List Char)}
      (blank : Conf.isBlankLine gap = true) (unbroken : OneLine gap) (later : Laid pages lines) :
      Laid (page :: pages) (gap :: (page.lines ++ lines))

/-- The first line names the driver and its options, which are left out if there are none. -/
def Outline.IsDriverLine (outline : Outline) (line : List Char) : Prop :=
  line = outline.driver.toList ++ ' ' :: outline.options.toList ∨
    outline.options = "" ∧ line = outline.driver.toList

/-- The text is the outline in the line format. A line feed stands between lines, and at the end or
not. -/
def Outline.WritesLines (outline : Outline) (text : List Char) : Prop :=
  ∃ first lines ending, outline.IsDriverLine first ∧ Laid outline.pages lines ∧
    (ending = [] ∨ ending = ['\n']) ∧ text = ['\n'].intercalate (first :: lines) ++ ending

def IsWord (text : String) : Prop := text ≠ "" ∧ ∀ c ∈ text.toList, Text.isBlank c = false

instance : DecidablePred IsWord := fun text =>
  have := List.decidableBAll (fun c => Text.isBlank c = false) text.toList
  inferInstanceAs (Decidable (_ ∧ _))

def IsField (text : String) : Prop :=
  Text.strip text.toList = text.toList ∧ OneLine text.toList

instance : DecidablePred IsField := fun _ => inferInstanceAs (Decidable (_ ∧ _))

/-- A named statement that can be written in a line: no part of it is taken for another there. -/
@[mk_iff] structure PlainQuery (query : String × String) : Prop where
  name : IsField query.1
  colon : ':' ∉ query.1.toList
  statement : IsField query.2
  other : Conf.startsWithMethod (queryLine query) = false

instance : DecidablePred PlainQuery := fun _ => decidable_of_iff _ (plainQuery_iff _).symm

@[mk_iff] structure Page.Plain (page : Page) : Prop where
  method : page.method ∈ methods
  pattern : IsWord page.pattern
  queries : ∀ query ∈ page.queries, PlainQuery query

instance : DecidablePred Page.Plain := fun _ => decidable_of_iff _ (Page.plain_iff _).symm

@[mk_iff] structure Outline.Plain (outline : Outline) : Prop where
  driver : IsWord outline.driver
  options : IsField outline.options
  pages : ∀ page ∈ outline.pages, page.Plain

instance : DecidablePred Outline.Plain := fun _ => decidable_of_iff _ (Outline.plain_iff _).symm

section Lines

variable {page : Page} {query : String × String} {line : List Char}

theorem isWord_of_mem_methods {method : String} (known : method ∈ methods) : IsWord method := by
  have either : method = "GET" ∨ method = "POST" := by simpa [methods] using known
  rcases either with rfl | rfl
  · exact ⟨by decide, by simp [Text.isBlank]⟩
  · exact ⟨by decide, by simp [Text.isBlank]⟩

theorem IsWord.toList_ne_nil {word : String} (isWord : IsWord word) : word.toList ≠ [] := by
  simpa using isWord.1

theorem IsWord.oneLine {word : String} (isWord : IsWord word) : OneLine word.toList :=
  fun c member => Text.isBreak_of_not_isBlank (isWord.2 c member)

theorem isBlankLine_of_mem {c : Char} (member : c ∈ line) (filled : Text.isBlank c = false) :
    Conf.isBlankLine line = false := by
  simpa [Conf.isBlankLine] using Text.strip_ne_nil member filled

theorem ne_nil_of_filled (filled : Conf.isBlankLine line = false) : line ≠ [] := by
  rintro rfl
  cases filled

theorem IsWord.starts {word : String} (isWord : IsWord word) (rest : List Char) :
    Conf.isBlankLine (word.toList ++ rest) = false ∧
      Conf.isIndented (word.toList ++ rest) = false := by
  obtain ⟨c, word', shape⟩ := List.exists_cons_of_ne_nil isWord.toList_ne_nil
  have filled : Text.isBlank c = false := isWord.2 c (by simp [shape])
  refine ⟨isBlankLine_of_mem (by simp [shape]) filled, ?_⟩
  simp [Conf.isIndented, shape, filled]

namespace PlainQuery

theorem isQueryLine (plain : PlainQuery query) : Conf.isQueryLine (queryLine query) = true := by
  refine Conf.isQueryLine_iff.2 ⟨?_, plain.other, by simp [queryLine]⟩
  have head := Text.head_of_strip_eq plain.name.1
  unfold Conf.isIndented queryLine
  cases name : query.1.toList with
  | nil => rfl
  | cons c name' => simpa [name] using head

theorem isBlankLine (query : String × String) : Conf.isBlankLine (queryLine query) = false :=
  isBlankLine_of_mem (c := ':') (by simp [queryLine]) (by decide)

theorem oneLine (plain : PlainQuery query) : OneLine (queryLine query) := by
  refine List.forall_mem_append.2 ⟨plain.name.2, ?_⟩
  refine List.forall_mem_cons.2 ⟨by decide, List.forall_mem_cons.2 ⟨by decide, ?_⟩⟩
  exact plain.statement.2

theorem queryAt (p : Placeholder) (plain : PlainQuery query) {after : List (List Char)}
    (unindented : after.takeWhile Conf.isIndented = []) :
    Conf.queryAt p (queryLine query :: after) = some (.ofSql query.2 p query.1) := by
  have cut := Text.cut?_append plain.colon (' ' :: query.2.toList)
  rw [Text.cut?_eq, if_pos (by simp)] at cut
  obtain ⟨before, behind⟩ := Prod.mk.inj (Option.some.inj cut)
  have statement : Text.strip (' ' :: query.2.toList) = query.2.toList := by
    calc Text.strip (' ' :: query.2.toList)
        = Text.strip query.2.toList := rfl
      _ = query.2.toList := plain.statement.1
  have joined : Conf.statementText (queryLine query) after = query.2 := by
    rw [Conf.statementText, unindented, queryLine, behind, List.map_singleton, statement]
    by_cases empty : query.2 = ""
    · simp [empty]
    · simp [empty]
  rw [Conf.queryAt, if_pos plain.isQueryLine, joined, queryLine, before, plain.name.1,
    String.ofList_toList]

end PlainQuery

theorem filterMap_queryAt (p : Placeholder) {queries : List (String × String)}
    (plain : ∀ query ∈ queries, PlainQuery query) :
    (queries.map queryLine).tails.filterMap (Conf.queryAt p) = Conf.compiled p queries := by
  induction queries with
  | nil => rfl
  | cons query queries ih =>
    obtain ⟨first, others⟩ := List.forall_mem_cons.1 plain
    have unindented : (queries.map queryLine).takeWhile Conf.isIndented = [] := by
      cases queries with
      | nil => rfl
      | cons next queries =>
        have query := (Conf.isQueryLine_iff.1 (others next List.mem_cons_self).isQueryLine).1
        simp [query]
    rw [List.map_cons, List.tails_cons, List.filterMap_cons, first.queryAt p unindented, ih others]
    rfl

namespace Page.Plain

theorem words_pathLine (plain : page.Plain) :
    Text.words page.pathLine = [page.method.toList, page.pattern.toList] := by
  have method := isWord_of_mem_methods plain.method
  rw [Page.pathLine, Text.words_append_blank method.toList_ne_nil method.2 (by decide),
    Text.words_of_filled plain.pattern.toList_ne_nil plain.pattern.2]

theorem filled (plain : page.Plain) : ∀ line ∈ page.lines, Conf.isBlankLine line = false := by
  refine List.forall_mem_cons.2 ⟨?_, List.forall_mem_map.2 fun query _ => ?_⟩
  · exact ((isWord_of_mem_methods plain.method).starts _).1
  · exact PlainQuery.isBlankLine query

theorem oneLine (plain : page.Plain) : ∀ line ∈ page.lines, OneLine line := by
  refine List.forall_mem_cons.2 ⟨?_, List.forall_mem_map.2 fun query member => ?_⟩
  · refine List.forall_mem_append.2 ⟨(isWord_of_mem_methods plain.method).oneLine, ?_⟩
    exact List.forall_mem_cons.2 ⟨by decide, plain.pattern.oneLine⟩
  · exact (plain.queries query member).oneLine

theorem formed (plain : page.Plain) : Conf.Formed page.lines := by
  obtain ⟨-, unindented⟩ := (isWord_of_mem_methods plain.method).starts (' ' :: page.pattern.toList)
  refine Conf.formed_cons_iff.2 ⟨unindented, ?_, by simp [plain.words_pathLine], ?_⟩
  · simpa [Conf.startsWithMethod, plain.words_pathLine, methods] using plain.method
  · refine Conf.continues_iff.2 fun before line after parts => .inl ?_
    have member : line ∈ page.queries.map queryLine := by simp [parts]
    obtain ⟨query, inside, rfl⟩ := List.mem_map.1 member
    exact (plain.queries query inside).isQueryLine

theorem routeOf_lines (plain : page.Plain) (p : Placeholder) :
    Conf.routeOf p page.lines = page.route p := by
  have header : Conf.header page.lines = (page.method, page.pattern) := by
    simp [Conf.header, Page.lines, plain.words_pathLine]
  rw [Conf.routeOf, header, Page.lines, List.tail_cons, filterMap_queryAt p plain.queries]
  rfl

end Page.Plain

namespace Laid

variable {pages : List Page} {lines : List (List Char)}

theorem oneLine (laid : Laid pages lines) (plain : ∀ page ∈ pages, page.Plain) :
    ∀ line ∈ lines, OneLine line := by
  induction laid with
  | nil => simp
  | page blank unbroken later ih =>
    obtain ⟨first, others⟩ := List.forall_mem_cons.1 plain
    exact List.forall_mem_cons.2 ⟨unbroken, List.forall_mem_append.2 ⟨first.oneLine, ih others⟩⟩

theorem last_ne_nil (laid : Laid pages lines) (plain : ∀ page ∈ pages, page.Plain) :
    ∀ line ∈ lines.getLast?, line ≠ [] := by
  induction laid with
  | nil => simp
  | @page gap page pages lines blank unbroken later ih =>
    obtain ⟨first, others⟩ := List.forall_mem_cons.1 plain
    intro line ends
    have nonempty : page.lines ++ lines ≠ [] := by simp [Page.lines]
    -- Behind a gap there is a page with its first line at least, so the gap is not the last line.
    rw [List.getLast?_cons_of_ne_nil nonempty, List.getLast?_append] at ends
    rcases Option.or_eq_some_iff.1 ends with later | ⟨-, own⟩
    · exact ih others line later
    · exact ne_nil_of_filled (first.filled line (List.mem_of_getLast? own))

end Laid

namespace Outline

variable {outline : Outline} {text : List Char}

theorem strip_driverLine (plain : outline.Plain) (named : outline.IsDriverLine line) :
    Text.strip line =
      if outline.options = "" then outline.driver.toList
      else outline.driver.toList ++ ' ' :: outline.options.toList := by
  have alone : Text.strip outline.driver.toList = outline.driver.toList :=
    Text.strip_of_filled plain.driver.2
  rcases named with rfl | ⟨without, rfl⟩
  · split
    · next without =>
      have blank : ∀ c ∈ [' '], Text.isBlank c = true := List.forall_mem_singleton.2 rfl
      rw [without]
      exact (Text.strip_append_blanks blank outline.driver.toList).trans alone
    · next given =>
      have filled : Text.stripRight outline.options.toList ≠ [] := by
        rw [Text.stripRight_of_strip_eq plain.options.1]
        simpa using given
      have unindented := (plain.driver.starts (' ' :: outline.options.toList)).2
      rw [Text.strip_eq_stripRight unindented, List.append_cons, Text.stripRight_append filled,
        Text.stripRight_of_strip_eq plain.options.1]
  · rw [if_pos without, alone]

theorem driverLine_eq (plain : outline.Plain) (named : outline.IsDriverLine line) :
    Conf.driverLine line = (outline.driver, outline.options) := by
  have absent : ' ' ∉ outline.driver.toList := fun member =>
    absurd (plain.driver.2 ' ' member) (by decide)
  rw [Conf.driverLine, strip_driverLine plain named]
  by_cases without : outline.options = ""
  · simp [without, Text.cut?_eq, absent]
  · simp only [if_neg without, Text.cut?_append absent, Text.strip_of_filled plain.driver.2,
      plain.options.1, String.ofList_toList]

theorem filled_driverLine (plain : outline.Plain) (named : outline.IsDriverLine line) :
    Conf.isBlankLine line = false := by
  rcases named with rfl | ⟨-, rfl⟩
  · exact (plain.driver.starts _).1
  · simpa using (plain.driver.starts []).1

theorem oneLine_driverLine (plain : outline.Plain) (named : outline.IsDriverLine line) :
    OneLine line := by
  rcases named with rfl | ⟨-, rfl⟩
  · refine List.forall_mem_append.2 ⟨plain.driver.oneLine, ?_⟩
    exact List.forall_mem_cons.2 ⟨by decide, plain.options.2⟩
  · exact plain.driver.oneLine

theorem WritesLines.splitLines_eq (written : outline.WritesLines text) (plain : outline.Plain) :
    ∃ first lines, Text.splitLines text = first :: lines ∧ outline.IsDriverLine first ∧
      Laid outline.pages lines := by
  obtain ⟨first, lines, ending, named, laid, ends, rfl⟩ := written
  refine ⟨first, lines, Text.splitLines_joined ?_ (by simp) ?_ ends, named, laid⟩
  · exact List.forall_mem_cons.2 ⟨oneLine_driverLine plain named, laid.oneLine plain.pages⟩
  · intro line last
    cases tail : lines.getLast? with
    | none =>
      obtain rfl : first = line := by simpa [List.getLast?_cons, tail] using last
      exact ne_nil_of_filled (filled_driverLine plain named)
    | some other =>
      obtain rfl : other = line := by simpa [List.getLast?_cons, tail] using last
      exact laid.last_ne_nil plain.pages other tail

end Outline

end Lines

end SqlRoutes.Route
