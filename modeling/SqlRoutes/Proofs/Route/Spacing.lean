import SqlRoutes.Proofs.Route.Reading

/-!
White space that a configuration in the line format does not depend on. Which line ends are used,
what white space stands at the ends of lines and of the text, and how far a line is indented make no
difference to what comes of the text, be it a configuration or an error. Further blank lines beside
a blank line make no difference to the configuration; they do to the lines of errors behind them.
-/
namespace SqlRoutes.Route.Conf

open Log

section Lines

variable {line gap gap' : List Char} {lines others : List (List Char)}

theorem isBlankLine_of_blank (blank : ∀ c ∈ line, Text.isBlank c = true) :
    isBlankLine line = true := by
  have nothing : Text.strip line = [] := Text.strip_append_blanks blank []
  simp [isBlankLine, nothing]

theorem ofText_append_blanks (blank : ∀ c ∈ gap, Text.isBlank c = true) (line : List Char) :
    Line.ofText (line ++ gap) = Line.ofText line := by
  cases line with
  | nil =>
    have nothing : isBlankLine gap = true := isBlankLine_of_blank blank
    exact (ofText_of_blank nothing).trans (ofText_of_blank rfl).symm
  | cons c line =>
    simp only [Line.ofText, Text.strip_append_blanks blank]
    rfl

theorem ofText_indent (inline : Text.Gap gap) (inline' : Text.Gap gap') (line : List Char) :
    Line.ofText (gap ++ line) = Line.ofText (gap' ++ line) := by
  have indented {gap : List Char} (inline : Text.Gap gap) :
      (gap ++ line).head?.any Text.isBlank = true := by
    obtain ⟨c, rest, rfl⟩ := List.exists_cons_of_ne_nil inline.nonempty
    exact inline.blank c (.head _)
  simp only [Line.ofText, Text.strip_blanks_append inline.blank,
    Text.strip_blanks_append inline'.blank, indented inline, indented inline']

theorem alike_of_trails (trails : Text.Trails lines others) : Alike lines others := by
  induction trails with
  | blank blank => exact .blank fun line member => isBlankLine_of_blank (blank line member)
  | line blank later ih => exact .line (ofText_append_blanks blank _).symm ih

theorem sayAlike_of_trails (trails : Text.Trails lines others) : SayAlike lines others := by
  cases trails with
  | blank blank =>
    refine .driverless (by simp) fun first leads => ?_
    exact isBlankLine_of_blank (blank first (List.mem_of_mem_head? leads))
  | line blank later =>
    exact sayAlike_cons (Text.strip_append_blanks blank _).symm (alike_of_trails later)

end Lines

/-- The one text is the other with its white space changed where lines end and start. -/
inductive Relaid : List Char → List Char → Prop where
  | breaks (text : List Char) : Relaid text (Text.unifyBreaks text)
  | ending {tail : List Char} (text : List Char) (blank : ∀ c ∈ tail, Text.isBlank c = true) :
      Relaid text (text ++ tail)
  /-- A carriage return and the line feed behind it are one line end. -/
  | lineEnd {before gap after : List Char} (inline : Text.Gap gap)
      (ends : ∀ c ∈ after.head?, Text.isBreak c = true)
      (whole : ¬(before.getLast? = some '\r' ∧ after.head? = some '\n')) :
      Relaid (before ++ after) (before ++ (gap ++ after))
  | indent {before old new after : List Char}
      (starts : ∀ c ∈ before.getLast?, Text.isBreak c = true)
      (inline : Text.Gap old) (inline' : Text.Gap new) :
      Relaid (before ++ (old ++ after)) (before ++ (new ++ after))

/-- The lines are the others with further blank lines next to a blank line. -/
inductive Widened : List (List Char) → List (List Char) → Prop where
  | widen {before more after : List (List Char)}
      (blank : ∀ line ∈ more, isBlankLine line = true)
      (beside : (∃ line ∈ before.getLast?, isBlankLine line = true) ∨
        ∃ line ∈ after.head?, isBlankLine line = true) :
      Widened (before ++ after) (before ++ (more ++ after))

section Texts

variable {text other : List Char}

theorem Relaid.sayAlike (relaid : Relaid text other) :
    SayAlike (Text.splitLines text) (Text.splitLines other) := by
  cases relaid with
  | breaks =>
    rw [Text.splitLines_unifyBreaks]
    exact sayAlike_of_trails (.refl _)
  | ending _ blank => exact sayAlike_of_trails (Text.trails_append blank text)
  | lineEnd inline ends whole => exact sayAlike_of_trails (Text.trails_lineEnd inline ends whole)
  | @indent before old new after starts inline inline' =>
    obtain ⟨line, later, split⟩ := Text.exists_splitLines_within starts after
    rw [split old inline.nonempty inline.unbroken, split new inline'.nonempty inline'.unbroken]
    cases Text.splitLines before with
    | nil =>
      refine sayAlike_cons ?_ (.refl later)
      rw [Text.strip_blanks_append inline.blank, Text.strip_blanks_append inline'.blank]
    | cons first lines =>
      exact sayAlike_middle (List.cons_ne_nil _ _) (ofText_indent inline inline' line) later

theorem parse_relaid (source : String) (strict : Bool) (relaid : Relaid text other) :
    (parse source strict other).outcome = (parse source strict text).outcome :=
  parse_congr source strict relaid.sayAlike

end Texts

section Blanks

variable {line : List Char} {more lines others : List (List Char)}

theorem runs_append_blank (blank : isBlankLine line = true) (before after : List (List Char)) :
    runs (before ++ line :: after) = runs before ++ runs after := by
  simp only [runs, List.splitOnP_append_cons before after blank, List.filter_append]

theorem runs_blanks (blank : ∀ line ∈ more, isBlankLine line = true) (after : List (List Char)) :
    runs (more ++ after) = runs after := by
  induction more with
  | nil => rfl
  | cons line more ih =>
    obtain ⟨first, others⟩ := List.forall_mem_cons.1 blank
    calc runs (line :: (more ++ after))
        = runs [] ++ runs (more ++ after) := runs_append_blank first [] _
      _ = runs after := ih others

theorem Widened.runs_eq (widened : Widened lines others) : runs others = runs lines := by
  cases widened with
  | @widen before more after blank beside =>
    rcases beside with ⟨line, last, single⟩ | ⟨line, first, single⟩
    · obtain ⟨before, rfl⟩ := List.getLast?_eq_some_iff.1 last
      simp only [List.append_assoc, List.singleton_append, runs_append_blank single,
        runs_blanks blank]
    · obtain ⟨after, rfl⟩ := List.head?_eq_some_iff.1 first
      cases more with
      | nil => rfl
      | cons next more =>
        obtain ⟨start, rest⟩ := List.forall_mem_cons.1 blank
        have single' : runs (line :: after) = runs after :=
          runs_blanks (List.forall_mem_singleton.2 single) after
        rw [List.cons_append, runs_append_blank start, runs_blanks rest, single',
          runs_append_blank single]

theorem Widened.tail (widened : Widened (line :: lines) others)
    (filled : isBlankLine line = false) :
    ∃ later, others = line :: later ∧ Widened lines later := by
  generalize whole : line :: lines = all at widened
  cases widened with
  | @widen before more after blank beside =>
    cases before with
    | nil =>
      rcases beside with ⟨_, last, -⟩ | ⟨first, leads, single⟩
      · cases last
      · rw [List.nil_append] at whole
        obtain rfl : line = first := by simpa [← whole] using leads
        exact absurd single (by simp [filled])
    | cons first before =>
      obtain ⟨rfl, rfl⟩ := List.cons.inj whole
      refine ⟨before ++ (more ++ after), rfl, .widen blank ?_⟩
      rcases beside with ⟨last, isLast, single⟩ | leads
      · cases before with
        | nil =>
          obtain rfl : line = last := by simpa using isLast
          exact absurd single (by simp [filled])
        | cons next before => exact .inl ⟨last, by simpa using isLast, single⟩
      · exact .inr leads

theorem parse_widened {source : String} {strict : Bool} {text other : List Char}
    {config : RouteConfig} (parsed : (parse source strict text).outcome = .ok config)
    (widened : Widened (Text.splitLines text) (Text.splitLines other)) :
    (parse source strict other).outcome = .ok config := by
  obtain ⟨first, rest, split, filled, driver, options, bound, read⟩ := parse_eq_ok_iff.1 parsed
  rw [split] at widened
  obtain ⟨later, split', behind⟩ := widened.tail filled
  refine parse_eq_ok_iff.2 ⟨first, later, split', filled, driver, options, bound, ?_⟩
  rw [routes_eq_ok_iff_runs] at read ⊢
  rwa [behind.runs_eq]

end Blanks

/-- Changes of white space where lines end and start, however many, make no difference to what comes
of a text; where a configuration comes of it, blank lines may be added next to blank lines, too. -/
theorem parse_layout (source : String) (strict : Bool) (text other : List Char) :
    (Relation.ReflTransGen Relaid text other →
      (parse source strict other).outcome = (parse source strict text).outcome) ∧
    ∀ config, (parse source strict text).outcome = .ok config →
      Widened (Text.splitLines text) (Text.splitLines other) →
        (parse source strict other).outcome = .ok config := by
  constructor
  · intro relaid
    induction relaid with
    | refl => rfl
    | tail _ step ih => exact (parse_relaid source strict step).trans ih
  · intro config parsed widened
    exact parse_widened parsed widened

theorem parse_layout_two_routes :
    (parse "a.conf" false ("ql\nGET /\nq: A\n".toList ++ ("\t ".toList ++ "b".toList))).outcome =
        (parse "a.conf" false ("ql\nGET /\nq: A\n".toList ++ (" ".toList ++ "b".toList))).outcome ∧
      ∃ config, (parse "a.conf" false "ql\n\nGET /".toList).outcome = .ok config ∧
        (parse "a.conf" false "ql\n\n\t\nGET /".toList).outcome = .ok config := by
  have starts : ∀ c ∈ "ql\nGET /\nq: A\n".toList.getLast?, Text.isBreak c = true := by
    intro c last
    cases last
    rfl
  have relaid : Relaid ("ql\nGET /\nq: A\n".toList ++ (" ".toList ++ "b".toList))
      ("ql\nGET /\nq: A\n".toList ++ ("\t ".toList ++ "b".toList)) :=
    .indent starts (Text.gap_of_mem (by simp) (by simp)) (Text.gap_of_mem (by simp) (by simp))
  have split : Text.splitLines "ql\n\nGET /".toList = ["ql".toList, []] ++ ["GET /".toList] := by
    decide
  have split' : Text.splitLines "ql\n\n\t\nGET /".toList =
      ["ql".toList, []] ++ (["\t".toList] ++ ["GET /".toList]) := by decide
  have widened : Widened (Text.splitLines "ql\n\nGET /".toList)
      (Text.splitLines "ql\n\n\t\nGET /".toList) := by
    rw [split, split']
    exact .widen (by decide) (.inl ⟨[], rfl, rfl⟩)
  have parsed : (parse "a.conf" false "ql\n\nGET /".toList).outcome =
      .ok ⟨"ql", "", ⟨"ql", .given ⟨.numbered, '$'⟩, false⟩, [⟨"/", "GET", []⟩]⟩ := by
    decide +kernel
  exact ⟨(parse_layout _ _ _ _).1 (.single relaid), _, parsed,
    (parse_layout _ _ _ _).2 _ parsed widened⟩

end SqlRoutes.Route.Conf
