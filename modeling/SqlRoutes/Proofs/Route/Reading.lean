import SqlRoutes.Proofs.Route.Formats

/-!
How the lines of a configuration are read one after the other. What comes of a text depends on its
lines alone: on the driver line, and on what each later line is by itself. Where reading fails, it
fails at a line that is not blank, or at the end of a route, which is a blank line or the end.
-/
namespace SqlRoutes.Route.Conf

open Log

/-- What makes a line what it is by itself. -/
inductive Shape (line : List Char) : Line → Prop where
  | blank (blank : isBlankLine line = true) : Shape line .blank
  | path {words : List (List Char)} (filled : isBlankLine line = false)
      (unindented : isIndented line = false) (starts : startsWithMethod line = true)
      (same : Text.words line = words) : Shape line (.path words)
  | query {parts : Option (List Char × List Char)} (filled : isBlankLine line = false)
      (unindented : isIndented line = false) (other : startsWithMethod line = false)
      (same : Text.cut? ':' (Text.strip line) = parts) : Shape line (.query parts)
  | continuation {text : List Char} (filled : isBlankLine line = false)
      (indented : isIndented line = true) (same : Text.strip line = text) :
      Shape line (.continuation text)

theorem shape_ofText (line : List Char) : Shape line (Line.ofText line) := by
  cases blank : isBlankLine line with
  | true => exact ofText_of_blank blank ▸ .blank blank
  | false =>
    cases indented : isIndented line with
    | true => exact ofText_of_indented blank indented ▸ .continuation blank indented rfl
    | false =>
      cases starts : startsWithMethod line with
      | true => exact ofText_of_method blank indented starts ▸ .path blank indented starts rfl
      | false => exact ofText_of_other blank indented starts ▸ .query blank indented starts rfl

theorem shape_of_ofText {line : List Char} {found : Line} (same : Line.ofText line = found) :
    Shape line found :=
  same ▸ shape_ofText line

theorem blank_iff {line : List Char} : Line.ofText line = .blank ↔ isBlankLine line = true := by
  constructor
  · intro same
    cases shape_of_ofText same with
    | blank blank => exact blank
  · exact ofText_of_blank

section Running

variable {p : Placeholder} {state middle after : State} {number : Nat}
variable {line : List Char} {lines before later : List (List Char)} {found : Defect}

theorem feedAll_append (p : Placeholder) (state : State) (number : Nat)
    (before later : List (List Char)) :
    (state.feedAll p number (before ++ later)).outcome =
      (state.feedAll p number before).outcome >>= fun middle =>
        (middle.feedAll p (number + before.length) later).outcome := by
  induction before generalizing state number with
  | nil => rfl
  | cons line before ih =>
    simp only [List.cons_append, State.feedAll, Traced.outcome_bind]
    cases (state.feed p number line).outcome with
    | error e => rfl
    | ok middle =>
      have length : number + (line :: before).length = number + 1 + before.length := by
        simp only [List.length_cons]
        omega
      rw [length]
      exact ih middle (number + 1)

theorem resume_append (ran : (state.feedAll p number before).outcome = .ok middle)
    (later : List (List Char)) :
    (resume p state number (before ++ later)).outcome =
      (resume p middle (number + before.length) later).outcome := by
  simp only [resume, Traced.outcome_bind, feedAll_append, ran]
  rfl

/-- Where reading fails: at a line that is not blank, or where an open route has to end. -/
inductive Stops (p : Placeholder) (state : State) (number : Nat) (lines : List (List Char))
    (found : Defect) : Prop where
  | line {before later : List (List Char)} {line : List Char} {middle : State}
      (whole : lines = before ++ line :: later)
      (ran : (state.feedAll p number before).outcome = .ok middle)
      (filled : isBlankLine line = false)
      (failed : (middle.feed p (number + before.length) line).outcome = .error found)
  | ending {before later : List (List Char)} {middle : State} (whole : lines = before ++ later)
      (ran : (state.feedAll p number before).outcome = .ok middle)
      (failed : (middle.finish p).outcome = .error found)

theorem feed_blank (blank : isBlankLine line = true) :
    (state.feed p number line).outcome = (state.finish p).outcome := by
  simp [State.feed, ofText_of_blank blank]

theorem stops_of_error (failed : (resume p state number lines).outcome = .error found) :
    Stops p state number lines found := by
  induction lines generalizing state number with
  | nil =>
    rw [resume_nil] at failed
    cases ended : (state.finish p).outcome with
    | ok last =>
      rw [ended] at failed
      cases failed
    | error e =>
      rw [ended] at failed
      obtain rfl := Except.error.inj failed
      exact .ending (List.nil_append []).symm rfl ended
  | cons line lines ih =>
    rw [resume_cons] at failed
    cases fed : (state.feed p number line).outcome with
    | error e =>
      rw [fed] at failed
      obtain rfl := Except.error.inj failed
      cases blank : isBlankLine line with
      | true =>
        have ended := (feed_blank blank).symm.trans fed
        exact .ending (List.nil_append _).symm rfl ended
      | false => exact .line (List.nil_append _).symm rfl blank fed
    | ok next =>
      rw [fed] at failed
      have first (before : List (List Char)) : (state.feedAll p number (line :: before)).outcome =
          (next.feedAll p (number + 1) before).outcome := by
        rw [State.feedAll, Traced.outcome_bind_of_ok fed]
      have length (before : List (List Char)) :
          number + 1 + before.length = number + (line :: before).length := by
        simp only [List.length_cons]
        omega
      cases ih failed with
      | line whole ran filled failed =>
        exact .line (by rw [whole]; rfl) ((first _).trans ran) filled (length _ ▸ failed)
      | ending whole ran failed => exact .ending (by rw [whole]; rfl) ((first _).trans ran) failed

end Running

/-- Lines that are by themselves the same; the one text may have further blank lines at its end. -/
inductive Alike : List (List Char) → List (List Char) → Prop where
  | blank {lines : List (List Char)} (blank : ∀ line ∈ lines, isBlankLine line = true) :
      Alike [] lines
  | line {line other : List Char} {lines others : List (List Char)}
      (same : Line.ofText line = Line.ofText other) (later : Alike lines others) :
      Alike (line :: lines) (other :: others)

section Likeness

variable {p : Placeholder} {line other : List Char} {lines others : List (List Char)}

theorem Alike.refl (lines : List (List Char)) : Alike lines lines := by
  induction lines with
  | nil => exact .blank (by simp)
  | cons line lines ih => exact .line rfl ih

theorem alike_middle (same : Line.ofText line = Line.ofText other)
    (before later : List (List Char)) :
    Alike (before ++ line :: later) (before ++ other :: later) := by
  induction before with
  | nil => exact .line same (.refl later)
  | cons first before ih => exact .line rfl ih

theorem resume_blanks (blank : ∀ line ∈ lines, isBlankLine line = true) (state : State)
    (number : Nat) :
    (resume p state number lines).outcome = (resume p state number []).outcome := by
  induction lines generalizing state number with
  | nil => rfl
  | cons line lines ih =>
    obtain ⟨first, others⟩ := List.forall_mem_cons.1 blank
    rw [resume_cons, feed_blank first, resume_nil]
    cases ended : (state.finish p).outcome with
    | error e => rfl
    | ok middle =>
      have idle : middle.draft = none := by
        rcases finish_eq_ok ended with ⟨idle, rfl⟩ | ⟨draft, -, rfl⟩
        · exact idle
        · rfl
      calc (resume p middle (number + 1) lines).outcome
          = (middle.finish p).outcome.map (·.routes) := by rw [ih others, resume_nil]
        _ = .ok middle.routes := by
          rw [State.finish, idle]
          rfl

theorem Alike.resume (alike : Alike lines others) (state : State) (number : Nat) :
    (Conf.resume p state number others).outcome = (Conf.resume p state number lines).outcome := by
  induction alike generalizing state number with
  | blank blank => exact resume_blanks blank state number
  | @line line other lines others same later ih =>
    have fed : state.feed p number other = state.feed p number line := by
      simp only [State.feed, same]
    rw [resume_cons, resume_cons, fed]
    exact congrArg ((state.feed p number line).outcome >>= ·)
      (funext fun middle => ih middle (number + 1))

end Likeness

section Parsing

variable {source : String} {strict : Bool} {text other first : List Char}
variable {rest : List (List Char)}

theorem parse_of_driverless (source : String) (strict : Bool)
    (blank : ∀ first ∈ (Text.splitLines text).head?, isBlankLine first = true) :
    (parse source strict text).outcome = .error (.defect source ⟨.driverLineMissing, some 1⟩) := by
  unfold parse parseLines
  cases lines : Text.splitLines text with
  | nil => rfl
  | cons first rest =>
    have empty : (Text.strip first).isEmpty = true := blank first (by rw [lines]; rfl)
    simp only [if_pos empty, Traced.outcome_fail]

section Driver

variable (source)
variable (lines : Text.splitLines text = first :: rest) (filled : isBlankLine first = false)

include lines filled

theorem parse_of_refused {e : UnknownDriver}
    (unknown : (Binding.forDriver [] strict (driverOf first)).outcome = .error e) :
    (parse source strict text).outcome = .error (.unknownDriver e) := by
  have named : ¬(Text.strip first).isEmpty = true := by simpa [isBlankLine] using filled
  unfold parse parseLines
  simp only [lines, if_neg named, driverLine_eq]
  rw [Traced.outcome_mapError_bind_of_error unknown]

theorem parse_of_driver {binding : Binding}
    (bound : (Binding.forDriver [] strict (driverOf first)).outcome = .ok binding) :
    (parse source strict text).outcome =
      ((routes binding.placeholder rest).outcome.mapError (.defect source)).map
        (⟨driverOf first, optionsOf first, binding, ·⟩) := by
  have named : ¬(Text.strip first).isEmpty = true := by simpa [isBlankLine] using filled
  unfold parse parseLines
  simp only [lines, if_neg named, driverLine_eq]
  rw [Traced.outcome_mapError_bind_of_ok bound, Traced.outcome_bind, Traced.outcome_mapError]
  cases (routes binding.placeholder rest).outcome with
  | ok found => rfl
  | error e => rfl

end Driver

/-- The lines say the same: neither names a driver, or both name it alike and go on alike. -/
inductive SayAlike : List (List Char) → List (List Char) → Prop where
  | driverless {lines others : List (List Char)}
      (blank : ∀ first ∈ lines.head?, isBlankLine first = true)
      (blank' : ∀ first ∈ others.head?, isBlankLine first = true) : SayAlike lines others
  | driver {first first' : List Char} {rest rest' : List (List Char)}
      (filled : isBlankLine first = false) (filled' : isBlankLine first' = false)
      (same : driverLine first = driverLine first') (later : Alike rest rest') :
      SayAlike (first :: rest) (first' :: rest')

section Sayings

variable {line other : List Char} {rest rest' : List (List Char)}

theorem sayAlike_cons (same : Text.strip line = Text.strip other) (later : Alike rest rest') :
    SayAlike (line :: rest) (other :: rest') := by
  have blank : isBlankLine line = isBlankLine other := by rw [isBlankLine, same, isBlankLine]
  cases first : isBlankLine line with
  | true => exact .driverless (by simpa using first) (by simpa using blank.symm.trans first)
  | false =>
    refine .driver first (blank.symm.trans first) ?_ later
    simp only [driverLine, same]

theorem sayAlike_middle {before : List (List Char)} (started : before ≠ [])
    (same : Line.ofText line = Line.ofText other) (later : List (List Char)) :
    SayAlike (before ++ line :: later) (before ++ other :: later) := by
  obtain ⟨first, before, rfl⟩ := List.exists_cons_of_ne_nil started
  exact sayAlike_cons rfl (alike_middle same before later)

end Sayings

/-- What comes of a text depends on what its lines say. -/
theorem parse_congr (source : String) (strict : Bool)
    (alike : SayAlike (Text.splitLines text) (Text.splitLines other)) :
    (parse source strict other).outcome = (parse source strict text).outcome := by
  generalize split : Text.splitLines text = lines at alike
  generalize split' : Text.splitLines other = others at alike
  cases alike with
  | driverless blank blank' =>
    have one := parse_of_driverless source strict (split.symm ▸ blank)
    have two := parse_of_driverless source strict (split'.symm ▸ blank')
    exact two.trans one.symm
  | driver filled filled' same later =>
    rw [driverLine_eq, driverLine_eq] at same
    obtain ⟨driver, options⟩ := Prod.mk.inj same
    cases bound : (Binding.forDriver [] strict (driverOf _)).outcome with
    | error e =>
      rw [parse_of_refused source split filled bound,
        parse_of_refused source split' filled' (driver ▸ bound)]
    | ok binding =>
      have read : (routes binding.placeholder _).outcome = (routes binding.placeholder _).outcome :=
        later.resume .start 2
      rw [parse_of_driver source split filled bound,
        parse_of_driver source split' filled' (driver ▸ bound), read, driver, options]

end Parsing

end SqlRoutes.Route.Conf
