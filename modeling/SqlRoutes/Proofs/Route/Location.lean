import SqlRoutes.Proofs.Route.Reading

/-!
The line that a defect is reported on. A route with the method and pattern of another is reported
on its first line, which is only known to be wrong once the route has ended. Any other defect is
reported on the line that makes the text wrong: whatever follows, the lines up to it are refused for
it, and the lines before it are not.
-/
namespace SqlRoutes.Route.Conf

open Log

/-- The line with the number is the first line of a route with the method and the pattern. Lines
are counted from one, which is the driver line. -/
def IsPathLine (lines : List (List Char)) (number : Nat) (method pattern : String) : Prop :=
  1 < number ∧ method ∈ methods ∧ ∃ line, lines[number - 1]? = some line ∧
    isIndented line = false ∧ Text.words line = [method.toList, pattern.toList]

def IsOpen (lines : List (List Char)) (number : Nat) : Prop :=
  ∀ line ∈ lines.drop number, isBlankLine line = false

section Lines

variable {lines : List (List Char)} {line : List Char} {number : Nat} {method pattern : String}

theorem IsPathLine.append (path : IsPathLine lines number method pattern)
    (more : List (List Char)) : IsPathLine (lines ++ more) number method pattern := by
  obtain ⟨later, known, line, present, shape⟩ := path
  refine ⟨later, known, line, ?_, shape⟩
  obtain ⟨inside, -⟩ := List.getElem?_eq_some_iff.1 present
  rw [List.getElem?_append_left inside, present]

theorem IsPathLine.le_length (path : IsPathLine lines number method pattern) :
    number ≤ lines.length := by
  obtain ⟨later, -, line, present, -⟩ := path
  obtain ⟨inside, -⟩ := List.getElem?_eq_some_iff.1 present
  omega

theorem IsOpen.append (opened : IsOpen lines number) (inside : number ≤ lines.length)
    (filled : isBlankLine line = false) : IsOpen (lines ++ [line]) number := by
  unfold IsOpen
  rw [List.drop_append_of_le_length inside]
  exact List.forall_mem_append.2 ⟨opened, List.forall_mem_singleton.2 filled⟩

theorem isPathLine_of_ofText {name target : List Char} (started : lines ≠ [])
    (shape : Line.ofText line = .path [name, target]) :
    IsPathLine (lines ++ [line]) (lines.length + 1) (.ofList name) (.ofList target) := by
  cases shape_of_ofText shape with
  | path filled unindented starts words =>
    have first : methods.contains (String.ofList ((Text.words line).headD [])) = true := starts
    have known : String.ofList name ∈ methods := by simpa [words] using first
    have later : 1 < lines.length + 1 := by
      have some := List.length_pos_iff.2 started
      omega
    exact ⟨later, known, line, by simp, unindented, by simp [words]⟩

end Lines

theorem Draft.flush_line (draft : Draft) : draft.flush.line = draft.line := by
  unfold flush
  split
  · rfl
  · split <;> rfl

section Feeding

variable {p : Placeholder} {state after : State} {number : Nat} {line : List Char} {found : Defect}

/-- Where a draft comes from: the line starts it, or goes on with the draft before. -/
inductive Drafted (state : State) (number : Nat) (line : List Char) (draft : Draft) : Prop where
  | started {method pattern : List Char} (shape : Line.ofText line = .path [method, pattern])
      (isMethod : draft.method = .ofList method) (isPattern : draft.pattern = .ofList pattern)
      (isLine : draft.line = number)
  | goesOn {before : Draft} (filled : isBlankLine line = false)
      (continued : state.draft = some before) (sameMethod : draft.method = before.method)
      (samePattern : draft.pattern = before.pattern) (sameLine : draft.line = before.line)

theorem drafted_of_feed {draft : Draft} (fed : (state.feed p number line).outcome = .ok after)
    (opened : after.draft = some draft) :
    after.routes = state.routes ∧ Drafted state number line draft := by
  cases fed_of_ok fed with
  | blank shape idle => cases idle.symm.trans opened
  | ended shape isOpen => cases opened
  | path started shape idle =>
    have same : number = started := by simpa [State.feed, shape, idle] using fed
    obtain rfl := Option.some.inj opened
    exact ⟨rfl, .started shape rfl rfl same.symm⟩
  | @query _ _ before shape continued =>
    obtain rfl := Option.some.inj opened
    obtain ⟨method, pattern⟩ := before.flush_header
    cases shape_of_ofText shape with
    | query filled => exact ⟨rfl, .goesOn filled continued method pattern before.flush_line⟩
  | continuation shape continued pending =>
    obtain rfl := Option.some.inj opened
    cases shape_of_ofText shape with
    | continuation filled => exact ⟨rfl, .goesOn filled continued rfl rfl rfl⟩

theorem line_of_feed (filled : isBlankLine line = false)
    (failed : (state.feed p number line).outcome = .error found) :
    found.line = some number ∧
      ∀ method pattern, found.problem ≠ .duplicateRoute method pattern := by
  have own (problem : Problem) (other : ∀ method pattern, problem ≠ .duplicateRoute method pattern)
      (same : .error ⟨problem, some number⟩ = (.error found : Except Defect State)) :
      found.line = some number ∧
        ∀ method pattern, found.problem ≠ .duplicateRoute method pattern := by
    obtain rfl := Except.error.inj same
    exact ⟨rfl, other⟩
  unfold State.feed at failed
  split at failed
  · next blank => exact absurd (blank_iff.1 blank) (by simp [filled])
  · exact own _ (by simp) failed
  · simp at failed
  · exact own _ (by simp) failed
  · exact own _ (by simp) failed
  · exact own _ (by simp) failed
  · simp at failed
  · exact own _ (by simp) failed
  · split at failed
    · exact own _ (by simp) failed
    · simp at failed

theorem line_of_finish {draft : Draft} (opened : state.draft = some draft)
    (known : draft.method ∈ methods) (failed : (state.finish p).outcome = .error found) :
    found = ⟨.duplicateRoute draft.method draft.pattern, some draft.line⟩ ∧
      ∃ route ∈ state.routes, route.method = draft.method ∧ route.pattern = draft.pattern := by
  obtain ⟨method, pattern⟩ := draft.flush_header
  simp only [State.finish, opened, Traced.outcome_bind, method, pattern,
    register_eq_enroll known, enroll] at failed
  split at failed
  · next present =>
    obtain rfl := Except.error.inj failed
    obtain ⟨route, member, same⟩ := List.any_eq_true.1 present
    exact ⟨by rw [draft.flush_line], route, member, by simpa using same⟩
  · cases failed

end Feeding

/-- After some lines, the routes so far and the one that is open each have their line. -/
structure Tracked (lines : List (List Char)) (state : State) : Prop where
  routes : ∀ route ∈ state.routes, ∃ number, IsPathLine lines number route.method route.pattern
  draft : ∀ draft, state.draft = some draft →
    IsPathLine lines draft.line draft.method draft.pattern ∧ IsOpen lines draft.line ∧
      ∀ route ∈ state.routes, ∃ number < draft.line,
        IsPathLine lines number route.method route.pattern

section Tracking

variable {p : Placeholder} {state after : State} {line : List Char} {lines more : List (List Char)}

theorem tracked_start (first : List Char) : Tracked [first] .start :=
  ⟨by simp [State.start], by simp [State.start]⟩

theorem Tracked.feed (tracked : Tracked lines state) (started : lines ≠ [])
    (fed : (state.feed p (lines.length + 1) line).outcome = .ok after) :
    Tracked (lines ++ [line]) after := by
  have kept : ∀ route ∈ state.routes, ∃ number,
      IsPathLine (lines ++ [line]) number route.method route.pattern := by
    intro route member
    obtain ⟨number, path⟩ := tracked.routes route member
    exact ⟨number, path.append [line]⟩
  constructor
  · cases fed_of_ok fed with
    | blank | path | query | continuation => exact kept
    | @ended draft shape opened =>
      obtain ⟨path, -, -⟩ := tracked.draft draft opened
      exact List.forall_mem_append.2
        ⟨kept, List.forall_mem_singleton.2 ⟨draft.line, path.append [line]⟩⟩
  · intro draft opened
    obtain ⟨routes, drafted⟩ := drafted_of_feed fed opened
    rw [routes]
    cases drafted with
    | started shape isMethod isPattern isLine =>
      have path := isPathLine_of_ofText started shape
      rw [isMethod, isPattern, isLine]
      refine ⟨path, by simp [IsOpen], fun route member => ?_⟩
      obtain ⟨earlier, isPath⟩ := tracked.routes route member
      have inside := isPath.le_length
      exact ⟨earlier, by omega, isPath.append [line]⟩
    | @goesOn before filled continued sameMethod samePattern sameLine =>
      obtain ⟨path, isOpen, others⟩ := tracked.draft before continued
      rw [sameMethod, samePattern, sameLine]
      refine ⟨path.append [line], isOpen.append path.le_length filled, fun route member => ?_⟩
      obtain ⟨earlier, less, isPath⟩ := others route member
      exact ⟨earlier, less, isPath.append [line]⟩

theorem Tracked.feedAll (tracked : Tracked lines state) (started : lines ≠ [])
    (ran : (state.feedAll p (lines.length + 1) more).outcome = .ok after) :
    Tracked (lines ++ more) after := by
  induction more generalizing lines state with
  | nil =>
    obtain rfl := Except.ok.inj ran
    rwa [List.append_nil]
  | cons line more ih =>
    obtain ⟨middle, first, later⟩ := Traced.outcome_bind_eq_ok.1 ran
    have whole := ih (tracked.feed started first) (by simp) (by simpa using later)
    simpa using whole

end Tracking

/-- The text is refused only for the route that is open at its end: an earlier one has its method
and pattern. -/
def EndsInDuplicate (source : String) (strict : Bool) (text : List Char) : Prop :=
  ∃ number method pattern,
    (parse source strict text).outcome =
        .error (.defect source ⟨.duplicateRoute method pattern, some number⟩) ∧
      IsPathLine (Text.splitLines text) number method pattern ∧
      IsOpen (Text.splitLines text) number ∧
      ∃ earlier < number, IsPathLine (Text.splitLines text) earlier method pattern

structure Located (source : String) (strict : Bool) (text : List Char) (found : Defect)
    (number : Nat) : Prop where
  line : found.line = some number
  positive : 1 ≤ number
  inside : number ≤ max 1 (Text.splitLines text).length
  duplicate : ∀ method pattern, found.problem = .duplicateRoute method pattern →
    IsPathLine (Text.splitLines text) number method pattern ∧
      ∃ earlier < number, IsPathLine (Text.splitLines text) earlier method pattern
  /-- Any other defect is there whatever follows the line. -/
  stable : (∀ method pattern, found.problem ≠ .duplicateRoute method pattern) →
    ∀ other, (Text.splitLines other).take number = (Text.splitLines text).take number →
      (parse source strict other).outcome = .error (.defect source found)
  /-- It is not there without the line. -/
  minimal : (∀ method pattern, found.problem ≠ .duplicateRoute method pattern) → 2 ≤ number →
    (∃ front, front <+: text ∧
      Text.splitLines front = (Text.splitLines text).take (number - 1)) ∧
    ∀ front, Text.splitLines front = (Text.splitLines text).take (number - 1) →
      (∃ config, (parse source strict front).outcome = .ok config) ∨
        EndsInDuplicate source strict front

theorem located_of_driverless (source : String) (strict : Bool) {text : List Char}
    (blank : ∀ first ∈ (Text.splitLines text).head?, isBlankLine first = true) :
    Located source strict text ⟨.driverLineMissing, some 1⟩ 1 where
  line := rfl
  positive := le_rfl
  inside := le_max_left _ _
  duplicate := by
    intro method pattern same
    cases same
  stable := by
    intro _ other same
    refine parse_of_driverless source strict fun first leads => ?_
    have heads := congrArg List.head? same
    simp only [List.head?_take, one_ne_zero, ↓reduceIte] at heads
    exact blank first (heads ▸ leads)
  minimal := by
    intro _ later
    exact absurd later (by decide)

section Reading

variable {source : String} {strict : Bool} {text first line : List Char}
variable {before later : List (List Char)} {p : Placeholder} {binding : Binding} {middle : State}
variable {found : Defect}

theorem path_of_finish (first : List Char)
    (ran : (State.start.feedAll p 2 before).outcome = .ok middle)
    (failed : (middle.finish p).outcome = .error found) :
    ∃ number method pattern, found = ⟨.duplicateRoute method pattern, some number⟩ ∧
      IsPathLine (first :: before) number method pattern ∧ IsOpen (first :: before) number ∧
      ∃ earlier < number, IsPathLine (first :: before) earlier method pattern := by
  have tracked : Tracked (first :: before) middle :=
    (tracked_start first).feedAll (List.cons_ne_nil _ _) ran
  cases opened : middle.draft with
  | none =>
    rw [State.finish, opened] at failed
    cases failed
  | some draft =>
    obtain ⟨path, isOpen, others⟩ := tracked.draft draft opened
    obtain ⟨same, route, member, method, pattern⟩ := line_of_finish opened path.2.1 failed
    obtain ⟨earlier, less, isPath⟩ := others route member
    exact ⟨draft.line, draft.method, draft.pattern, same, path, isOpen, earlier, less,
      method ▸ pattern ▸ isPath⟩

theorem located_of_ending (lines : Text.splitLines text = first :: (before ++ later))
    (ran : (State.start.feedAll p 2 before).outcome = .ok middle)
    (failed : (middle.finish p).outcome = .error found) :
    ∃ number, Located source strict text found number := by
  obtain ⟨number, method, pattern, rfl, path, -, earlier, less, isPath⟩ :=
    path_of_finish first ran failed
  have whole : Text.splitLines text = (first :: before) ++ later := lines
  have inside : number ≤ (Text.splitLines text).length := by
    rw [whole, List.length_append]
    exact path.le_length.trans (Nat.le_add_right _ _)
  refine ⟨number, rfl, path.1.le, inside.trans (le_max_right _ _), ?_, ?_, ?_⟩
  · intro method' pattern' same
    obtain ⟨rfl, rfl⟩ := Problem.duplicateRoute.inj same
    rw [whole]
    exact ⟨path.append later, earlier, less, isPath.append later⟩
  · intro other
    exact absurd rfl (other method pattern)
  · intro other
    exact absurd rfl (other method pattern)

variable (filled : isBlankLine first = false)
variable (bound : (Binding.forDriver [] strict (driverOf first)).outcome = .ok binding)
variable (ran : (State.start.feedAll binding.placeholder 2 before).outcome = .ok middle)

include filled bound ran

/-- Lines that are taken one by one make a text that is accepted, or end in a duplicate. -/
theorem front_of_ran (lines : Text.splitLines text = first :: before) :
    (∃ config, (parse source strict text).outcome = .ok config) ∨
      EndsInDuplicate source strict text := by
  have parsed := parse_of_driver source lines filled bound
  have read : (routes binding.placeholder before).outcome =
      (middle.finish binding.placeholder).outcome.map (·.routes) := by
    have whole := resume_append ran []
    rw [List.append_nil, resume_nil] at whole
    exact whole
  rw [read] at parsed
  cases ended : (middle.finish binding.placeholder).outcome with
  | ok last =>
    rw [ended] at parsed
    exact .inl ⟨_, parsed⟩
  | error e =>
    obtain ⟨number, method, pattern, rfl, lastRoute⟩ := path_of_finish first ran ended
    rw [ended] at parsed
    rw [← lines] at lastRoute
    exact .inr ⟨number, method, pattern, parsed, lastRoute⟩

theorem parse_of_feed_error
    (failed : (middle.feed binding.placeholder (2 + before.length) line).outcome = .error found)
    (lines : (Text.splitLines text).take (2 + before.length) = first :: (before ++ [line])) :
    (parse source strict text).outcome = .error (.defect source found) := by
  let rest := (Text.splitLines text).drop (2 + before.length)
  have whole : Text.splitLines text = first :: (before ++ line :: rest) := by
    calc Text.splitLines text
        = (Text.splitLines text).take (2 + before.length) ++ rest :=
          (List.take_append_drop _ _).symm
      _ = first :: (before ++ line :: rest) := by simp [lines]
  have read : (routes binding.placeholder (before ++ line :: rest)).outcome = .error found := by
    have stopped := resume_append ran (line :: rest)
    rw [resume_cons, failed] at stopped
    exact stopped
  rw [parse_of_driver source whole filled bound, read]
  rfl

theorem located_of_line (lines : Text.splitLines text = first :: (before ++ line :: later))
    (full : isBlankLine line = false)
    (failed : (middle.feed binding.placeholder (2 + before.length) line).outcome = .error found) :
    Located source strict text found (2 + before.length) := by
  obtain ⟨number, other⟩ := line_of_feed full failed
  have whole : Text.splitLines text = first :: (before ++ [line]) ++ later := by simp [lines]
  have count : (first :: (before ++ [line])).length = 2 + before.length := by grind
  have upTo : (Text.splitLines text).take (2 + before.length) = first :: (before ++ [line]) := by
    rw [whole, List.take_left' count]
  have ahead : (Text.splitLines text).take (2 + before.length - 1) = first :: before := by
    have pred : (first :: before).length = 2 + before.length - 1 := by grind
    rw [lines, ← List.cons_append, List.take_left' pred]
  refine ⟨number, by omega, ?_, ?_, ?_, ?_⟩
  · rw [whole, List.length_append, count]
    exact (Nat.le_add_right _ _).trans (le_max_right _ _)
  · intro method pattern same
    exact absurd same (other method pattern)
  · intro _ text' same
    exact parse_of_feed_error filled bound ran failed (same.trans upTo)
  · intro _ _
    rw [ahead]
    refine ⟨?_, fun front split => front_of_ran filled bound ran split⟩
    exact ahead ▸ Text.exists_splitLines_take text _

end Reading

/-- The defect is reported on a line of the text. A route that has the method and the pattern of an
earlier one is reported on its own first line. Any other defect is reported on the first line that
makes the text wrong: every text with the lines up to it is refused alike, and the lines before it
are accepted, unless the route that is open at their end is a duplicate. -/
theorem parse_defect_line {source name : String} {strict : Bool} {text : List Char}
    {found : Defect} (failed : (parse source strict text).outcome = .error (.defect name found)) :
    name = source ∧ ∃ number, Located source strict text found number := by
  by_cases blank : ∀ first ∈ (Text.splitLines text).head?, isBlankLine first = true
  · rw [parse_of_driverless source strict blank] at failed
    obtain ⟨rfl, rfl⟩ := LoadError.defect.inj (Except.error.inj failed)
    exact ⟨rfl, 1, located_of_driverless source strict blank⟩
  · push Not at blank
    obtain ⟨first, leads, filled⟩ := blank
    obtain ⟨rest, lines⟩ := List.head?_eq_some_iff.1 leads
    have full : isBlankLine first = false := by simpa using filled
    cases bound : (Binding.forDriver [] strict (driverOf first)).outcome with
    | error e =>
      rw [parse_of_refused source lines full bound] at failed
      cases failed
    | ok binding =>
      rw [parse_of_driver source lines full bound] at failed
      cases read : (routes binding.placeholder rest).outcome with
      | ok routes =>
        rw [read] at failed
        cases failed
      | error e =>
        rw [read] at failed
        obtain ⟨rfl, rfl⟩ := LoadError.defect.inj (Except.error.inj failed)
        refine ⟨rfl, ?_⟩
        have resumed : (resume binding.placeholder .start 2 rest).outcome = .error e := read
        cases stops_of_error resumed with
        | line whole ran filled failed =>
          exact ⟨_, located_of_line full bound ran (whole ▸ lines) filled failed⟩
        | ending whole ran failed => exact located_of_ending (whole ▸ lines) ran failed

theorem parse_defect_line_after_duplicate :
    (parse "a.conf" false "ql\nGET /\n\nGET /\nq".toList).outcome =
        .error (.defect "a.conf" ⟨.colonMissing, some 5⟩) ∧
      Located "a.conf" false "ql\nGET /\n\nGET /\nq".toList ⟨.colonMissing, some 5⟩ 5 := by
  have failed : (parse "a.conf" false "ql\nGET /\n\nGET /\nq".toList).outcome =
      .error (.defect "a.conf" ⟨.colonMissing, some 5⟩) := by decide +kernel
  obtain ⟨-, number, located⟩ := parse_defect_line failed
  obtain rfl := Option.some.inj located.line
  exact ⟨failed, located⟩

end SqlRoutes.Route.Conf
