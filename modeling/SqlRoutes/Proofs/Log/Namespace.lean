import SqlRoutes.Log.Setup

/-!
The names of the library's loggers. A name is put below the root unless it begins with the root's
letters. Such a name is kept, and if no dot follows the letters it is outside: the setup does not
apply to it.
-/
namespace SqlRoutes.Log

def Below (logger : String) : Prop := logger = rootName ∨ ∃ rest, logger = rootName ++ "." ++ rest

/-- The name begins with the root's letters and is outside all the same. -/
def Stray (name : String) : Prop := rootName.isPrefixOf name = true ∧ ¬Below name

section Names

theorem isPrefixOf_iff {name : String} :
    rootName.isPrefixOf name = true ↔ ∃ rest, name = rootName ++ rest := by
  rw [String.isPrefixOf, String.startsWith_string_iff]
  constructor
  · intro front
    obtain ⟨rest, joined⟩ := front
    refine ⟨.ofList rest, ?_⟩
    rw [← String.toList_inj, String.toList_append, String.toList_ofList, joined]
  · intro joined
    obtain ⟨rest, rfl⟩ := joined
    rw [String.toList_append]
    exact List.prefix_append _ _

theorem Below.isPrefixOf {logger : String} (below : Below logger) :
    rootName.isPrefixOf logger = true := by
  rw [isPrefixOf_iff]
  cases below with
  | inl root => exact ⟨"", root⟩
  | inr under =>
    obtain ⟨rest, rfl⟩ := under
    exact ⟨"." ++ rest, String.append_assoc ..⟩

theorem below_join (name : String) : Below (rootName ++ "." ++ name) := .inr ⟨name, rfl⟩

theorem loggerName_of_isPrefixOf {name : String} (known : rootName.isPrefixOf name = true) :
    loggerName (some name) = name :=
  if_pos known

theorem loggerName_of_not_isPrefixOf {name : String} (other : ¬rootName.isPrefixOf name = true) :
    loggerName (some name) = rootName ++ "." ++ name := by
  rw [loggerName, if_neg other]
  rfl

theorem isPrefixOf_loggerName (name : Option String) :
    rootName.isPrefixOf (loggerName name) = true := by
  cases name with
  | none => exact Below.isPrefixOf (.inl rfl)
  | some name =>
    by_cases known : rootName.isPrefixOf name = true
    · rwa [loggerName_of_isPrefixOf known]
    · rw [loggerName_of_not_isPrefixOf known]
      exact (below_join name).isPrefixOf

theorem below_loggerName_iff (name : Option String) :
    Below (loggerName name) ↔ ∀ given, name = some given → ¬Stray given := by
  cases name with
  | none =>
    constructor
    · intro _ given absent
      cases absent
    · intro _
      exact .inl rfl
  | some name =>
    by_cases known : rootName.isPrefixOf name = true
    · rw [loggerName_of_isPrefixOf known]
      constructor
      · intro below given same stray
        cases same
        exact stray.2 below
      · intro inside
        apply Classical.byContradiction
        intro outside
        exact inside name rfl ⟨known, outside⟩
    · rw [loggerName_of_not_isPrefixOf known]
      constructor
      · intro _ given same stray
        cases same
        exact known stray.1
      · intro _
        exact below_join name

end Names

section Governing

theorem drop_rootName (rest : String) :
    (rootName ++ rest).toList.drop rootName.length = rest.toList := by
  rw [String.toList_append, ← String.length_toList, List.drop_left]

/-- The setup applies to the root and to the names with an odd number of dots behind its letters. -/
theorem isGoverned_iff {logger : String} : isGoverned logger = true ↔
    logger = rootName ∨ ∃ rest, logger = rootName ++ rest ∧
      (rest.toList.takeWhile (· = '.')).length % 2 = 1 := by
  rw [isGoverned, Bool.or_eq_true, decide_eq_true_iff, Bool.and_eq_true, isPrefixOf_iff,
    decide_eq_true_iff]
  apply or_congr_right
  constructor
  · intro governed
    obtain ⟨⟨rest, rfl⟩, dots⟩ := governed
    rw [drop_rootName] at dots
    exact ⟨rest, rfl, dots⟩
  · intro governed
    obtain ⟨rest, rfl, dots⟩ := governed
    rw [drop_rootName]
    exact ⟨⟨rest, rfl⟩, dots⟩

theorem isGoverned_of_below {logger : String} (below : Below logger)
    (single : ∀ rest, logger = rootName ++ "." ++ rest → rest.toList.head? ≠ some '.') :
    isGoverned logger = true := by
  rw [isGoverned_iff]
  apply below.imp_right
  intro under
  obtain ⟨rest, rfl⟩ := under
  have stop : rest.toList.takeWhile (· = '.') = [] := by
    have first := single rest rfl
    cases shape : rest.toList with
    | nil => rfl
    | cons c others =>
      rw [shape] at first
      have other : c ≠ '.' := fun same => first (congrArg some same)
      simp [other]
  refine ⟨"." ++ rest, String.append_assoc .., ?_⟩
  simp [stop]

theorem below_of_isGoverned {logger : String} (governed : isGoverned logger = true) :
    Below logger := by
  apply (isGoverned_iff.1 governed).imp_right
  intro under
  obtain ⟨rest, rfl, dots⟩ := under
  cases shape : rest.toList with
  | nil =>
    rw [shape] at dots
    cases dots
  | cons c others =>
    have dot : c = '.' := by
      apply Classical.byContradiction
      intro other
      simp [shape, other] at dots
    refine ⟨.ofList others, ?_⟩
    rw [String.append_assoc]
    congr 1
    simp [← String.toList_inj, shape, dot]

end Governing

section Delivery

variable (origin : Origin) {setup : Setup} {record : Record}

theorem deliver_of_isGoverned (governed : isGoverned record.logger = true) :
    setup.deliver origin record = if setup.threshold ≤ record.level then
      setup.sinks.foldl (fun done sink => done.append (sink.deliver origin record)) .empty
    else .empty := by
  simp [Setup.deliver, Setup.takes, governed]

theorem deliver_of_not_isGoverned (outside : isGoverned record.logger = false) :
    setup.deliver origin record = .empty := by
  simp [Setup.deliver, Setup.takes, outside]

end Delivery

/-- A logger is the root's or below it unless it was asked for by a name that only begins with the
root's letters. Below the root the setup decides by its level which records go to its sinks. The
records of other loggers go nowhere. The name of a logger gives the same logger again. -/
theorem loggerName_below (name : Option String) :
    (Below (loggerName name) ↔ ∀ given, name = some given → ¬Stray given) ∧
    (∀ given, name = some given → Stray given → loggerName name = given) ∧
    loggerName (some (loggerName name)) = loggerName name ∧
    ∀ (origin : Origin) (setup : Setup) (record : Record), record.logger = loggerName name →
      (Below (loggerName name) →
        (∀ rest, loggerName name = rootName ++ "." ++ rest → rest.toList.head? ≠ some '.') →
        setup.deliver origin record = if setup.threshold ≤ record.level then
          setup.sinks.foldl (fun done sink => done.append (sink.deliver origin record)) .empty
        else .empty) ∧
      (¬Below (loggerName name) → setup.deliver origin record = .empty) := by
  refine ⟨below_loggerName_iff name, ?_, ?_, ?_⟩
  · intro given same stray
    rw [same]
    exact loggerName_of_isPrefixOf stray.1
  · exact loggerName_of_isPrefixOf (isPrefixOf_loggerName name)
  · intro origin setup record same
    constructor
    · intro below single
      apply deliver_of_isGoverned
      rw [same]
      exact isGoverned_of_below below single
    · intro outside
      apply deliver_of_not_isGoverned
      rw [same, ← Bool.not_eq_true]
      intro governed
      exact outside (below_of_isGoverned governed)

theorem loggerName_below_part : loggerName (some "loader") = rootName ++ "." ++ "loader" ∧
    Setup.deliver ⟨"noon", "m", "f", 1⟩ ⟨.info, [.collector], false⟩
      ⟨.warning, loggerName (some "loader"), "heard", none⟩ = ⟨[], [], ["heard"]⟩ := by
  have other : ¬rootName.isPrefixOf "loader" = true := by
    rw [String.isPrefixOf, String.startsWith_string_iff]
    decide
  have name : loggerName (some "loader") = rootName ++ "." ++ "loader" :=
    loggerName_of_not_isPrefixOf other
  have single : ∀ rest, loggerName (some "loader") = rootName ++ "." ++ rest →
      rest.toList.head? ≠ some '.' := by
    intro rest same
    rw [name, String.append_right_inj] at same
    rw [← same]
    decide
  have inside := (loggerName_below (some "loader")).1.2 (by
    intro given same stray
    cases same
    exact other stray.1)
  have heard := ((loggerName_below (some "loader")).2.2.2 ⟨"noon", "m", "f", 1⟩
    ⟨.info, [.collector], false⟩ ⟨.warning, loggerName (some "loader"), "heard", none⟩ rfl).1
    inside single
  exact ⟨name, heard⟩

/-- The logger of a word that only begins with the root's letters is outside, and what it has to say
is not heard at any level. -/
theorem sibling_logger_outside : loggerName (some "sqlbindings") = "sqlbindings" ∧
    ¬Below (loggerName (some "sqlbindings")) ∧
    Setup.deliver ⟨"noon", "m", "f", 1⟩ ⟨.debug, [.collector], false⟩
      ⟨.critical, loggerName (some "sqlbindings"), "lost", none⟩ = .empty := by
  have joined : "sqlbindings" = rootName ++ "ings" := rfl
  have name : loggerName (some "sqlbindings") = "sqlbindings" :=
    loggerName_of_isPrefixOf (isPrefixOf_iff.2 ⟨"ings", joined⟩)
  have outside : ¬Below "sqlbindings" := by
    intro below
    cases below with
    | inl root => exact absurd root (by decide)
    | inr under =>
      obtain ⟨rest, same⟩ := under
      have letter := congrArg (fun name : String => name.toList[7]?) same
      simp [rootName] at letter
  rw [name]
  refine ⟨rfl, outside, deliver_of_not_isGoverned _ ?_⟩
  rw [← Bool.not_eq_true]
  intro governed
  exact outside (below_of_isGoverned governed)

end SqlRoutes.Log
