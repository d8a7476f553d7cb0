import SqlRoutes.Proofs.Route.Reading

/-!
White space between the words of a line. Between the method and the pattern of a route any of it
will do. The driver is only told from its options by white space that has a space in it: where it
has none, what is taken for the driver reaches into the options.
-/
namespace SqlRoutes.Route.Conf

open Log

section Paths

variable {word method : String} {gap text other : List Char}

theorem words_append_gap (isWord : IsWord word) (inline : Text.Gap gap) (rest : List Char) :
    Text.words (word.toList ++ (gap ++ rest)) = word.toList :: Text.words rest := by
  obtain ⟨c, others, rfl⟩ := List.exists_cons_of_ne_nil inline.nonempty
  obtain ⟨blank, blanks⟩ := List.forall_mem_cons.1 inline.blank
  rw [List.cons_append, Text.words_append_blank isWord.toList_ne_nil isWord.2 blank,
    Text.words_blanks_append blanks]

theorem ofText_path (known : method ∈ methods) (inline : Text.Gap gap) (rest : List Char) :
    Line.ofText (method.toList ++ (gap ++ rest)) =
      .path (method.toList :: Text.words rest) := by
  have isWord := isWord_of_mem_methods known
  have words := words_append_gap isWord inline rest
  obtain ⟨filled, unindented⟩ := isWord.starts (gap ++ rest)
  have starts : startsWithMethod (method.toList ++ (gap ++ rest)) = true := by
    simpa [startsWithMethod, words, methods] using known
  rw [ofText_of_method filled unindented starts, words]

inductive Respaced : List Char → List Char → Prop where
  | path {before old new after : List Char} {method : String} (started : before ≠ [])
      (starts : ∀ c ∈ before.getLast?, Text.isBreak c = true) (known : method ∈ methods)
      (inline : Text.Gap old) (inline' : Text.Gap new) :
      Respaced (before ++ (method.toList ++ (old ++ after)))
        (before ++ (method.toList ++ (new ++ after)))

theorem Respaced.sayAlike (respaced : Respaced text other) :
    SayAlike (Text.splitLines text) (Text.splitLines other) := by
  cases respaced with
  | @path before old new after method started starts known inline inline' =>
    obtain ⟨line, later, split⟩ := Text.exists_splitLines_within starts after
    have isWord := isWord_of_mem_methods known
    have lines {gap : List Char} (inline : Text.Gap gap) :
        Text.splitLines (before ++ (method.toList ++ (gap ++ after))) =
          Text.splitLines before ++ (method.toList ++ (gap ++ line)) :: later := by
      have unbroken : OneLine (method.toList ++ gap) :=
        List.forall_mem_append.2 ⟨isWord.oneLine, inline.unbroken⟩
      have whole := split (method.toList ++ gap) (by simp [isWord.1]) unbroken
      rwa [List.append_assoc, List.append_assoc] at whole
    have same : Line.ofText (method.toList ++ (old ++ line)) =
        Line.ofText (method.toList ++ (new ++ line)) := by
      rw [ofText_path known inline, ofText_path known inline']
    rw [lines inline, lines inline']
    exact sayAlike_middle (Text.splitLines_ne_nil started) same later

end Paths

/-- The first line of a text starts with the word and has something else behind white space. -/
structure Opening (lead : List Char) (word : String) (rest : List Char) : Prop where
  blank : ∀ c ∈ lead, Text.isBlank c = true
  unbroken : OneLine lead
  isWord : IsWord word
  leads : ∃ c ∈ rest.head?, Text.isBlank c = false

namespace Opening

variable {lead rest gap old new : List Char} {word : String}

theorem rest_filled (opening : Opening lead word rest) : Text.stripRight rest ≠ [] := by
  obtain ⟨c, leads, filled⟩ := opening.leads
  obtain ⟨rest, rfl⟩ := List.head?_eq_some_iff.1 leads
  rw [← List.nil_append (c :: rest), Text.stripRight_append_cons filled]
  exact List.cons_ne_nil _ _

theorem strip_eq (opening : Opening lead word rest) (gap : List Char) :
    Text.strip (lead ++ (word.toList ++ (gap ++ rest))) =
      word.toList ++ (gap ++ Text.stripRight rest) := by
  have first := (opening.isWord.starts (gap ++ rest)).2
  rw [Text.strip_blanks_append opening.blank, Text.strip_eq_stripRight first, ← List.append_assoc,
    Text.stripRight_append opening.rest_filled, List.append_assoc]

theorem driverLine_of_space (opening : Opening lead word rest) (inline : Text.Gap gap)
    (space : ' ' ∈ gap) :
    driverLine (lead ++ (word.toList ++ (gap ++ rest))) = (word, .ofList (Text.strip rest)) := by
  obtain ⟨before, after, rfl, absent⟩ := List.eq_append_cons_of_mem space
  obtain ⟨blank, blank'⟩ := List.forall_mem_append.1 inline.blank
  have noSpace : ' ' ∉ word.toList ++ before := by
    rw [List.mem_append, not_or]
    exact ⟨fun member => Bool.false_ne_true (opening.isWord.2 ' ' member).symm, absent⟩
  have cut : Text.cut? ' ' (word.toList ++ (before ++ ' ' :: after ++ Text.stripRight rest)) =
      some (word.toList ++ before, after ++ Text.stripRight rest) := by
    simpa using Text.cut?_append noSpace (after ++ Text.stripRight rest)
  have driver : Text.strip (word.toList ++ before) = word.toList := by
    rw [Text.strip_append_blanks blank, Text.strip_of_filled opening.isWord.2]
  simp only [driverLine, opening.strip_eq, cut, driver, String.ofList_toList,
    Text.strip_blanks_append (List.forall_mem_cons.1 blank').2, Text.strip_stripRight]

theorem driverOf_of_no_space (opening : Opening lead word rest) :
    ∃ tail, tail ≠ [] ∧ ∀ gap, ' ' ∉ gap →
      driverOf (lead ++ (word.toList ++ (gap ++ rest))) =
        .ofList (word.toList ++ (gap ++ tail)) := by
  obtain ⟨c, leads, filled⟩ := opening.leads
  obtain ⟨rest, rfl⟩ := List.head?_eq_some_iff.1 leads
  have notSpace : c ≠ ' ' := by
    intro same
    rw [same] at filled
    cases filled
  have kept : Text.stripRight (c :: rest) = c :: Text.stripRight rest :=
    Text.stripRight_append_cons filled [] rest
  let front := c :: (Text.stripRight rest).takeWhile (· ≠ ' ')
  have opening' : Opening [] word front :=
    ⟨by simp, by simp [OneLine], opening.isWord, c, rfl, filled⟩
  refine ⟨Text.stripRight front, opening'.rest_filled, fun gap noSpace => ?_⟩
  have before : ∀ d ∈ word.toList ++ gap, decide (d ≠ ' ') = true := by
    intro d member
    refine decide_eq_true fun same => ?_
    rw [same] at member
    rcases List.mem_append.1 member with inWord | inGap
    · exact Bool.false_ne_true (opening.isWord.2 ' ' inWord).symm
    · exact noSpace inGap
  have cut : (word.toList ++ (gap ++ Text.stripRight (c :: rest))).takeWhile (· ≠ ' ') =
      word.toList ++ (gap ++ front) := by
    rw [← List.append_assoc, List.takeWhile_append_of_pos before, kept,
      List.takeWhile_cons_of_pos (by simpa using notSpace), List.append_assoc]
  rw [driverOf, opening.strip_eq, cut]
  exact congrArg String.ofList (opening'.strip_eq gap)

theorem driverOf_eq_iff (opening : Opening lead word rest) (inline : Text.Gap gap) :
    driverOf (lead ++ (word.toList ++ (gap ++ rest))) = word ↔ ' ' ∈ gap := by
  by_cases space : ' ' ∈ gap
  · have line := opening.driverLine_of_space inline space
    rw [driverLine_eq] at line
    exact iff_of_true (Prod.mk.inj line).1 space
  · obtain ⟨tail, nonempty, driver⟩ := opening.driverOf_of_no_space
    refine iff_of_false (fun same => ?_) space
    rw [driver gap space] at same
    have letters : word.toList ++ (gap ++ tail) = word.toList := by
      simpa using congrArg String.toList same
    have nothing : gap ++ tail = [] := List.append_right_eq_self.1 letters
    exact nonempty (List.append_eq_nil_iff.1 nothing).2

theorem filled_line (opening : Opening lead word rest) (gap : List Char) :
    isBlankLine (lead ++ (word.toList ++ (gap ++ rest))) = false := by
  simp [isBlankLine, opening.strip_eq, opening.isWord.1]

theorem exists_splitLines (opening : Opening lead word rest) :
    ∃ line later, Opening lead word line ∧ ∀ gap, Text.Gap gap →
      Text.splitLines (lead ++ (word.toList ++ (gap ++ rest))) =
        (lead ++ (word.toList ++ (gap ++ line))) :: later := by
  obtain ⟨c, leads, filled⟩ := opening.leads
  obtain ⟨rest, rfl⟩ := List.head?_eq_some_iff.1 leads
  have start : ∀ d ∈ ([] : List Char).getLast?, Text.isBreak d = true := by simp
  obtain ⟨line, later, split⟩ := Text.exists_splitLines_within start rest
  refine ⟨c :: line, later, { opening with leads := ⟨c, rfl, filled⟩ }, fun gap inline => ?_⟩
  have unbroken : OneLine (lead ++ (word.toList ++ (gap ++ [c]))) := by
    simp only [OneLine, List.forall_mem_append, List.forall_mem_singleton]
    exact ⟨opening.unbroken, opening.isWord.oneLine, inline.unbroken,
      Text.isBreak_of_not_isBlank filled⟩
  have whole := split (lead ++ (word.toList ++ (gap ++ [c]))) (by simp) unbroken
  simpa [Text.splitLines] using whole

theorem parse_space {source : String} {strict : Bool} {config : RouteConfig}
    (opening : Opening lead word rest) (inline : Text.Gap old) (inline' : Text.Gap new)
    (parsed : (parse source strict (lead ++ (word.toList ++ (old ++ rest)))).outcome =
      .ok config) :
    (config.driver = word ↔ ' ' ∈ old) ∧
      ((parse source strict (lead ++ (word.toList ++ (new ++ rest)))).outcome = .ok config ↔
        new = old ∨ ' ' ∈ old ∧ ' ' ∈ new) := by
  obtain ⟨line, later, first, split⟩ := opening.exists_splitLines
  have driver {gap : List Char} (inline : Text.Gap gap)
      (parsed : (parse source strict (lead ++ (word.toList ++ (gap ++ rest)))).outcome =
        .ok config) :
      config.driver = driverOf (lead ++ (word.toList ++ (gap ++ line))) := by
    obtain ⟨_, _, lines, -, named, -⟩ := parse_eq_ok_iff.1 parsed
    obtain ⟨rfl, -⟩ := List.cons.inj ((split gap inline).symm.trans lines)
    exact named
  refine ⟨by rw [driver inline parsed, first.driverOf_eq_iff inline], ?_⟩
  constructor
  · intro parsed'
    have same : driverOf (lead ++ (word.toList ++ (new ++ line))) =
        driverOf (lead ++ (word.toList ++ (old ++ line))) :=
      (driver inline' parsed').symm.trans (driver inline parsed)
    have both : ' ' ∈ new ↔ ' ' ∈ old := by
      rw [← first.driverOf_eq_iff inline', same, first.driverOf_eq_iff inline]
    by_cases space : ' ' ∈ old
    · exact .inr ⟨space, both.2 space⟩
    · obtain ⟨tail, -, spelled⟩ := first.driverOf_of_no_space
      rw [spelled new (fun inNew => space (both.1 inNew)), spelled old space] at same
      have whole := List.append_cancel_left (String.ofList_injective same)
      exact .inl (List.append_cancel_right whole)
  · rintro (rfl | ⟨space, space'⟩)
    · exact parsed
    · have alike : SayAlike (Text.splitLines (lead ++ (word.toList ++ (old ++ rest))))
          (Text.splitLines (lead ++ (word.toList ++ (new ++ rest)))) := by
        rw [split old inline, split new inline']
        refine .driver (first.filled_line old) (first.filled_line new) ?_ (.refl later)
        rw [first.driverLine_of_space inline space, first.driverLine_of_space inline' space']
      exact (parse_congr source strict alike).trans parsed

end Opening

/-- White space behind the method of a route may be changed for other white space. White space
behind the driver may as long as both have a space in them, and just then: the word before it is the
driver only if it has a space. -/
theorem parse_separators (source : String) (strict : Bool) :
    (∀ text other, Respaced text other →
      (parse source strict other).outcome = (parse source strict text).outcome) ∧
    ∀ lead word rest old new config, Opening lead word rest → Text.Gap old → Text.Gap new →
      (parse source strict (lead ++ (word.toList ++ (old ++ rest)))).outcome = .ok config →
        (config.driver = word ↔ ' ' ∈ old) ∧
          ((parse source strict (lead ++ (word.toList ++ (new ++ rest)))).outcome = .ok config ↔
            new = old ∨ ' ' ∈ old ∧ ' ' ∈ new) := by
  constructor
  · intro text other respaced
    exact parse_congr source strict respaced.sayAlike
  · intro lead word rest old new config opening inline inline' parsed
    exact opening.parse_space inline inline' parsed

theorem parse_separators_sqlite :
    (parse "a.conf" false ("ql\n".toList ++ ("GET".toList ++ ("\t ".toList ++ ['/'])))).outcome =
        (parse "a.conf" false ("ql\n".toList ++ ("GET".toList ++ ([' '] ++ ['/'])))).outcome ∧
      ∃ config, (parse "a.conf" false ([] ++ ("sqlite3".toList ++ ([' '] ++ ['f'])))).outcome =
          .ok config ∧ config.driver = "sqlite3" ∧
        (parse "a.conf" false ([] ++ ("sqlite3".toList ++ (['\t', ' '] ++ ['f'])))).outcome =
          .ok config ∧
        (parse "a.conf" false ([] ++ ("sqlite3".toList ++ (['\t'] ++ ['f'])))).outcome ≠
          .ok config := by
  have space : Text.Gap [' '] := Text.gap_of_mem (by simp) (by simp)
  have tab : Text.Gap ['\t'] := Text.gap_of_mem (by simp) (by simp)
  have both : Text.Gap ['\t', ' '] := Text.gap_of_mem (by simp) (by simp)
  have starts : ∀ c ∈ "ql\n".toList.getLast?, Text.isBreak c = true := by
    intro c last
    cases last
    rfl
  have respaced : Respaced ("ql\n".toList ++ ("GET".toList ++ ([' '] ++ ['/'])))
      ("ql\n".toList ++ ("GET".toList ++ ("\t ".toList ++ ['/']))) :=
    .path (by simp) starts (by simp [methods]) space both
  have opening : Opening [] "sqlite3" ['f'] :=
    ⟨by simp, by simp [OneLine], by simp [IsWord, Text.isBlank], 'f', rfl, rfl⟩
  have parsed : (parse "a.conf" false ([] ++ ("sqlite3".toList ++ ([' '] ++ ['f'])))).outcome =
      .ok ⟨"sqlite3", "f", ⟨"sqlite3", .given ⟨.named, ':'⟩, false⟩, []⟩ := by decide +kernel
  obtain ⟨paths, drivers⟩ := parse_separators "a.conf" false
  have spaced := (drivers _ _ _ _ _ _ opening space both parsed).2
  have tabbed := (drivers _ _ _ _ _ _ opening space tab parsed).2
  exact ⟨paths _ _ respaced, _, parsed, rfl, spaced.2 (by simp), mt tabbed.1 (by simp)⟩

/-- A tab alone joins the options to the driver, and the binding is that of another driver. -/
theorem tab_joins_options :
    (parse "<string>" false "sqlite3 file:app.db\nGET /a\nq: SELECT :x\n".toList).outcome.map
        (fun config => (config.driver, config.options, config.binding.placeholder)) =
      .ok ("sqlite3", "file:app.db", ⟨.named, ':'⟩) ∧
    (parse "<string>" false "sqlite3\tfile:app.db\nGET /a\nq: SELECT :x\n".toList).outcome.map
        (fun config => (config.driver, config.options, config.binding.placeholder)) =
      .ok ("sqlite3\tfile:app.db", "", ⟨.simple, '?'⟩) := by
  decide +kernel

end SqlRoutes.Route.Conf
