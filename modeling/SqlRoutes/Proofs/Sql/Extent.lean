import SqlRoutes.Sql.Lexeme

/-!
Where lexemes end. Each rule takes `text` from the front of `text ++ rest` under two conditions:
it takes all of `text` when it stands alone, and nothing in `rest` goes on with it. For quoted text
and comments the second says that `text` is closed, or `rest` empty.
-/
namespace SqlRoutes.Sql

theorem onto_one_iff {c : Char} {taken rest : List Char} {parts : List Char × List Char} :
    onto [c] parts = (c :: taken, rest) ↔ parts = (taken, rest) := by
  obtain ⟨first, second⟩ := parts
  simp [onto]

theorem onto_two_iff {c d : Char} {taken rest : List Char} {parts : List Char × List Char} :
    onto [c, d] parts = (c :: d :: taken, rest) ↔ parts = (taken, rest) := by
  obtain ⟨first, second⟩ := parts
  simp [onto]

section Quoted

variable {quote c : Char} {rest : List Char}

theorem splitQuoted_other (other : c ≠ quote) :
    splitQuoted quote (c :: rest) = onto [c] (splitQuoted quote rest) := by
  cases rest with
  | nil => rfl
  | cons d rest => simp [splitQuoted, other]

theorem splitQuoted_twice :
    splitQuoted quote (quote :: quote :: rest) = onto [quote, quote] (splitQuoted quote rest) := by
  simp [splitQuoted]

theorem splitQuoted_alone (alone : rest.head? ≠ some quote) :
    splitQuoted quote (quote :: rest) = ([quote], rest) := by
  cases rest with
  | nil => rfl
  | cons d rest =>
    have other : d ≠ quote := by simpa using alone
    simp [splitQuoted, other]

def closes (quote : Char) : List Char → Bool
  | [] => false
  | [c] => c = quote
  | c :: d :: rest =>
    if c = quote then if d = quote then closes quote rest else true
    else closes quote (d :: rest)

theorem splitQuoted_eq_nil_iff : splitQuoted quote rest = ([], rest) ↔ rest = [] := by
  constructor
  · intro same
    cases rest with
    | nil => rfl
    | cons c rest =>
      have filled : (splitQuoted quote (c :: rest)).1 ≠ [] := by
        by_cases other : c = quote
        · subst other
          by_cases alone : rest.head? = some c
          · obtain ⟨tail, rfl⟩ := List.head?_eq_some_iff.1 alone
            simp [splitQuoted_twice, onto]
          · simp [splitQuoted_alone alone]
        · simp [splitQuoted_other other, onto]
      simp [same] at filled
  · rintro rfl
    rfl

theorem splitQuoted_append_iff (quote : Char) (text rest : List Char) :
    splitQuoted quote (text ++ rest) = (text, rest) ↔
      splitQuoted quote text = (text, []) ∧
        (rest = [] ∨ closes quote text = true ∧ rest.head? ≠ some quote) := by
  fun_induction closes quote text with
  | case1 => simpa [splitQuoted] using splitQuoted_eq_nil_iff
  | case2 c =>
    by_cases same : c = quote
    · subst same
      have single : splitQuoted c [c] = ([c], []) := rfl
      by_cases alone : rest.head? = some c
      · obtain ⟨tail, rfl⟩ := List.head?_eq_some_iff.1 alone
        simp [splitQuoted_twice, onto]
      · simp [splitQuoted_alone alone, single, alone]
    · have single : splitQuoted quote [c] = ([c], []) := rfl
      rw [List.singleton_append, splitQuoted_other same, onto_one_iff, splitQuoted_eq_nil_iff]
      simp [single, same]
  | case3 tail ih =>
    simp only [List.cons_append, splitQuoted_twice, onto_two_iff, ih]
  | case4 d tail twice =>
    have alone (more : List Char) : (d :: more).head? ≠ some quote := by simpa using twice
    simp [splitQuoted_alone (alone _)]
  | case5 c d tail other ih =>
    simp only [List.cons_append, splitQuoted_other other, onto_one_iff] at ih ⊢
    exact ih

end Quoted

theorem splitLine_append_iff (text rest : List Char) :
    splitLine (text ++ rest) = (text, rest) ↔
      splitLine text = (text, []) ∧ (rest = [] ∨ text.getLast? = some '\n') := by
  fun_induction splitLine text with
  | case1 =>
    cases rest with
    | nil => simp [splitLine]
    | cons d rest => by_cases newline : d = '\n' <;> simp [splitLine, newline, onto]
  | case2 tail => cases tail <;> simp [splitLine]
  | case3 c tail other ih =>
    have last : (c :: tail).getLast? = some '\n' ↔ tail.getLast? = some '\n' := by
      cases tail <;> simp [other]
    rw [List.cons_append, splitLine, if_neg other, onto_one_iff, onto_one_iff, ih, last]

section Comment

variable {depth : Nat} {c : Char} {rest : List Char}

theorem splitComment_other (closes : ¬(c = '*' ∧ rest.head? = some '/'))
    (opens : ¬(c = '/' ∧ rest.head? = some '*')) :
    splitComment depth (c :: rest) = onto [c] (splitComment depth rest) := by
  rw [splitComment]
  · rintro tail rfl rfl
    simp at closes
  · rintro tail rfl rfl
    simp at opens

theorem splitComment_fst_ne_nil : (splitComment depth (c :: rest)).1 ≠ [] := by
  by_cases closes : c = '*' ∧ rest.head? = some '/'
  · obtain ⟨rfl, slash⟩ := closes
    obtain ⟨tail, rfl⟩ := List.head?_eq_some_iff.1 slash
    cases depth <;> simp [splitComment, onto]
  by_cases opens : c = '/' ∧ rest.head? = some '*'
  · obtain ⟨rfl, star⟩ := opens
    obtain ⟨tail, rfl⟩ := List.head?_eq_some_iff.1 star
    simp [splitComment, onto]
  · simp [splitComment_other closes opens, onto]

theorem splitComment_eq_nil_iff : splitComment depth rest = ([], rest) ↔ rest = [] := by
  cases rest with
  | nil => simp [splitComment]
  | cons c rest =>
    have filled : (splitComment depth (c :: rest)).1 ≠ [] := splitComment_fst_ne_nil
    constructor
    · intro same
      simp [same] at filled
    · intro same
      cases same

theorem splitComment_eq_one_iff : splitComment depth (c :: rest) = ([c], rest) ↔ rest = [] := by
  by_cases closes : c = '*' ∧ rest.head? = some '/'
  · obtain ⟨rfl, slash⟩ := closes
    obtain ⟨tail, rfl⟩ := List.head?_eq_some_iff.1 slash
    cases depth <;> simp [splitComment, onto]
  by_cases opens : c = '/' ∧ rest.head? = some '*'
  · obtain ⟨rfl, star⟩ := opens
    obtain ⟨tail, rfl⟩ := List.head?_eq_some_iff.1 star
    simp [splitComment, onto]
  · rw [splitComment_other closes opens, onto_one_iff, splitComment_eq_nil_iff]

theorem splitComment_append_iff (depth : Nat) (text rest : List Char) :
    splitComment depth (text ++ rest) = (text, rest) ↔
      splitComment depth text = (text, []) ∧ (rest = [] ∨ levelsLeft depth text = 0) := by
  fun_induction levelsLeft depth text with
  | case1 depth => simpa [splitComment] using splitComment_eq_nil_iff
  | case2 tail => cases tail <;> simp [splitComment]
  | case3 tail depth ih => simp only [List.cons_append, splitComment, onto_two_iff, ih]
  | case4 depth tail ih => simp only [List.cons_append, splitComment, onto_two_iff, ih]
  | case5 depth c tail closes opens ih =>
    have noClose : ¬(c = '*' ∧ tail.head? = some '/') := by
      rintro ⟨rfl, slash⟩
      obtain ⟨more, rfl⟩ := List.head?_eq_some_iff.1 slash
      exact closes more rfl rfl
    have noOpen : ¬(c = '/' ∧ tail.head? = some '*') := by
      rintro ⟨rfl, star⟩
      obtain ⟨more, rfl⟩ := List.head?_eq_some_iff.1 star
      exact opens more rfl rfl
    rw [splitComment_other noClose noOpen, onto_one_iff]
    cases tail with
    | cons d tail =>
      rw [List.cons_append, splitComment_other (by simpa using noClose) (by simpa using noOpen),
        onto_one_iff]
      exact ih
    | nil =>
      rw [List.singleton_append, splitComment_eq_one_iff]
      simp [splitComment, levelsLeft]

end Comment

/-- How far a number has come: whether a point and an exponent mark have been passed, and whether
the mark was the last character, so that a sign may follow. -/
structure Numeral where
  fraction : Bool
  exponent : Bool
  sign : Bool

def Numeral.start : Numeral := ⟨false, false, false⟩

def Numeral.next? (numeral : Numeral) (c : Char) : Option Numeral :=
  if c.isDigit then some { numeral with sign := false }
  else if c = 'e' || c = 'E' then
    if numeral.exponent then none else some ⟨false, true, true⟩
  else if c = '.' then
    if numeral.fraction then none else some ⟨true, numeral.exponent, false⟩
  else if (c = '+' || c = '-') && numeral.sign then some { numeral with sign := false }
  else none

def Numeral.after? (numeral : Numeral) (text : List Char) : Option Numeral :=
  text.foldlM Numeral.next? numeral

/-- The longest front that a number goes on with. -/
def Numeral.span (numeral : Numeral) : List Char → List Char × List Char
  | [] => ([], [])
  | c :: rest =>
    match numeral.next? c with
    | some next => onto [c] (next.span rest)
    | none => ([], c :: rest)

theorem Numeral.after?_cons (numeral : Numeral) (c : Char) (text : List Char) :
    numeral.after? (c :: text) = (numeral.next? c).bind fun next => next.after? text := by
  simp only [after?, List.foldlM_cons]
  rfl

theorem Numeral.span_append_iff (numeral : Numeral) (text rest : List Char) :
    numeral.span (text ++ rest) = (text, rest) ↔
      ∃ last, numeral.after? text = some last ∧ ∀ c ∈ rest.head?, last.next? c = none := by
  induction text generalizing numeral with
  | nil =>
    cases rest with
    | nil => simp [span, after?]
    | cons c rest =>
      cases next : numeral.next? c <;> simp [span, after?, next, onto]
  | cons c text ih =>
    rw [List.cons_append, after?_cons, span]
    cases numeral.next? c with
    | none => simp
    | some next => simp only [onto_one_iff, ih, Option.bind_some]

theorem Numeral.span_sign {fraction exponent : Bool} {c : Char} {rest : List Char}
    (noSign : ¬(c = '+' ∨ c = '-')) :
    span ⟨fraction, exponent, true⟩ (c :: rest) = span ⟨fraction, exponent, false⟩ (c :: rest) := by
  have same : next? ⟨fraction, exponent, true⟩ c = next? ⟨fraction, exponent, false⟩ c := by
    simp [next?, noSign]
  simp only [span, same]

theorem Numeral.span_next {numeral next : Numeral} {c : Char} {rest : List Char}
    (goes : numeral.next? c = some next) :
    numeral.span (c :: rest) = onto [c] (next.span rest) := by
  simp only [span, goes]

theorem Numeral.span_stop {numeral : Numeral} {c : Char} {rest : List Char}
    (stops : numeral.next? c = none) : numeral.span (c :: rest) = ([], c :: rest) := by
  simp only [span, stops]

theorem splitNumber_eq_span (fraction exponent : Bool) (text : List Char) :
    splitNumber fraction exponent text = Numeral.span ⟨fraction, exponent, false⟩ text := by
  fun_induction splitNumber fraction exponent text with
  | case1 => rfl
  | case2 fraction exponent c continues =>
    have goes : (Numeral.next? ⟨fraction, exponent, false⟩ c).isSome := by
      grind [Numeral.next?]
    obtain ⟨next, found⟩ := Option.isSome_iff_exists.1 goes
    rw [Numeral.span_next found]
    rfl
  | case3 fraction exponent c stops =>
    rw [Numeral.span_stop]
    grind [Numeral.next?]
  | case4 fraction exponent c d rest digit ih =>
    rw [Numeral.span_next (by simp [Numeral.next?, digit]; rfl), ih]
  | case5 fraction c d rest noDigit mark =>
    rw [Numeral.span_stop]
    simp [Numeral.next?, noDigit, mark]
  | case6 fraction exponent c d rest noDigit mark noExponent sign ih =>
    have markGoes : Numeral.next? ⟨fraction, exponent, false⟩ c = some ⟨false, true, true⟩ := by
      simp [Numeral.next?, noDigit, mark, noExponent]
    have signGoes : Numeral.next? ⟨false, true, true⟩ d = some ⟨false, true, false⟩ := by
      rcases (by simpa using sign : d = '+' ∨ d = '-') with rfl | rfl <;> rfl
    rw [Numeral.span_next markGoes, Numeral.span_next signGoes, ih]
    rfl
  | case7 fraction exponent c d rest noDigit mark noExponent noSign ih =>
    have markGoes : Numeral.next? ⟨fraction, exponent, false⟩ c = some ⟨false, true, true⟩ := by
      simp [Numeral.next?, noDigit, mark, noExponent]
    rw [Numeral.span_next markGoes, Numeral.span_sign (by simpa using noSign), ih]
  | case8 exponent d rest noDigit noMark => rw [Numeral.span_stop (by rfl)]
  | case9 fraction exponent d rest noFraction noDigit noMark ih =>
    have pointGoes : Numeral.next? ⟨fraction, exponent, false⟩ '.' =
        some ⟨true, exponent, false⟩ := by
      simp [Numeral.next?, noFraction]
    rw [Numeral.span_next pointGoes, ih]
  | case10 fraction exponent c d rest noDigit noMark noPoint =>
    rw [Numeral.span_stop]
    simp [Numeral.next?, noDigit, noMark, noPoint]

theorem splitNumber_append_iff (text rest : List Char) :
    splitNumber false false (text ++ rest) = (text, rest) ↔
      ∃ last, Numeral.start.after? text = some last ∧ ∀ c ∈ rest.head?, last.next? c = none := by
  rw [splitNumber_eq_span]
  exact Numeral.start.span_append_iff text rest

theorem takeWhile_append_iff (p : Char → Bool) (text rest : List Char) :
    ((text ++ rest).takeWhile p, (text ++ rest).dropWhile p) = (text, rest) ↔
      (∀ c ∈ text, p c = true) ∧ ∀ c ∈ rest.head?, p c = false := by
  induction text with
  | nil =>
    cases rest with
    | nil => simp
    | cons c rest => cases goes : p c <;> simp [goes]
  | cons c text ih => cases goes : p c <;> simp_all

end SqlRoutes.Sql
