import Mathlib.Computability.Language
import SqlRoutes.Proofs.Sql.Place

/-!
Numbers against their grammar. What a number can still go on with is a language of its own for each
state of reading, and the state after one more character stands for the words behind that
character. So reading takes the longest front that the grammar has.
-/
namespace SqlRoutes.Sql

def digits : Language Char := {text | ∀ c ∈ text, c.isDigit = true}

def oneOf (chars : List Char) : Language Char := {text | ∃ c ∈ chars, text = [c]}

def decimal : Language Char := digits * (1 + oneOf ['.'] * digits)

def exponentMark : Language Char := oneOf ['e', 'E'] * (1 + oneOf ['+', '-'])

def numerals : Language Char := decimal * (1 + exponentMark * decimal)

section Derivatives

variable {c : Char} {chars text : List Char} {m : Language Char}

theorem cons_mem_digits_mul :
    c :: text ∈ digits * m ↔ c.isDigit = true ∧ text ∈ digits * m ∨ c :: text ∈ m := by
  constructor
  · intro member
    obtain ⟨front, inDigits, back, inM, joined⟩ := Language.mem_mul.1 member
    cases front with
    | nil => exact .inr (joined ▸ inM)
    | cons d front =>
      obtain ⟨rfl, rfl⟩ := List.cons.inj joined
      obtain ⟨digit, others⟩ := List.forall_mem_cons.1 inDigits
      exact .inl ⟨digit, Language.append_mem_mul others inM⟩
  · rintro (⟨digit, member⟩ | member)
    · obtain ⟨front, inDigits, back, inM, rfl⟩ := Language.mem_mul.1 member
      have more : c :: front ∈ digits := List.forall_mem_cons.2 ⟨digit, inDigits⟩
      exact Language.append_mem_mul more inM
    · have none : [] ∈ digits := List.forall_mem_nil _
      exact Language.append_mem_mul none member

theorem cons_mem_oneOf_mul : c :: text ∈ oneOf chars * m ↔ c ∈ chars ∧ text ∈ m := by
  constructor
  · intro member
    obtain ⟨-, ⟨d, inChars, rfl⟩, back, inM, joined⟩ := Language.mem_mul.1 member
    obtain ⟨rfl, rfl⟩ := List.cons.inj joined
    exact ⟨inChars, inM⟩
  · rintro ⟨inChars, inM⟩
    exact Language.append_mem_mul (a := [c]) ⟨c, inChars, rfl⟩ inM

theorem cons_mem_optional_mul :
    c :: text ∈ (1 + oneOf chars) * m ↔ c ∈ chars ∧ text ∈ m ∨ c :: text ∈ m := by
  rw [add_mul, one_mul, Language.mem_add, cons_mem_oneOf_mul, or_comm]

theorem cons_mem_decimal_mul :
    c :: text ∈ decimal * m ↔
      c.isDigit = true ∧ text ∈ decimal * m ∨ c = '.' ∧ text ∈ digits * m ∨ c :: text ∈ m := by
  have parts : decimal * m = digits * (m + oneOf ['.'] * (digits * m)) := by
    rw [decimal, mul_assoc, add_mul, one_mul, mul_assoc]
  rw [parts, cons_mem_digits_mul, Language.mem_add, cons_mem_oneOf_mul, List.mem_singleton,
    or_comm (a := c :: text ∈ m)]

end Derivatives

namespace Numeral

variable {numeral : Numeral} {c : Char} {text : List Char} {m : Language Char}

theorem isDigit_of_mem (member : c ∈ ['+', '-', '.', 'e', 'E']) : c.isDigit = false := by
  have all : ∀ c ∈ ['+', '-', '.', 'e', 'E'], c.isDigit = false := by simp
  exact all c member

theorem next?_digit (digit : c.isDigit = true) :
    numeral.next? c = some { numeral with sign := false } := by
  simp [next?, digit]

theorem next?_mark (mark : c ∈ ['e', 'E']) :
    numeral.next? c = if numeral.exponent then none else some ⟨false, true, true⟩ := by
  rcases (by simpa using mark : c = 'e' ∨ c = 'E') with rfl | rfl <;> rfl

theorem next?_point :
    numeral.next? '.' =
      if numeral.fraction then none else some ⟨true, numeral.exponent, false⟩ := rfl

theorem next?_sign (sign : c ∈ ['+', '-']) :
    numeral.next? c = if numeral.sign then some { numeral with sign := false } else none := by
  rcases (by simpa using sign : c = '+' ∨ c = '-') with rfl | rfl <;> rfl

theorem next?_other (noDigit : ¬c.isDigit = true) (noMark : c ∉ ['e', 'E']) (noPoint : c ≠ '.')
    (noSign : c ∉ ['+', '-']) : numeral.next? c = none := by
  simp only [List.mem_cons, List.not_mem_nil, or_false] at noMark noSign
  simp [next?, noDigit, noMark, noPoint, noSign]

def signs (numeral : Numeral) : Language Char :=
  if numeral.sign then 1 + oneOf ['+', '-'] else 1

def part (numeral : Numeral) : Language Char := if numeral.fraction then digits else decimal

def tail (numeral : Numeral) : Language Char :=
  if numeral.exponent then 1 else 1 + exponentMark * decimal

/-- All that the number can go on with. -/
def onward (numeral : Numeral) : Language Char := numeral.signs * (numeral.part * numeral.tail)

theorem cons_mem_signs_mul :
    c :: text ∈ numeral.signs * m ↔
      numeral.sign = true ∧ c ∈ ['+', '-'] ∧ text ∈ m ∨ c :: text ∈ m := by
  cases sign : numeral.sign with
  | true => simp only [signs, sign, if_pos, cons_mem_optional_mul, true_and]
  | false => simp [signs, sign]

theorem cons_mem_part_mul :
    c :: text ∈ numeral.part * m ↔
      c.isDigit = true ∧ text ∈ numeral.part * m ∨
        numeral.fraction = false ∧ c = '.' ∧ text ∈ digits * m ∨ c :: text ∈ m := by
  cases fraction : numeral.fraction with
  | true => simp [part, fraction, cons_mem_digits_mul]
  | false => simp [part, fraction, cons_mem_decimal_mul]

theorem cons_mem_tail :
    c :: text ∈ numeral.tail ↔
      numeral.exponent = false ∧ c ∈ ['e', 'E'] ∧ text ∈ (1 + oneOf ['+', '-']) * decimal := by
  cases exponent : numeral.exponent with
  | true => simp [tail, exponent, Language.mem_one]
  | false =>
    rw [tail, exponent, exponentMark, mul_assoc]
    simp [Language.mem_add, Language.mem_one, cons_mem_oneOf_mul]

theorem onward_signless (fraction exponent sign : Bool) :
    onward ⟨fraction, exponent, false⟩ =
      part ⟨fraction, exponent, sign⟩ * tail ⟨fraction, exponent, sign⟩ := by
  simp [onward, signs, part, tail]

theorem onward_point (fraction exponent sign : Bool) :
    onward ⟨true, exponent, false⟩ = digits * tail ⟨fraction, exponent, sign⟩ := by
  simp [onward, signs, part, tail]

theorem onward_mark : onward ⟨false, true, true⟩ = (1 + oneOf ['+', '-']) * decimal := by
  simp [onward, signs, part, tail]

/-- The state behind a character stands for what is left of the words that start with it. -/
theorem cons_mem_onward :
    c :: text ∈ numeral.onward ↔ ∃ next, numeral.next? c = some next ∧ text ∈ next.onward := by
  rw [onward, cons_mem_signs_mul, cons_mem_part_mul, cons_mem_tail]
  obtain ⟨fraction, exponent, sign⟩ := numeral
  by_cases digit : c.isDigit = true
  · have others : ∀ d ∈ ['+', '-', '.', 'e', 'E'], c ≠ d := by
      rintro d member rfl
      simp [isDigit_of_mem member] at digit
    simp only [List.forall_mem_cons, List.not_mem_nil, false_imp_iff, forall_const] at others
    simp [next?_digit digit, digit, others, onward_signless fraction exponent sign]
  by_cases mark : c ∈ ['e', 'E']
  · have others : c ∉ ['+', '-'] ∧ c ≠ '.' := by
      rcases (by simpa using mark : c = 'e' ∨ c = 'E') with rfl | rfl <;> decide
    cases exponent <;> simp [next?_mark mark, digit, mark, others, onward_mark]
  by_cases point : c = '.'
  · subst point
    cases fraction <;> simp [next?_point, onward_point false exponent sign]
  by_cases isSign : c ∈ ['+', '-']
  · cases sign <;>
      simp [next?_sign isSign, digit, mark, point, isSign, onward_signless fraction exponent true]
  · simp [next?_other digit mark point isSign, digit, mark, point, isSign]

theorem nil_mem_onward (numeral : Numeral) : [] ∈ numeral.onward := by
  have none : [] ∈ digits := List.forall_mem_nil _
  have optional (l : Language Char) : [] ∈ 1 + l := .inl Language.nil_mem_one
  have inDecimal : [] ∈ decimal := Language.append_mem_mul none (optional _)
  have inSigns : [] ∈ numeral.signs := by
    unfold signs
    split
    · exact optional _
    · exact Language.nil_mem_one
  have inPart : [] ∈ numeral.part := by
    unfold part
    split
    · exact none
    · exact inDecimal
  have inTail : [] ∈ numeral.tail := by
    unfold tail
    split
    · exact Language.nil_mem_one
    · exact optional _
  exact Language.append_mem_mul inSigns (Language.append_mem_mul inPart inTail)

theorem mem_onward_iff : text ∈ numeral.onward ↔ (numeral.after? text).isSome = true := by
  induction text generalizing numeral with
  | nil => simp [nil_mem_onward, after?]
  | cons c text ih =>
    rw [cons_mem_onward, after?_cons]
    cases numeral.next? c with
    | none => simp
    | some next => simp [ih]

end Numeral

theorem mem_numerals_iff {text : List Char} :
    text ∈ numerals ↔ (Numeral.start.after? text).isSome = true := by
  rw [← Numeral.mem_onward_iff]
  simp [Numeral.onward, Numeral.signs, Numeral.part, Numeral.tail, Numeral.start, numerals]

instance : DecidablePred (· ∈ numerals) := fun _ => decidable_of_iff _ mem_numerals_iff.symm

example : "1.e+.5".toList ∈ numerals ∧ "1..5".toList ∉ numerals ∧ "1e2e".toList ∉ numerals := by
  decide

def pointed : Language Char :=
  (1 + decimal * exponentMark) * (digits * (oneOf ['.'] * digits))

def marked : Language Char := decimal * (exponentMark * decimal)

/-- From a state of the first kind each word of the language leads to one of the second kind. -/
def Leads (first : Numeral → Prop) (l : Language Char) (second : Numeral → Prop) : Prop :=
  ∀ numeral, first numeral → ∀ text ∈ l, ∃ last, numeral.after? text = some last ∧ second last

theorem Numeral.after?_append (numeral : Numeral) (front back : List Char) :
    numeral.after? (front ++ back) = (numeral.after? front).bind fun last => last.after? back := by
  simp only [after?, List.foldlM_append]
  rfl

namespace Leads

variable {first second third : Numeral → Prop} {l m : Language Char}

theorem mul (front : Leads first l second) (back : Leads second m third) :
    Leads first (l * m) third := by
  intro numeral start text member
  obtain ⟨before, inFront, behind, inBack, rfl⟩ := Language.mem_mul.1 member
  obtain ⟨middle, reached, holds⟩ := front numeral start before inFront
  obtain ⟨last, ended, satisfied⟩ := back middle holds behind inBack
  exact ⟨last, by rw [Numeral.after?_append, reached, Option.bind_some, ended], satisfied⟩

theorem mono (leads : Leads first l second) (weaker : ∀ numeral, second numeral → third numeral) :
    Leads first l third := by
  intro numeral start text member
  obtain ⟨last, ended, holds⟩ := leads numeral start text member
  exact ⟨last, ended, weaker last holds⟩

theorem optional (other : Leads first l second)
    (weaker : ∀ numeral, first numeral → second numeral) : Leads first (1 + l) second := by
  intro numeral start text member
  rcases (Language.mem_add _ _ _).1 member with none | some
  · obtain rfl := (Language.mem_one text).1 none
    exact ⟨numeral, rfl, weaker numeral start⟩
  · exact other numeral start text some

theorem oneOf {chars : List Char}
    (step : ∀ numeral, first numeral → ∀ c ∈ chars,
      ∃ last, numeral.next? c = some last ∧ second last) :
    Leads first (oneOf chars) second := by
  rintro numeral start - ⟨c, member, rfl⟩
  obtain ⟨last, next, holds⟩ := step numeral start c member
  exact ⟨last, by rw [Numeral.after?_cons, next]; rfl, holds⟩

theorem digits (kept : ∀ numeral, first numeral → first { numeral with sign := false }) :
    Leads first digits first := by
  intro numeral start text member
  induction text generalizing numeral with
  | nil => exact ⟨numeral, rfl, start⟩
  | cons c text ih =>
    obtain ⟨digit, others⟩ := List.forall_mem_cons.1 member
    obtain ⟨last, ended, holds⟩ := ih _ (kept numeral start) others
    exact ⟨last, by rw [Numeral.after?_cons, Numeral.next?_digit digit, Option.bind_some, ended],
      holds⟩

theorem point (free : ∀ numeral, first numeral →
      numeral.fraction = false ∧ second ⟨true, numeral.exponent, false⟩) :
    Leads first (Sql.oneOf ['.']) second := by
  apply oneOf
  intro numeral start c member
  obtain ⟨fraction, holds⟩ := free numeral start
  obtain rfl := List.mem_singleton.1 member
  exact ⟨_, by rw [Numeral.next?_point, fraction]; rfl, holds⟩

theorem decimal (exponent : Bool) :
    Leads (fun numeral => numeral.fraction = false ∧ numeral.exponent = exponent) decimal
      (·.exponent = exponent) := by
  apply mul (digits fun _ => id)
  apply optional _ fun _ => And.right
  exact mul (point fun _ => id) (digits fun _ => id)

theorem exponentMark :
    Leads (·.exponent = false) exponentMark
      (fun numeral => numeral.fraction = false ∧ numeral.exponent = true) := by
  have mark : Leads (·.exponent = false) (Sql.oneOf ['e', 'E']) (· = ⟨false, true, true⟩) := by
    apply oneOf
    intro numeral exponent c member
    exact ⟨_, by rw [Numeral.next?_mark member, exponent]; rfl, rfl⟩
  refine mark.mul (optional (oneOf ?_) ?_)
  · rintro - rfl c member
    exact ⟨_, by rw [Numeral.next?_sign member]; rfl, rfl, rfl⟩
  · rintro - rfl
    exact ⟨rfl, rfl⟩

theorem pointed :
    Leads (fun numeral => numeral.fraction = false ∧ numeral.exponent = false) pointed
      (·.fraction = true) := by
  have before : Leads (fun numeral => numeral.fraction = false ∧ numeral.exponent = false)
      (1 + Sql.decimal * Sql.exponentMark) (·.fraction = false) := by
    apply optional _ fun _ => And.left
    apply mul (decimal false)
    exact exponentMark.mono fun _ => And.left
  have inside : Leads (·.fraction = false) (Sql.oneOf ['.']) (·.fraction = true) :=
    point fun _ fraction => ⟨fraction, rfl⟩
  exact before.mul ((digits fun _ => id).mul (inside.mul (digits fun _ => id)))

theorem marked :
    Leads (fun numeral => numeral.fraction = false ∧ numeral.exponent = false) marked
      (·.exponent = true) :=
  (decimal false).mul (exponentMark.mul (decimal true))

end Leads

theorem longest_of_splitNumber {text rest : List Char}
    (taken : splitNumber false false (text ++ rest) = (text, rest)) :
    text ∈ numerals ∧ ∀ other ∈ numerals, other <+: text ++ rest → other.length ≤ text.length := by
  obtain ⟨last, whole, stops⟩ := (splitNumber_append_iff text rest).1 taken
  refine ⟨mem_numerals_iff.2 (by rw [whole]; rfl), ?_⟩
  intro other member isFront
  by_contra longer
  obtain ⟨more, rfl⟩ := List.prefix_of_prefix_length_le (List.prefix_append text rest) isFront
    (Nat.le_of_lt (Nat.lt_of_not_le longer))
  rw [List.prefix_append_right_inj] at isFront
  cases more with
  | nil => simp at longer
  | cons c more =>
    -- The number stops before `c`, so no word of the grammar goes on with it.
    obtain ⟨behind, rfl⟩ := isFront
    rw [mem_numerals_iff, Numeral.after?_append, whole, Option.bind_some, Numeral.after?_cons,
      stops c rfl] at member
    cases member

theorem splitNumber_of_second {front rest : List Char} {c : Char}
    (second : c = '.' ∧ front ∈ pointed ∨ c ∈ ['e', 'E'] ∧ front ∈ marked) :
    splitNumber false false (front ++ c :: rest) = (front, c :: rest) := by
  apply (splitNumber_append_iff front (c :: rest)).2
  rcases second with ⟨rfl, member⟩ | ⟨mark, member⟩
  · obtain ⟨last, whole, fraction⟩ := Leads.pointed Numeral.start ⟨rfl, rfl⟩ front member
    refine ⟨last, whole, ?_⟩
    intro d head
    obtain rfl := Option.some.inj head
    rw [Numeral.next?_point, fraction]
    rfl
  · obtain ⟨last, whole, exponent⟩ := Leads.marked Numeral.start ⟨rfl, rfl⟩ front member
    refine ⟨last, whole, ?_⟩
    intro d head
    obtain rfl := Option.some.inj head
    rw [Numeral.next?_mark mark, exponent]
    rfl

theorem Rule.numeric_iff {c : Char} {rest : List Char} {kind : Kind}
    {parts : List Char × List Char} (rule : Rule c rest kind parts) :
    kind = .numeric ↔ startsNumber c rest = true := by
  constructor
  · rintro rfl
    exact (rule_number_iff.1 rule).1
  · exact fun starts => (rule.unique (.number starts)).1

theorem startsNumber_iff {c : Char} {rest : List Char} :
    startsNumber c rest = true ↔
      (∃ d more, c :: rest = d :: more ∧ d.isDigit = true) ∨
        ∃ d more, c :: rest = '.' :: d :: more ∧ d.isDigit = true := by
  cases rest with
  | nil => simp [startsNumber]
  | cons e rest => simp [startsNumber]

/-- A token is a number exactly where a digit stands, or a point before one. It is then the longest
front of the text that the grammar has, so that a second point in the same part or a second mark of
an exponent starts another token. -/
theorem tokens_number (sql : List Char) (i : Nat) (token : Token)
    (present : (tokens sql)[i]? = some token) :
    let left := sql.drop token.position.toNat
    (token.kind = .numeric ↔
      (∃ c rest, left = c :: rest ∧ c.isDigit = true) ∨
        ∃ c rest, left = '.' :: c :: rest ∧ c.isDigit = true) ∧
    (token.kind = .numeric →
      token.text ∈ numerals ∧ token.text <+: left ∧
        (∀ other ∈ numerals, other <+: left → other.length ≤ token.text.length) ∧
        ∀ front c rest, left = front ++ c :: rest →
          c = '.' ∧ front ∈ pointed ∨ c ∈ ['e', 'E'] ∧ front ∈ marked →
          token.text = front ∧
            ∃ next, (tokens sql)[i + 1]? = some next ∧
              next.position = token.position + front.length) := by
  intro left
  rcases between_of_getElem? present with rfl | ⟨before, after, between, rfl⟩
  · simp [left]
  obtain ⟨c, tail, here, rule⟩ := between.rule
  have here : left = c :: tail := here
  refine ⟨?_, ?_⟩
  · rw [rule.numeric_iff, startsNumber_iff, here]
  · intro numeric
    rw [numeric] at rule
    have taken := (rule_number_iff.1 rule).2
    have whole : left = token.text ++ (after.map (·.text)).flatten := between.left
    rw [← here] at taken
    obtain ⟨member, longest⟩ := longest_of_splitNumber (whole ▸ taken.symm)
    refine ⟨member, ⟨_, whole.symm⟩, whole ▸ longest, ?_⟩
    intro front d rest parts second
    rw [parts, splitNumber_of_second second] at taken
    obtain ⟨same, -⟩ := Prod.mk.inj taken
    obtain ⟨next, follows, position, -⟩ := between.next
    exact ⟨same, next, follows, by rw [position, Token.stop, same]⟩

theorem tokens_number_points :
    (tokens "x1=1.5e-2.5.e3".toList)[2]? = some ⟨.numeric, 3, "1.5e-2.5".toList⟩ ∧
      "1.5e-2.5".toList ∈ numerals ∧
      (∀ other ∈ numerals, other <+: "1.5e-2.5.e3".toList → other.length ≤ 8) ∧
      ∃ next, (tokens "x1=1.5e-2.5.e3".toList)[3]? = some next ∧ next.position = 11 := by
  have present : (tokens "x1=1.5e-2.5.e3".toList)[2]? =
      some ⟨.numeric, 3, "1.5e-2.5".toList⟩ := by decide +kernel
  obtain ⟨-, number⟩ := tokens_number "x1=1.5e-2.5.e3".toList 2 _ present
  obtain ⟨member, -, longest, second⟩ := number rfl
  have digit : ∀ c ∈ ['1', '2', '5'], [c] ∈ digits := by
    intro c inDigits d same
    have all : ∀ c ∈ ['1', '2', '5'], c.isDigit = true := by simp
    rw [List.mem_singleton.1 same]
    exact all c inDigits
  have point : ['.', '5'] ∈ oneOf ['.'] * digits :=
    cons_mem_oneOf_mul.2 ⟨by decide, digit '5' (by decide)⟩
  have fraction : ['.', '5'] ∈ 1 + oneOf ['.'] * digits := .inr point
  have sign : ['-'] ∈ 1 + oneOf ['+', '-'] := .inr ⟨'-', by decide, rfl⟩
  have mark : ['e', '-'] ∈ exponentMark := cons_mem_oneOf_mul.2 ⟨by decide, sign⟩
  have before : ['1', '.', '5', 'e', '-'] ∈ 1 + decimal * exponentMark :=
    .inr (Language.append_mem_mul (Language.append_mem_mul (digit '1' (by decide)) fraction) mark)
  have inPart : "1.5e-2.5".toList ∈ pointed :=
    Language.append_mem_mul before (Language.append_mem_mul (digit '2' (by decide)) point)
  obtain ⟨-, follows⟩ := second "1.5e-2.5".toList '.' "e3".toList rfl (.inl ⟨rfl, inPart⟩)
  exact ⟨present, member, longest, follows⟩

end SqlRoutes.Sql
