import SqlRoutes.Proofs.Sql.Rule
import SqlRoutes.Sql.Token

/-!
Runs of the scanner. Whatever the text, the tokens handed out so far make up the text up to the
place where the scanner stands, one starts where the one before it stops, and no comment is left
open between them. A run to the end takes at most one call for every character and one more.
-/
namespace SqlRoutes.Sql

theorem levelsLeft_eq_zero (depth : Nat) (text : List Char)
    (remains : (splitComment depth text).2 ≠ []) : levelsLeft depth text = 0 := by
  fun_induction splitComment depth text with
  | case1 => simp at remains
  | case2 => simp [levelsLeft]
  | case3 rest depth ih => simpa [levelsLeft] using ih remains
  | case4 depth rest ih => simpa [levelsLeft] using ih remains
  | case5 depth c rest closes opens ih => simpa [levelsLeft] using ih remains

theorem lexemes_joined (text : List Char) : ((lexemes text).map (·.text)).flatten = text := by
  fun_induction lexemes text with
  | case1 => rfl
  | case2 c rest front ih =>
    simp only [List.map_cons, List.flatten_cons, ih]
    exact split_joined c rest

theorem length_lexemes_le (text : List Char) : (lexemes text).length ≤ text.length := by
  fun_induction lexemes text with
  | case1 => simp
  | case2 c rest front ih =>
    have shorter : front.2.2.length < (c :: rest).length := length_split_lt c rest
    simp only [List.length_cons] at shorter ⊢
    omega

theorem kind_of_mem_lexemes {text : List Char} {lexeme : Lexeme} (member : lexeme ∈ lexemes text) :
    lexeme.kind ≠ .endOfInput := by
  fun_induction lexemes text with
  | case1 => simp at member
  | case2 c rest front ih =>
    rcases List.mem_cons.1 member with rfl | later
    · exact (rule_split c rest).kind_ne
    · exact ih later

/-- Each token starts where the one before it stops, the first of them at `position`. -/
def Contiguous (position : Int) : List Token → Prop
  | [] => True
  | token :: tokens => token.position = position ∧ Contiguous token.stop tokens

/-- Lexemes as tokens, the first of them at `position`, without the end of the input. -/
def placed (position : Nat) : List Lexeme → List Token
  | [] => []
  | lexeme :: lexemes =>
    ⟨lexeme.kind, position, lexeme.text⟩ :: placed (position + lexeme.text.length) lexemes

namespace Scanner

/-- The tokens that `count` calls hand out, and the scanner after them, unless a call fails. -/
def run : Nat → Scanner → Option (List Token × Scanner)
  | 0, scanner => some ([], scanner)
  | count + 1, scanner => do
    let (token, scanner) ← scanner.next?
    let (tokens, scanner) ← run count scanner
    return (token :: tokens, scanner)

/-- The scanner reads `text`: what it has still to scan is what follows its position, and it is
not inside a comment. -/
structure Reads (text : List Char) (scanner : Scanner) : Prop where
  rest : text.drop scanner.position = scanner.rest
  inside : scanner.position ≤ text.length
  depth : scanner.depth = 0

theorem reads_start (text : List Char) : Reads text (start text) :=
  ⟨rfl, Nat.zero_le _, rfl⟩

theorem depthAfter_zero (c : Char) (rest : List Char) : depthAfter 0 c rest = 0 := by
  have rule := rule_split c rest
  unfold depthAfter
  generalize split c rest = front at rule
  obtain ⟨kind, parts⟩ := front
  cases rule with
  | block tail =>
    by_cases remains : (splitComment 0 tail).2 = []
    · simp [remains]
    · simpa [onto] using fun _ => levelsLeft_eq_zero 0 tail remains
  | _ => rfl

/-- Everything a call can do: hand out the end of the input once, or the lexeme at the front. -/
theorem next?_cases {scanner after : Scanner} {token : Token}
    (called : scanner.next? = some (token, after)) :
    scanner.finished = false ∧
    ((scanner.rest = [] ∧ token = ⟨.endOfInput, scanner.position, []⟩ ∧
        after = { scanner with finished := true }) ∨
      ∃ c rest, scanner.rest = c :: rest ∧
        token = ⟨(split c rest).1, scanner.position, (split c rest).2.1⟩ ∧
        after = ⟨(split c rest).2.2, scanner.position + (split c rest).2.1.length,
          depthAfter scanner.depth c rest, false⟩) := by
  unfold next? at called
  split at called
  · cases called
  next unfinished =>
  refine ⟨by simpa using unfinished, ?_⟩
  split at called
  · next empty =>
    obtain ⟨rfl, rfl⟩ := by simpa using called
    exact .inl ⟨empty, rfl, rfl⟩
  · next c rest front =>
    obtain ⟨rfl, rfl⟩ := by simpa using called
    exact .inr ⟨c, rest, front, rfl, rfl⟩

theorem Reads.next {text : List Char} {scanner after : Scanner} {token : Token}
    (reads : Reads text scanner) (called : scanner.next? = some (token, after)) :
    Reads text after ∧
    token.position = scanner.position ∧ token.stop = after.position ∧
    text.take scanner.position ++ token.text = text.take after.position ∧
    (token.kind ≠ .endOfInput → token.text ≠ []) := by
  obtain ⟨rest, inside, depth⟩ := reads
  rcases (next?_cases called).2 with ⟨-, rfl, rfl⟩ | ⟨c, tail, front, rfl, rfl⟩
  · exact ⟨⟨rest, inside, depth⟩, rfl, by simp [Token.stop], by simp, fun other => absurd rfl other⟩
  · have joined : (split c tail).2.1 ++ (split c tail).2.2 = text.drop scanner.position := by
      rw [rest, front, split_joined]
    refine ⟨⟨?_, ?_, ?_⟩, rfl, ?_, ?_, fun _ => split_ne_nil c tail⟩
    · simp only [← List.drop_drop, ← joined, List.drop_left]
    · have lengths := congrArg List.length joined
      simp only [List.length_append, List.length_drop] at lengths
      dsimp only
      omega
    · simp only [depth, depthAfter_zero]
    · simp [Token.stop]
    · simp only [List.take_add, ← joined, List.take_left]

theorem Reads.run {text : List Char} {count : Nat} {scanner after : Scanner} {tokens : List Token}
    (reads : Reads text scanner) (ran : scanner.run count = some (tokens, after)) :
    Reads text after ∧ Contiguous scanner.position tokens ∧
    text.take scanner.position ++ (tokens.map (·.text)).flatten = text.take after.position ∧
    ∀ token ∈ tokens, token.kind ≠ .endOfInput → token.text ≠ [] := by
  induction count generalizing scanner tokens with
  | zero =>
    obtain ⟨rfl, rfl⟩ := by simpa [Scanner.run] using ran
    exact ⟨reads, trivial, by simp, by simp⟩
  | succ count ih =>
    obtain ⟨⟨token, middle⟩, called, continued⟩ := Option.bind_eq_some_iff.1 ran
    obtain ⟨⟨others, last⟩, laterRan, same⟩ := Option.bind_eq_some_iff.1 continued
    obtain ⟨rfl, rfl⟩ := by simpa using same
    obtain ⟨middleReads, starts, stops, passed, filled⟩ := reads.next called
    obtain ⟨lastReads, contiguous, laterPassed, laterFilled⟩ := ih middleReads laterRan
    refine ⟨lastReads, ⟨starts, ?_⟩, ?_, ?_⟩
    · rw [stops]
      exact contiguous
    · rw [List.map_cons, List.flatten_cons, ← List.append_assoc, passed, laterPassed]
    · intro other member
      rcases List.mem_cons.1 member with rfl | later
      · exact filled
      · exact laterFilled other later

theorem remaining_eq (scanner : Scanner) :
    (scanner.next? = none ∧ scanner.remaining = []) ∨
    ∃ token after, scanner.next? = some (token, after) ∧
      scanner.remaining = token :: after.remaining := by
  unfold next? remaining
  by_cases finished : scanner.finished = true
  · exact .inl (by simp [finished])
  · right
    simp only [finished, Bool.false_eq_true, ↓reduceIte]
    cases scanner.rest with
    | nil => exact ⟨_, _, rfl, by simp [lexemes, place]⟩
    | cons c rest => exact ⟨_, _, rfl, by rw [lexemes, place]; rfl⟩

theorem run_eq_some (scanner : Scanner) (count : Nat) (enough : count ≤ scanner.remaining.length) :
    ∃ after, scanner.run count = some (scanner.remaining.take count, after) ∧
      after.remaining = scanner.remaining.drop count := by
  induction count generalizing scanner with
  | zero => exact ⟨scanner, rfl, rfl⟩
  | succ count ih =>
    rcases remaining_eq scanner with ⟨-, none⟩ | ⟨token, middle, called, left⟩
    · simp [none] at enough
    · rw [left, List.length_cons] at enough
      obtain ⟨after, ran, rest⟩ := ih middle (by omega)
      exact ⟨after, by simp [run, called, ran, left], by simp [left, rest]⟩

theorem run_eq_none (scanner : Scanner) (count : Nat) (beyond : scanner.remaining.length < count) :
    scanner.run count = none := by
  induction count generalizing scanner with
  | zero => omega
  | succ count ih =>
    rcases remaining_eq scanner with ⟨failed, -⟩ | ⟨token, middle, called, left⟩
    · simp [run, failed]
    · rw [left, List.length_cons] at beyond
      simp [run, called, ih middle (by omega)]

theorem next?_eq_none {scanner : Scanner} (none : scanner.remaining = []) :
    scanner.next? = .none := by
  rcases remaining_eq scanner with ⟨failed, -⟩ | ⟨token, after, -, left⟩
  · exact failed
  · simp [left] at none

end Scanner

theorem place_eq_placed (position : Nat) (found : List Lexeme) :
    place position found = placed position found ++
      [⟨.endOfInput, (position + (found.map (·.text)).flatten.length : Nat), []⟩] := by
  induction found generalizing position with
  | nil => rfl
  | cons lexeme found ih => simp [place, placed, ih, Nat.add_assoc]

theorem length_placed (position : Nat) (found : List Lexeme) :
    (placed position found).length = found.length := by
  induction found generalizing position with
  | nil => rfl
  | cons lexeme found ih => simp [placed, ih]

theorem map_text_placed (position : Nat) (found : List Lexeme) :
    (placed position found).map (·.text) = found.map (·.text) := by
  induction found generalizing position with
  | nil => rfl
  | cons lexeme found ih => simp [placed, ih]

theorem map_kind_placed (position : Nat) (found : List Lexeme) :
    (placed position found).map (·.kind) = found.map (·.kind) := by
  induction found generalizing position with
  | nil => rfl
  | cons lexeme found ih => simp [placed, ih]

theorem tokens_eq (text : List Char) :
    tokens text = placed 0 (lexemes text) ++ [⟨.endOfInput, text.length, []⟩] := by
  rw [tokens, place_eq_placed, lexemes_joined, Nat.zero_add]

theorem kind_of_mem_placed {text : List Char} {token : Token}
    (member : token ∈ placed 0 (lexemes text)) : token.kind ≠ .endOfInput := by
  have kinds : token.kind ∈ (lexemes text).map (·.kind) := by
    rw [← map_kind_placed 0]
    exact List.mem_map_of_mem member
  obtain ⟨lexeme, present, same⟩ := List.mem_map.1 kinds
  rw [← same]
  exact kind_of_mem_lexemes present

/-- Scanning loses nothing. After any number of calls the tokens make up the text up to the place
of the scanner, follow each other without a gap and leave no comment open; the calls that succeed
are as many as there are characters and one more at most, the last of them hands out the end of
the input, and all together give the text again. -/
theorem scan_lossless (text : List Char) :
    (∀ count tokens scanner, (Scanner.start text).run count = some (tokens, scanner) →
      (tokens.map (·.text)).flatten = text.take scanner.position ∧
      scanner.position ≤ text.length ∧ Contiguous 0 tokens ∧ scanner.depth = 0 ∧
      ∀ token ∈ tokens, token.kind ≠ .endOfInput → token.text ≠ []) ∧
    ∃ body scanner,
      (Scanner.start text).run (body.length + 1) =
        some (body ++ [⟨.endOfInput, text.length, []⟩], scanner) ∧
      body.length + 1 ≤ text.length + 1 ∧
      (∀ token ∈ body, token.kind ≠ .endOfInput) ∧
      (body.map (·.text)).flatten = text ∧
      scanner.next? = none ∧
      ∀ count, ((Scanner.start text).run count).isSome ↔ count ≤ body.length + 1 := by
  constructor
  · intro count tokens scanner ran
    obtain ⟨reads, contiguous, passed, filled⟩ := (Scanner.reads_start text).run ran
    exact ⟨by simpa [Scanner.start] using passed, reads.inside, contiguous, reads.depth, filled⟩
  · have left : (Scanner.start text).remaining =
        placed 0 (lexemes text) ++ [⟨.endOfInput, text.length, []⟩] := tokens_eq text
    have count : (Scanner.start text).remaining.length = (placed 0 (lexemes text)).length + 1 := by
      simp [left]
    obtain ⟨scanner, ran, rest⟩ := (Scanner.start text).run_eq_some _ (Nat.le_of_eq count.symm)
    refine ⟨placed 0 (lexemes text), scanner, ?_, ?_, fun token => kind_of_mem_placed, ?_, ?_, ?_⟩
    · rw [ran, ← count, List.take_length, left]
    · rw [length_placed]
      exact Nat.succ_le_succ (length_lexemes_le text)
    · rw [map_text_placed, lexemes_joined]
    · apply Scanner.next?_eq_none
      rw [rest, ← count, List.drop_length]
    · intro calls
      by_cases enough : calls ≤ (placed 0 (lexemes text)).length + 1
      · obtain ⟨after, success, -⟩ := (Scanner.start text).run_eq_some calls (count ▸ enough)
        simp [success, enough]
      · simp [Scanner.run_eq_none (Scanner.start text) calls (by omega), enough]

end SqlRoutes.Sql
