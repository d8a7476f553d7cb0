import SqlRoutes.Sql.Lexeme

/-!
Operators. There are three tables of them, a set of characters that is asked before any table, and
an order in which the tables are asked. They agree: every operator starts with one of the
characters, and the operator that is found is the longest one.
-/
namespace SqlRoutes.Sql

section Tables

variable {table : List (List Char)} {count : Nat} {text front operator : List Char}

theorem front?_eq_some_iff (sized : ∀ entry ∈ table, entry.length = count) :
    front? table count text = some front ↔ front ∈ table ∧ front <+: text := by
  constructor
  · exact front?_eq_some
  · rintro ⟨member, isFront⟩
    have taken : text.take count = front := by
      rw [← sized front member]
      exact (List.prefix_iff_eq_take.1 isFront).symm
    rw [front?, taken, if_pos (by simpa using member)]

theorem front?_eq_none_iff (sized : ∀ entry ∈ table, entry.length = count) :
    front? table count text = none ↔ ∀ entry ∈ table, ¬entry <+: text := by
  simp only [Option.eq_none_iff_forall_ne_some, ne_eq, front?_eq_some_iff sized, not_and]

theorem length_threeChar : ∀ operator ∈ threeCharOperators, operator.length = 3 := by decide

theorem length_twoChar : ∀ operator ∈ twoCharOperators, operator.length = 2 := by decide

theorem length_oneChar : ∀ operator ∈ oneCharOperators, operator.length = 1 := by decide

theorem mem_operators_iff : operator ∈ operators ↔
    operator ∈ threeCharOperators ∨ operator ∈ twoCharOperators ∨ operator ∈ oneCharOperators := by
  simp only [operators, List.append_assoc, List.mem_append]

theorem length_le_of_mem_operators : ∀ operator ∈ operators, operator.length ≤ 3 := by decide

theorem starts_of_mem_operators : ∀ operator ∈ operators,
    operator.head?.any operatorStarts.contains = true := by
  decide +kernel

end Tables

section Found

variable {text operator : List Char}

theorem operator?_eq_none_iff :
    operator? text = none ↔ ∀ operator ∈ operators, ¬operator <+: text := by
  simp only [operator?, Option.or_eq_none_iff, front?_eq_none_iff length_threeChar,
    front?_eq_none_iff length_twoChar, front?_eq_none_iff length_oneChar, mem_operators_iff,
    or_imp, forall_and]

theorem length_le_of_operator? {other : List Char} (found : operator? text = some operator)
    (member : other ∈ operators) (isFront : other <+: text) : other.length ≤ operator.length := by
  simp only [operator?, Option.or_eq_some_iff, front?_eq_some_iff length_threeChar,
    front?_eq_some_iff length_twoChar, front?_eq_some_iff length_oneChar,
    front?_eq_none_iff length_threeChar, front?_eq_none_iff length_twoChar] at found
  rcases found with ⟨three, -⟩ | ⟨noThree, ⟨two, -⟩ | ⟨noTwo, one, -⟩⟩
  · rw [length_threeChar operator three]
    exact length_le_of_mem_operators other member
  · rw [length_twoChar operator two]
    rcases mem_operators_iff.1 member with three | two | one
    · exact absurd isFront (noThree other three)
    · exact Nat.le_of_eq (length_twoChar other two)
    · exact Nat.le_of_lt (by rw [length_oneChar other one]; decide)
  · rw [length_oneChar operator one]
    rcases mem_operators_iff.1 member with three | two | one
    · exact absurd isFront (noThree other three)
    · exact absurd isFront (noTwo other two)
    · exact Nat.le_of_eq (length_oneChar other one)

/-- An operator is the longest one at the front. -/
theorem operator?_eq_some_iff : operator? text = some operator ↔
    operator ∈ operators ∧ operator <+: text ∧
      ∀ other ∈ operators, other <+: text → other.length ≤ operator.length := by
  constructor
  · intro some
    obtain ⟨member, front⟩ := operator?_eq_some some
    exact ⟨member, front, fun other => length_le_of_operator? some⟩
  · rintro ⟨member, front, most⟩
    cases found : operator? text with
    | none => exact absurd front (operator?_eq_none_iff.1 found operator member)
    | some other =>
      obtain ⟨otherMember, otherFront⟩ := operator?_eq_some found
      have length : other.length = operator.length :=
        Nat.le_antisymm (most other otherMember otherFront)
          (length_le_of_operator? found member front)
      rw [(List.prefix_of_prefix_length_le otherFront front (Nat.le_of_eq length)).eq_of_length
        length]

theorem operator?_of_start {c : Char} (rest : List Char)
    (other : operatorStarts.contains c = false) : operator? (c :: rest) = none := by
  refine operator?_eq_none_iff.2 fun operator member isFront => ?_
  obtain ⟨d, head, start⟩ := (Option.any_eq_true _ _).1 (starts_of_mem_operators operator member)
  obtain ⟨tail, rfl⟩ := List.head?_eq_some_iff.1 head
  obtain ⟨rfl, -⟩ := List.cons_prefix_cons.1 isFront
  rw [start] at other
  cases other

end Found

end SqlRoutes.Sql
