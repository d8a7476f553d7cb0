import Mathlib.Data.List.TakeWhile
import SqlRoutes.Files.Path

namespace SqlRoutes.Path

def IsName (name : List Char) : Prop := name ≠ [] ∧ name ≠ ['.'] ∧ '/' ∉ name

/-- A path with one of the roots, and names that can stand on it. -/
structure Regular (path : Path) : Prop where
  root : path.root ∈ ["", "/", "//"]
  names : ∀ name ∈ path.names, IsName name.toList

section Pieces

theorem pieces_cons (c : Char) (text : List Char) : pieces (c :: text) =
    if c = '/' then [] :: pieces text
    else
      match pieces text with
      | [] => [[c]]
      | piece :: pieces => (c :: piece) :: pieces := rfl

theorem pieces_eq_splitOn (text : List Char) : pieces text = text.splitOn '/' := by
  induction text with
  | nil => rfl
  | cons c text ih =>
    rw [pieces_cons, ih, List.splitOn_cons_eq_if_modifyHead]
    by_cases slash : c = '/'
    · simp [slash]
    · rw [if_neg slash, if_neg (by simpa using slash)]
      cases split : text.splitOn '/' with
      | nil => exact absurd split (List.splitOn_ne_nil _ _)
      | cons piece pieces => rfl

theorem not_mem_of_mem_pieces {text piece : List Char} (member : piece ∈ pieces text) :
    '/' ∉ piece := by
  induction text generalizing piece with
  | nil =>
    obtain rfl := List.mem_singleton.1 member
    exact List.not_mem_nil
  | cons c text ih =>
    rw [pieces_cons] at member
    by_cases slash : c = '/'
    · rw [if_pos slash] at member
      rcases List.mem_cons.1 member with rfl | later
      · exact List.not_mem_nil
      · exact ih later
    · rw [if_neg slash] at member
      split at member
      · obtain rfl := List.mem_singleton.1 member
        simpa using Ne.symm slash
      · next first others split =>
        rcases List.mem_cons.1 member with rfl | later
        · have inner := ih (split ▸ List.mem_cons_self)
          simpa [inner] using Ne.symm slash
        · exact ih (split ▸ List.mem_cons_of_mem first later)

def namesOf (text : List Char) : List (List Char) :=
  (pieces text).filter fun name => !name.isEmpty && name ≠ ['.']

theorem mem_namesOf {text name : List Char} (member : name ∈ namesOf text) : IsName name := by
  obtain ⟨piece, kept⟩ := List.mem_filter.1 member
  have noSlash := not_mem_of_mem_pieces piece
  have filled : name ≠ [] ∧ name ≠ ['.'] := by simpa using kept
  exact ⟨filled.1, filled.2, noSlash⟩

theorem namesOf_slash (text : List Char) : namesOf ('/' :: text) = namesOf text := by
  have cut : pieces ('/' :: text) = [] :: pieces text := rfl
  rw [namesOf, cut, List.filter_cons_of_neg (by simp)]
  rfl

theorem namesOf_joined {names : List (List Char)} (each : ∀ name ∈ names, IsName name) :
    namesOf (['/'].intercalate names) = names := by
  cases names with
  | nil => rfl
  | cons name names =>
    rw [namesOf, pieces_eq_splitOn, List.splitOn_intercalate '/' _ (by simp)]
    · rw [List.filter_eq_self]
      intro name member
      obtain ⟨filled, dotless, -⟩ := each name member
      simp [filled, dotless]
    · intro name member
      exact (each name member).2.2

end Pieces

theorem rootOf_mem (text : List Char) : rootOf text ∈ ["", "/", "//"] := by
  unfold rootOf
  split <;> simp

theorem regular_ofString (text : String) : (ofString text).Regular := by
  refine ⟨rootOf_mem _, ?_⟩
  intro name member
  obtain ⟨piece, inside, rfl⟩ := List.mem_map.1 member
  rw [String.toList_ofList]
  exact mem_namesOf inside

theorem head?_joined {names : List (List Char)} (each : ∀ name ∈ names, IsName name) :
    (['/'].intercalate names).head? ≠ some '/' := by
  cases names with
  | nil => simp
  | cons name names =>
    obtain ⟨filled, -, noSlash⟩ := each name (.head _)
    obtain ⟨c, rest, rfl⟩ := List.exists_cons_of_ne_nil filled
    have first : c ≠ '/' := by
      rintro rfl
      exact noSlash (.head _)
    cases names with
    | nil => simpa using first
    | cons next names => simpa [List.intercalate_cons_cons] using first

theorem rootOf_append {body : List Char} {root : String} (known : root ∈ ["", "/", "//"])
    (head : body.head? ≠ some '/') : rootOf (root.toList ++ body) = root := by
  simp only [List.mem_cons, List.not_mem_nil, or_false] at known
  rcases known with rfl | rfl | rfl
  all_goals
    cases body with
    | nil => rfl
    | cons c body =>
      have first : c ≠ '/' := by simpa using head
      simp [rootOf, first]

theorem namesOf_root {root : String} (known : root ∈ ["", "/", "//"]) (body : List Char) :
    namesOf (root.toList ++ body) = namesOf body := by
  simp only [List.mem_cons, List.not_mem_nil, or_false] at known
  rcases known with rfl | rfl | rfl
  · rfl
  · exact namesOf_slash body
  · exact (namesOf_slash _).trans (namesOf_slash body)

theorem ofString_text {path : Path} (regular : path.Regular) : ofString path.text = path := by
  have each : ∀ name ∈ path.names.map String.toList, IsName name := by
    simpa using regular.names
  have shape : (path.root ++ "/".intercalate path.names).toList =
      path.root.toList ++ ['/'].intercalate (path.names.map String.toList) := by
    rw [String.toList_append, String.toList_intercalate]
    rfl
  have names : path.names.map (String.ofList ∘ String.toList) = path.names := by
    simp [Function.comp_def]
  unfold text
  dsimp only
  split
  · next empty =>
    rw [empty] at shape
    obtain ⟨root, joined⟩ := List.append_eq_nil_iff.1 shape.symm
    have none : path.names = [] := by
      have kept := namesOf_joined each
      rw [joined] at kept
      simpa [namesOf, pieces] using kept.symm
    obtain ⟨root', names'⟩ := path
    obtain rfl := String.toList_eq_nil_iff.1 root
    obtain rfl := none
    rfl
  · rw [ofString, shape]
    change Path.mk _ ((namesOf _).map String.ofList) = path
    rw [rootOf_append regular.root (head?_joined each), namesOf_root regular.root,
      namesOf_joined each, List.map_map, names]

section Suffix

theorem forall_mem_reverse_ne_dot {name : List Char} (dotless : '.' ∉ name) :
    ∀ c ∈ name.reverse, decide (c ≠ '.') = true := by
  intro c member
  have other : c ≠ '.' := by
    rintro rfl
    exact dotless (List.mem_reverse.1 member)
  simpa using other

theorem suffixOf_append {name tail : List Char} (named : name ≠ []) (filled : tail ≠ [])
    (dotless : '.' ∉ tail) : suffixOf (name ++ '.' :: tail) = '.' :: tail := by
  have last : ((name ++ '.' :: tail).reverse.takeWhile (· ≠ '.')).reverse = tail := by
    rw [List.reverse_append, List.reverse_cons, List.append_assoc,
      List.takeWhile_append_of_pos (forall_mem_reverse_ne_dot dotless)]
    simp
  have long : 0 < name.length := List.length_pos_iff.2 named
  unfold suffixOf
  dsimp only
  rw [last, if_neg]
  simp only [List.isEmpty_iff, List.length_append, List.length_cons, Bool.or_eq_true,
    decide_eq_true_eq, filled, false_or]
  omega

theorem suffixOf_of_not_mem {name : List Char} (dotless : '.' ∉ name) : suffixOf name = [] := by
  have all : (name.reverse.takeWhile (· ≠ '.')).reverse = name := by
    rw [List.takeWhile_eq_self_iff.2 (forall_mem_reverse_ne_dot dotless), List.reverse_reverse]
  unfold suffixOf
  dsimp only
  rw [all, if_pos (by simp)]

variable {path extended : Path} {more : String}

theorem extend?_eq_some_iff : path.extend? more = some extended ↔ ∃ name,
    path.names.getLast? = some name ∧
      extended = { path with names := path.names.dropLast ++ [name ++ more] } := by
  unfold extend?
  cases path.names.getLast? with
  | none => simp
  | some name => simp [eq_comm]

theorem Regular.extend? (regular : path.Regular) {tail : List Char} (noSlash : '/' ∉ tail)
    (grown : path.extend? (.ofList ('.' :: tail)) = some extended) : extended.Regular := by
  obtain ⟨name, last, rfl⟩ := extend?_eq_some_iff.1 grown
  obtain ⟨filled, -, noSlash'⟩ := regular.names name (List.mem_of_getLast? last)
  refine ⟨regular.root, ?_⟩
  intro other member
  rcases List.mem_append.1 member with earlier | same
  · exact regular.names other (List.dropLast_subset _ earlier)
  · obtain rfl := List.mem_singleton.1 same
    obtain ⟨c, rest, shape⟩ := List.exists_cons_of_ne_nil filled
    rw [String.toList_append, String.toList_ofList, shape]
    rw [shape] at noSlash'
    refine ⟨by simp, by simp, ?_⟩
    simpa [noSlash] using noSlash'

theorem suffix_extend? (regular : path.Regular) {tail : List Char} (filled : tail ≠ [])
    (dotless : '.' ∉ tail) (grown : path.extend? (.ofList ('.' :: tail)) = some extended) :
    extended.suffix = .ofList ('.' :: tail) := by
  obtain ⟨name, last, rfl⟩ := extend?_eq_some_iff.1 grown
  obtain ⟨named, -, -⟩ := regular.names name (List.mem_of_getLast? last)
  have shape : ({ path with names := path.names.dropLast ++
      [name ++ .ofList ('.' :: tail)] } : Path).name.toList = name.toList ++ '.' :: tail := by
    simp [Path.name]
  rw [suffix, shape, suffixOf_append named filled dotless]

end Suffix

end SqlRoutes.Path
