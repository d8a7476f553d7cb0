/-!
Similarity of names. Two texts are compared by the characters they share in matching blocks: the
longest common block first, then the longest ones on either side of it, and so on. `closeMatches`
picks the candidates that share at least three fifths of their characters with a key.
-/
namespace SqlRoutes.Text

/-- Length of the common beginning, as far as no character is in `barred`. -/
def commonRun (barred : List Char) : List Char → List Char → Nat
  | a :: left, b :: right =>
    if a = b && !barred.contains a then commonRun barred left right + 1 else 0
  | _, _ => 0

/-- A block of equal characters: where it starts in either text, and its length. -/
structure Block where
  left : Nat
  right : Nat
  size : Nat

/-- The places of a text, the first of them `place`, with what starts there. -/
def places (place : Nat) : List Char → List (Nat × List Char)
  | [] => []
  | c :: rest => (place, c :: rest) :: places (place + 1) rest

/-- The longest common block without `barred` characters; of several the one that starts first in
`left`, then first in `right`. -/
def longestBlock (barred left right : List Char) : Block :=
  let rights := places 0 right
  (places 0 left).foldl (fun best start =>
    rights.foldl (fun best other =>
      let size := commonRun barred start.2 other.2
      if best.size < size then ⟨start.1, other.1, size⟩ else best) best) ⟨0, 0, 0⟩

/-- A block grows over equal neighbours, barred ones too. -/
def Block.widen (block : Block) (left right : List Char) : Block :=
  let before := commonRun [] (left.take block.left).reverse (right.take block.right).reverse
  let after := commonRun [] (left.drop (block.left + block.size))
    (right.drop (block.right + block.size))
  ⟨block.left - before, block.right - before, before + block.size + after⟩

/-- Number of characters in matching blocks, with at most `depth` levels of division. -/
def matchedWithin (barred : List Char) : Nat → List Char → List Char → Nat
  | 0, _, _ => 0
  | depth + 1, left, right =>
    let block := (longestBlock barred left right).widen left right
    if block.size = 0 then 0
    else
      matchedWithin barred depth (left.take block.left) (right.take block.right) + block.size +
        matchedWithin barred depth (left.drop (block.left + block.size))
          (right.drop (block.right + block.size))

/-- In a long key the characters that are more than one in a hundred start no block. -/
def crowded (key : List Char) : List Char :=
  if key.length < 200 then []
  else key.eraseDups.filter fun c => key.length / 100 + 1 < key.count c

def matched (candidate key : List Char) : Nat :=
  matchedWithin (crowded key) (candidate.length + key.length) candidate key

/-- Twice the matched characters, over all characters of both texts. -/
structure Score where
  shared : Nat
  total : Nat

def score (candidate key : List Char) : Score :=
  ⟨2 * matched candidate key, candidate.length + key.length⟩

def Score.close (s : Score) : Bool := 3 * s.total ≤ 5 * s.shared

def Score.le (s t : Score) : Bool := s.shared * t.total ≤ t.shared * s.total

/-- The better candidate comes first, of equal ones the greater text. -/
def ranksBefore (key : String) (a b : String) : Bool :=
  let s := score a.toList key.toList
  let t := score b.toList key.toList
  if s.le t && t.le s then decide (b ≤ a) else t.le s

/-- The three best of the candidates that are close to the key. -/
def closeMatches (key : String) (candidates : List String) : List String :=
  ((candidates.filter fun candidate => (score candidate.toList key.toList).close).mergeSort
    (ranksBefore key)).take 3

theorem length_closeMatches_le (key : String) (candidates : List String) :
    (closeMatches key candidates).length ≤ 3 := by
  simp only [closeMatches, List.length_take]
  omega

theorem mem_of_mem_closeMatches {key name : String} {candidates : List String}
    (member : name ∈ closeMatches key candidates) : name ∈ candidates := by
  have sorted := List.mem_of_mem_take member
  exact (List.mem_filter.1 (List.mem_mergeSort.1 sorted)).1

theorem nodup_closeMatches {key : String} {candidates : List String}
    (distinct : candidates.Nodup) : (closeMatches key candidates).Nodup := by
  have close := distinct.filter fun candidate => (score candidate.toList key.toList).close
  have sorted := (List.mergeSort_perm _ (ranksBefore key)).nodup_iff.2 close
  exact sorted.sublist (List.take_sublist 3 _)

end SqlRoutes.Text
