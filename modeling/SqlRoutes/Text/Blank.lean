namespace SqlRoutes.Text

/-- White space of the character standard together with the four separator controls. -/
def isBlank (c : Char) : Bool :=
  let n := c.toNat
  (0x09 ≤ n && n ≤ 0x0d) || (0x1c ≤ n && n ≤ 0x20) || n == 0x85 || n == 0xa0 || n == 0x1680 ||
  (0x2000 ≤ n && n ≤ 0x200a) || n == 0x2028 || n == 0x2029 || n == 0x202f || n == 0x205f ||
  n == 0x3000

/-- White space around numbers: that of the standard alone. -/
def isMargin (c : Char) : Bool := isBlank c && !(0x1c ≤ c.toNat && c.toNat ≤ 0x1f)

def stripLeft (text : List Char) : List Char := text.dropWhile isBlank

def stripRight (text : List Char) : List Char := (text.reverse.dropWhile isBlank).reverse

def strip (text : List Char) : List Char := stripRight (stripLeft text)

def words (text : List Char) : List (List Char) := collect [] text
where
  collect (word : List Char) : List Char → List (List Char)
    | [] => if word.isEmpty then [] else [word.reverse]
    | c :: rest =>
      if isBlank c then
        if word.isEmpty then collect [] rest else word.reverse :: collect [] rest
      else collect (c :: word) rest

/-- The text before the first `mark` and the text after it, if it occurs. -/
def cut? (mark : Char) : List Char → Option (List Char × List Char)
  | [] => none
  | c :: rest =>
    if c = mark then some ([], rest)
    else (cut? mark rest).map fun parts => (c :: parts.1, parts.2)

theorem eq_append_of_cut? {mark : Char} {text before after : List Char}
    (found : cut? mark text = some (before, after)) :
    text = before ++ mark :: after ∧ mark ∉ before := by
  induction text generalizing before after with
  | nil => simp [cut?] at found
  | cons c rest ih =>
    simp only [cut?] at found
    split at found
    · next same =>
      obtain ⟨rfl, rfl⟩ := by simpa using found
      simp [same]
    · next other =>
      obtain ⟨⟨left, right⟩, inner, equal⟩ := Option.map_eq_some_iff.1 found
      obtain ⟨rfl, rfl⟩ := by simpa using equal
      obtain ⟨rfl, absent⟩ := ih inner
      exact ⟨rfl, by simp [absent, Ne.symm other]⟩

end SqlRoutes.Text
