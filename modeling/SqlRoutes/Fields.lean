namespace SqlRoutes.Fields

variable {α : Type}

def insert (entries : List (String × α)) (name : String) (value : α) : List (String × α) :=
  match entries with
  | [] => [(name, value)]
  | entry :: rest =>
    if entry.1 = name then (name, value) :: rest else entry :: insert rest name value

def update (entries more : List (String × α)) : List (String × α) :=
  more.foldl (fun entries entry => insert entries entry.1 entry.2) entries

def ofList (entries : List (String × α)) : List (String × α) := update [] entries

theorem lookup_insert_self (entries : List (String × α)) (name : String) (value : α) :
    (insert entries name value).lookup name = some value := by
  induction entries with
  | nil => simp [insert]
  | cons entry rest ih =>
    obtain ⟨key, old⟩ := entry
    simp only [insert]
    split
    · simp
    · next other => simp [List.lookup_cons, beq_false_of_ne (Ne.symm other), ih]

theorem lookup_insert_of_ne {entries : List (String × α)} {name other : String} {value : α}
    (differs : other ≠ name) : (insert entries name value).lookup other = entries.lookup other := by
  induction entries with
  | nil => simp [insert, List.lookup_cons, beq_false_of_ne differs]
  | cons entry rest ih =>
    obtain ⟨key, old⟩ := entry
    simp only [insert]
    split
    · next same =>
      have keyDiffers : other ≠ key := fun equal => differs (equal.trans same)
      simp [List.lookup_cons, beq_false_of_ne differs, beq_false_of_ne keyDiffers]
    · simp only [List.lookup_cons, ih]

end SqlRoutes.Fields
