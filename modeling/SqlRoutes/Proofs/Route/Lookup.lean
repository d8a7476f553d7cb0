import Mathlib.Data.List.Basic
import SqlRoutes.Files.Tree
import SqlRoutes.Proofs.Files.Path
import SqlRoutes.Proofs.Route.Failures

/-!
Which file is loaded for a path. A base name stands for the one file that it becomes with a suffix,
and is loaded like that file; the suffix tells the format. Without such a file, or with several,
nothing is read.
-/
namespace SqlRoutes.Route

open Log

def present (files : Files) (base : Path) : List Path := (lookedUp base).filter files.isFile

section Suffixes

variable {base file : Path} {s : String}

theorem exists_tail (known : s ∈ suffixes) : ∃ tail : List Char, s = .ofList ('.' :: tail) ∧
    tail ≠ [] ∧ '.' ∉ tail ∧ '/' ∉ tail := by
  simp only [suffixes, List.mem_cons, List.not_mem_nil, or_false] at known
  rcases known with rfl | rfl | rfl
  · exact ⟨['c', 'o', 'n', 'f'], by decide⟩
  · exact ⟨['y', 'a', 'm', 'l'], by decide⟩
  · exact ⟨['y', 'm', 'l'], by decide⟩

theorem suffix_of_extend? (regular : base.Regular) (known : s ∈ suffixes)
    (grown : base.extend? s = some file) : file.suffix = s := by
  obtain ⟨tail, rfl, filled, dotless, -⟩ := exists_tail known
  exact Path.suffix_extend? regular filled dotless grown

theorem ofString_of_extend? (regular : base.Regular) (known : s ∈ suffixes)
    (grown : base.extend? s = some file) : Path.ofString file.text = file := by
  obtain ⟨tail, rfl, -, -, noSlash⟩ := exists_tail known
  exact Path.ofString_text (regular.extend? noSlash grown)

theorem candidates_eq_lookedUp (named : base.names ≠ []) (bare : base.suffix ∉ suffixes) :
    candidates? base = some (lookedUp base) := by
  cases found : candidates? base with
  | some tried => rw [lookedUp_of_candidates (by simpa using bare) found]
  | none => exact absurd (names_of_candidates? found) named

end Suffixes

section Locating

variable {files : Files} {base path file : Path} {paths : List Path}

/-- The paths are looked up in their order, so that the first error is the one that counts. -/
theorem existing_of_obstacle {e : SystemError} {before after : List Path}
    (earlier : ∀ path ∈ before, files.obstacle? path = none)
    (fails : files.obstacle? path = some e) :
    existing files (before ++ path :: after) = .error (.unreachable path e) := by
  have first : (before ++ path :: after).findSome? (obstacle? files) =
      some (.unreachable path e) := by
    refine List.findSome?_eq_some_iff.2 ⟨before, path, after, rfl, ?_, ?_⟩
    · rw [obstacle?, fails]
      rfl
    · intro other member
      rw [obstacle?, earlier other member]
      rfl
  rw [existing, first]

theorem existing_of_first {e : SystemError} (fails : files.obstacle? path = some e) :
    existing files (path :: paths) = .error (.unreachable path e) :=
  existing_of_obstacle (List.forall_mem_nil _) fails

theorem existing_of_reached (reached : ∀ path ∈ paths, files.obstacle? path = none) :
    existing files paths = .ok (paths.filter files.isFile) := by
  have none : paths.findSome? (obstacle? files) = none := by
    refine List.findSome?_eq_none_iff.2 fun path member => ?_
    rw [obstacle?, reached path member]
    rfl
  rw [existing, none]

theorem reached_of_isFile (found : files.isFile path = true) : files.obstacle? path = none := by
  unfold Files.isFile at found
  unfold Files.obstacle?
  split at found
  · next stands => rw [stands]
  · cases found

theorem locate_eq_existing (named : base.names ≠ []) (bare : base.suffix ∉ suffixes) :
    locate files base =
      match existing files (lookedUp base) with
      | .error e => .error e
      | .ok [] => .error (.fileNotFound base.text (some ((lookedUp base).map Path.text)))
      | .ok [path] => .ok path
      | .ok several =>
        .error (.defect base.text ⟨.severalFiles (several.map Path.text), none⟩) := by
  have unknown : ¬suffixes.contains base.suffix = true := by simpa using bare
  rw [locate, if_neg unknown, candidates_eq_lookedUp named bare]
  dsimp only
  cases existing files (lookedUp base) with
  | error e => rfl
  | ok found => rcases found with _ | ⟨first, _ | ⟨second, others⟩⟩ <;> rfl

theorem locate_of_obstacle {e : SystemError} {before after : List Path}
    (named : base.names ≠ []) (bare : base.suffix ∉ suffixes)
    (row : lookedUp base = before ++ file :: after)
    (earlier : ∀ path ∈ before, files.obstacle? path = none)
    (fails : files.obstacle? file = some e) :
    locate files base = .error (.unreachable file e) := by
  rw [locate_eq_existing named bare, row, existing_of_obstacle earlier fails]

theorem locate_eq_present (named : base.names ≠ []) (bare : base.suffix ∉ suffixes)
    (reached : ∀ path ∈ lookedUp base, files.obstacle? path = none) :
    locate files base =
      match present files base with
      | [] => .error (.fileNotFound base.text (some ((lookedUp base).map Path.text)))
      | [path] => .ok path
      | several => .error (.defect base.text ⟨.severalFiles (several.map Path.text), none⟩) := by
  rw [locate_eq_existing named bare, existing_of_reached reached, present]
  rcases (lookedUp base).filter files.isFile with _ | ⟨first, _ | ⟨second, others⟩⟩ <;> rfl

theorem locate_eq_self (known : base.suffix ∈ suffixes) : locate files base =
    match files.obstacle? base with
    | some e => .error (.unreachable base e)
    | none => if files.isFile base then .ok base else .error (.fileNotFound base.text none) := by
  have listed : suffixes.contains base.suffix = true := by simpa using known
  rw [locate, if_pos listed]
  cases looked : files.obstacle? base with
  | some e =>
    rw [existing_of_first looked]
    rfl
  | none =>
    rw [existing_of_reached (by simp [looked])]
    cases found : files.isFile base with
    | true =>
      rw [List.filter_cons_of_pos found]
      rfl
    | false =>
      rw [List.filter_cons_of_neg (by simp [found])]
      rfl

theorem locate_of_file (known : file.suffix ∈ suffixes) (found : files.isFile file = true) :
    locate files file = .ok file := by
  rw [locate_eq_self known, reached_of_isFile found]
  exact if_pos found

end Locating

section Loading

variable {files : Files} {strict : Bool} {encoding base : String}

theorem load_of_error {e : LoadError} (failed : locate files (Path.ofString base) = .error e) :
    load files strict encoding base = ⟨[], .error e⟩ := by
  rw [load, failed]
  rfl

theorem load_of_located {file : Path} (located : locate files (Path.ofString base) = .ok file) :
    load files strict encoding base = loadFile files strict encoding file := by
  rw [load, located]
  rfl

theorem loadFile_eq_of_same {others : Files} {file : Path} (same : others file = files file) :
    loadFile others strict encoding file = loadFile files strict encoding file := by
  have reading : others.reading file = files.reading file := by
    rw [Files.reading, Files.reading, same]
  have text : readText others file encoding = readText files file encoding := by
    rw [readText, readText, reading]
  rw [loadFile, loadFile, text]

theorem load_eq_of_same {others : Files} (known : (Path.ofString base).suffix ∈ suffixes)
    (same : others (Path.ofString base) = files (Path.ofString base)) :
    load others strict encoding base = load files strict encoding base := by
  have isFile : others.isFile (Path.ofString base) = files.isFile (Path.ofString base) := by
    rw [Files.isFile, Files.isFile, same]
  have obstacle : others.obstacle? (Path.ofString base) = files.obstacle? (Path.ofString base) := by
    rw [Files.obstacle?, Files.obstacle?, same]
  have located : locate others (Path.ofString base) = locate files (Path.ofString base) := by
    rw [locate_eq_self known, locate_eq_self known, isFile, obstacle]
  cases found : locate files (Path.ofString base) with
  | error e => rw [load_of_error (located.trans found), load_of_error found]
  | ok file =>
    have own : file = Path.ofString base := by
      have tried := (locate_eq_ok found).1
      rw [lookedUp_of_suffix (by simpa using known)] at tried
      exact List.mem_singleton.1 tried
    rw [load_of_located (located.trans found), load_of_located found]
    exact loadFile_eq_of_same (own ▸ same)

theorem load_of_only {file : Path} {s : String} (named : (Path.ofString base).names ≠ [])
    (bare : (Path.ofString base).suffix ∉ suffixes)
    (reached : ∀ path ∈ lookedUp (Path.ofString base), files.obstacle? path = none)
    (known : s ∈ suffixes) (grown : (Path.ofString base).extend? s = some file)
    (only : present files (Path.ofString base) = [file]) :
    load files strict encoding base = load files strict encoding file.text ∧
      load files strict encoding base = (do
        let text ← .ofExcept (readText files file encoding)
        .log (loadRecord file)
        if s = ".conf" then Conf.parse file.text strict text
        else parseYaml file.text strict text) := by
  have regular : (Path.ofString base).Regular := Path.regular_ofString base
  have suffix : file.suffix = s := suffix_of_extend? regular known grown
  have isFile : files.isFile file = true := by
    have member : file ∈ present files (Path.ofString base) := by simp [only]
    exact (List.mem_filter.1 member).2
  have located : locate files (Path.ofString base) = .ok file := by
    rw [locate_eq_present named bare reached, only]
  have own : locate files (Path.ofString file.text) = .ok file := by
    rw [ofString_of_extend? regular known grown]
    exact locate_of_file (suffix ▸ known) isFile
  rw [load_of_located located, load_of_located own, loadFile, suffix]
  exact ⟨rfl, rfl⟩

end Loading

/-- The first candidate of a base name without a suffix that cannot be looked up is what the load
fails with. If there is none, the name is not found if no candidate is a file, and refused, whether
or not they can be read, if several are; if one is, it is loaded just as that file is by its own
path, in the line format if the suffix is that of lines and else as a document. For a path with a
suffix only what stands at that path counts. -/
theorem load_base (files : Files) (strict : Bool) (encoding base : String) :
    let path := Path.ofString base
    let loaded := load files strict encoding base
    (path.names ≠ [] → path.suffix ∉ suffixes →
      (∀ before file after e, lookedUp path = before ++ file :: after →
        (∀ earlier ∈ before, files.obstacle? earlier = none) →
        files.obstacle? file = some e → loaded = ⟨[], .error (.unreachable file e)⟩) ∧
      ((∀ file ∈ lookedUp path, files.obstacle? file = none) →
        (present files path = [] → loaded =
          ⟨[], .error (.fileNotFound path.text (some ((lookedUp path).map Path.text)))⟩) ∧
        (1 < (present files path).length → loaded = ⟨[], .error
          (.defect path.text ⟨.severalFiles ((present files path).map Path.text), none⟩)⟩) ∧
        ∀ s ∈ suffixes, ∀ file, path.extend? s = some file → present files path = [file] →
          loaded = load files strict encoding file.text ∧
          loaded = do
            let text ← .ofExcept (readText files file encoding)
            .log (loadRecord file)
            if s = ".conf" then Conf.parse file.text strict text
            else parseYaml file.text strict text)) ∧
    (path.suffix ∈ suffixes → ∀ others : Files, others path = files path →
      load others strict encoding base = loaded) := by
  intro path loaded
  refine ⟨?_, fun known others same => load_eq_of_same known same⟩
  intro named bare
  constructor
  · intro before file after e row earlier fails
    exact load_of_error (locate_of_obstacle named bare row earlier fails)
  · intro reached
    have located := locate_eq_present named bare reached
    refine ⟨?_, ?_, fun s known file grown only =>
      load_of_only named bare reached known grown only⟩
    · intro none
      rw [none] at located
      exact load_of_error located
    · intro many
      rcases found : present files path with _ | ⟨first, _ | ⟨second, others⟩⟩
      · simp [found] at many
      · simp [found] at many
      · rw [found] at located
        exact load_of_error located

theorem load_base_dotted :
    let files := (FileTree.ofList [("b/app..conf", [0x71, 0x6c])] []).lookUp
    load files false "utf-8" "b//app." = load files false "utf-8" "b/app..conf" ∧
      (load files false "utf-8" "b//app.").outcome =
        .ok ⟨"ql", "", ⟨"ql", .given ⟨.numbered, '$'⟩, false⟩, []⟩ := by
  intro files
  obtain ⟨bases, -⟩ := load_base files false "utf-8" "b//app."
  obtain ⟨-, reached⟩ := bases (by decide +kernel) (by decide +kernel)
  obtain ⟨-, -, only⟩ := reached (by decide +kernel)
  obtain ⟨same, -⟩ := only ".conf" (.head _) ⟨"", ["b", "app..conf"]⟩ (by decide +kernel)
    (by decide +kernel)
  exact ⟨same, by decide +kernel⟩

-- That a file cannot be read does not make it the only one.
example :
    let files : Files := fun path =>
      if path.names = ["a.yml"] then .ok (.file true (.content []))
      else .ok (.file false (.unopened .forbidden))
    (load files false "utf-8" "a").outcome = .error
      (.defect "a" ⟨.severalFiles ["a.conf", "a.yaml", "a.yml"], none⟩) := by
  decide +kernel

section LongNames

variable (tree : FileTree) {name : String}

theorem lookUp_of_long_name (long : FileTree.nameLimit < name.utf8ByteSize) :
    tree.lookUp ⟨"", [name]⟩ = .error .overlong := by
  have cut : [name].takeWhile (·.utf8ByteSize ≤ FileTree.nameLimit) = [] := by
    rw [List.takeWhile_cons_of_neg]
    simpa using long
  have isLong : tree.isOverlong ⟨"", [name]⟩ = true := by
    simp [FileTree.isOverlong, cut, FileTree.follow, FileTree.isDirectory]
  rw [FileTree.lookUp, if_pos isLong]
  rfl

theorem text_of_single (filled : name ≠ "") : (Path.mk "" [name]).text = name := by
  simp [Path.text, filled]

theorem ofString_of_isName (isName : Path.IsName name.toList) :
    Path.ofString name = ⟨"", [name]⟩ := by
  have filled : name ≠ "" := by
    rintro rfl
    exact isName.1 rfl
  have regular : (Path.mk "" [name]).Regular :=
    ⟨List.mem_cons_self, List.forall_mem_singleton.2 isName⟩
  rw [← Path.ofString_text regular, text_of_single filled]

theorem lookUp_of_long_candidate {s : String} (known : s ∈ suffixes)
    (long : FileTree.nameLimit < name.utf8ByteSize + 4) :
    tree.lookUp ⟨"", [name ++ s]⟩ = .error .overlong := by
  have size : 4 ≤ s.utf8ByteSize := by
    revert s
    decide
  refine lookUp_of_long_name tree ?_
  rw [String.utf8ByteSize_append]
  omega

theorem suffix_of_single (dotless : '.' ∉ name.toList) : (Path.mk "" [name]).suffix = "" := by
  rw [Path.suffix, Path.name, List.getLast?_singleton, Option.getD_some,
    Path.suffixOf_of_not_mem dotless]

theorem load_of_long_name (isName : Path.IsName name.toList) (dotless : '.' ∉ name.toList)
    (long : FileTree.nameLimit < name.utf8ByteSize + 4) (strict : Bool) (encoding : String) :
    (Path.ofString name).names ≠ [] ∧ (Path.ofString name).suffix ∉ suffixes ∧
      present tree.lookUp (Path.ofString name) = [] ∧
      load tree.lookUp strict encoding name =
        ⟨[], .error (.unreachable ⟨"", [name ++ ".conf"]⟩ .overlong)⟩ := by
  have path : Path.ofString name = ⟨"", [name]⟩ := ofString_of_isName isName
  have bare : (Path.mk "" [name]).suffix ∉ suffixes := by
    rw [suffix_of_single dotless]
    decide
  have looked : lookedUp ⟨"", [name]⟩ = suffixes.map fun s => ⟨"", [name ++ s]⟩ :=
    lookedUp_of_candidates (by simpa using bare) rfl
  have lost : ∀ file ∈ lookedUp ⟨"", [name]⟩, Files.isFile tree.lookUp file = false := by
    rw [looked]
    refine List.forall_mem_map.2 fun s known => ?_
    rw [Files.isFile, lookUp_of_long_candidate tree known long]
  have fails : Files.obstacle? tree.lookUp ⟨"", [name ++ ".conf"]⟩ = some .overlong := by
    rw [Files.obstacle?, lookUp_of_long_candidate tree (.head _) long]
    rfl
  rw [path]
  refine ⟨List.cons_ne_nil _ _, bare, ?_, ?_⟩
  · exact List.filter_eq_nil_iff.2 fun file member => by simp [lost file member]
  -- The candidates are tried in order, so the first suffix is in the message.
  · have row : lookedUp ⟨"", [name]⟩ = [] ++ ⟨"", [name ++ ".conf"]⟩ ::
        [".yaml", ".yml"].map fun s => ⟨"", [name ++ s]⟩ := looked
    refine load_of_error ?_
    rw [path]
    exact locate_of_obstacle (List.cons_ne_nil _ _) bare row (List.forall_mem_nil _) fails

end LongNames

/-- With a base name that becomes too long no file is found, and no failure of the library's own is
reported. -/
theorem long_base_escapes :
    let files := (FileTree.ofList [] []).lookUp
    let base := String.ofList (List.replicate 252 'a')
    (Path.ofString base).names ≠ [] ∧ (Path.ofString base).suffix ∉ suffixes ∧
      present files (Path.ofString base) = [] ∧
      (load files false "utf-8" base).outcome =
        .error (.unreachable ⟨"", [base ++ ".conf"]⟩ .overlong) ∧
      (LoadError.unreachable ⟨"", [base ++ ".conf"]⟩ .overlong).failure? = none := by
  intro files base
  have letters : base.toList = List.replicate 252 'a' := String.toList_ofList
  have others : ∀ c, c ≠ 'a' → c ∉ base.toList := by
    intro c other member
    rw [letters] at member
    exact other (List.eq_of_mem_replicate member)
  have isName : Path.IsName base.toList := by
    refine ⟨?_, ?_, others '/' (by decide)⟩
    · rw [letters]
      exact List.cons_ne_nil _ _
    · intro same
      exact others '.' (by decide) (same ▸ List.mem_cons_self)
  have size : base.utf8ByteSize = 252 := by decide +kernel
  have long : FileTree.nameLimit < base.utf8ByteSize + 4 := by
    rw [size]
    decide
  obtain ⟨named, bare, none, fails⟩ :=
    load_of_long_name (FileTree.ofList [] []) isName (others '.' (by decide)) long false "utf-8"
  refine ⟨named, bare, none, ?_, rfl⟩
  rw [fails]

end SqlRoutes.Route
