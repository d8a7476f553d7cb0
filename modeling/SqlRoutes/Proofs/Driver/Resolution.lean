import Mathlib.Data.List.Nodup
import SqlRoutes.Driver.Table

namespace SqlRoutes

namespace Driver

def Known (overrides : Overrides) (driver : String) : Prop :=
  (∃ entry ∈ overrides, normalize entry.1 = normalize driver) ∨
    ∃ entry ∈ table, entry.1 = normalize driver

/-- The convention of the driver: that of the first override with its name, or else the one in the
table. -/
inductive Assigned (overrides : Overrides) (driver : String) : Convention → Prop where
  | override {before after : Overrides} {name : String} {convention : Convention}
      (listed : overrides = before ++ (name, convention) :: after)
      (named : normalize name = normalize driver)
      (first : ∀ entry ∈ before, normalize entry.1 ≠ normalize driver) :
      Assigned overrides driver convention
  | table {p : Placeholder} (listed : (normalize driver, p) ∈ table)
      (free : ∀ entry ∈ overrides, normalize entry.1 ≠ normalize driver) :
      Assigned overrides driver (.given p)

/-- Names to suggest for a driver that is not known. -/
structure Suggested (overrides : Overrides) (driver : String) (names : List String) : Prop where
  few : names.length ≤ 3
  distinct : names.Nodup
  known : ∀ name ∈ names, (∃ entry ∈ overrides, normalize entry.1 = name) ∨
    ∃ entry ∈ table, entry.1 = name
  other : normalize driver ∉ names

theorem nodup_eraseDups (names : List String) : names.eraseDups.Nodup := by
  cases names with
  | nil => exact List.nodup_nil
  | cons name names =>
    rw [List.eraseDups_cons, List.nodup_cons]
    refine ⟨?_, nodup_eraseDups _⟩
    simp
termination_by names.length
decreasing_by exact Nat.lt_succ_of_le (List.length_filter_le _ names)

section Lookup

variable {overrides : Overrides} {driver : String} {convention : Convention}

theorem nodup_table : (table.map (·.1)).Nodup := by decide

theorem lookup_table_iff {p : Placeholder} :
    table.lookup (normalize driver) = some p ↔ (normalize driver, p) ∈ table := by
  constructor
  · intro found
    obtain ⟨before, after, listed, -⟩ := List.lookup_eq_some_iff.1 found
    rw [listed]
    exact List.mem_append_right _ (.head _)
  · intro listed
    cases found : table.lookup (normalize driver) with
    | none =>
      have different := List.lookup_eq_none_iff.1 found _ listed
      simp at different
    | some q =>
      obtain ⟨before, after, split, -⟩ := List.lookup_eq_some_iff.1 found
      have other : (normalize driver, q) ∈ table := by
        rw [split]
        exact List.mem_append_right _ (.head _)
      have same := List.inj_on_of_nodup_map nodup_table other listed rfl
      rw [(Prod.mk.inj same).2]

theorem find?_override_iff {name : String} :
    (overrides.find? fun entry => normalize entry.1 = normalize driver) =
        some (name, convention) ↔
      normalize name = normalize driver ∧ ∃ before after,
        overrides = before ++ (name, convention) :: after ∧
          ∀ entry ∈ before, normalize entry.1 ≠ normalize driver := by
  simp [List.find?_eq_some_iff_append]

theorem known?_eq_some_iff : known? overrides driver = some convention ↔
    Assigned overrides driver convention := by
  unfold known?
  dsimp only
  cases found : overrides.find? fun entry => normalize entry.1 = normalize driver with
  | some entry =>
    obtain ⟨name, own⟩ := entry
    obtain ⟨named, before, after, listed, first⟩ := find?_override_iff.1 found
    constructor
    · intro same
      obtain rfl := Option.some.inj same
      exact .override listed named first
    · intro assigned
      cases assigned with
      | override listed' named' first' =>
        have same := find?_override_iff.2 ⟨named', _, _, listed', first'⟩
        rw [found] at same
        obtain ⟨-, rfl⟩ := Prod.mk.inj (Option.some.inj same)
        rfl
      | table listed' free =>
        have member : (name, own) ∈ overrides := by
          rw [listed]
          exact List.mem_append_right _ (.head _)
        exact (free (name, own) member named).elim
  | none =>
    have free : ∀ entry ∈ overrides, normalize entry.1 ≠ normalize driver := by
      simpa using List.find?_eq_none.1 found
    constructor
    · intro same
      obtain ⟨p, listed, rfl⟩ := Option.map_eq_some_iff.1 same
      exact .table (lookup_table_iff.1 listed) free
    · intro assigned
      cases assigned with
      | override listed named _ =>
        have member : _ ∈ overrides := listed ▸ List.mem_append_right _ (.head _)
        exact (free _ member named).elim
      | table listed _ => exact congrArg (Option.map Convention.given) (lookup_table_iff.2 listed)

theorem known?_eq_none_iff : known? overrides driver = none ↔ ¬Known overrides driver := by
  unfold known? Known
  dsimp only
  cases found : overrides.find? fun entry => normalize entry.1 = normalize driver with
  | some entry =>
    have named : normalize entry.1 = normalize driver := by simpa using List.find?_some found
    have member := List.mem_of_find?_eq_some found
    exact iff_of_false (by simp) fun unknown => unknown (.inl ⟨entry, member, named⟩)
  | none =>
    have free : ¬∃ entry ∈ overrides, normalize entry.1 = normalize driver := by
      simpa using List.find?_eq_none.1 found
    rw [or_iff_right free, Option.map_eq_none_iff, List.lookup_eq_none_iff]
    simp only [bne_iff_ne, not_exists, not_and, ne_comm]

theorem known_iff_assigned : Known overrides driver ↔
    ∃ convention, Assigned overrides driver convention := by
  rw [← not_iff_not, ← known?_eq_none_iff]
  simp [← known?_eq_some_iff, Option.eq_none_iff_forall_ne_some]

end Lookup

section Suggestions

variable (overrides : Overrides) (driver : String)

theorem mem_knownNames {name : String} : name ∈ knownNames overrides ↔
    (∃ entry ∈ overrides, normalize entry.1 = name) ∨ ∃ entry ∈ table, entry.1 = name := by
  rw [knownNames, List.mem_eraseDups, List.mem_append, List.mem_map, List.mem_map, or_comm]

theorem nodup_knownNames : (knownNames overrides).Nodup := nodup_eraseDups _

variable {overrides driver}

theorem suggested_suggestions (unknown : ¬Known overrides driver) :
    Suggested overrides driver (suggestions overrides driver) := by
  have known : ∀ name ∈ suggestions overrides driver, name ∈ knownNames overrides := by
    intro name member
    exact Text.mem_of_mem_closeMatches member
  constructor
  · exact Text.length_closeMatches_le _ _
  · exact Text.nodup_closeMatches (nodup_knownNames overrides)
  · intro name member
    exact (mem_knownNames overrides).1 (known name member)
  · intro member
    exact unknown ((mem_knownNames overrides).1 (known _ member))

end Suggestions

section Modes

variable {overrides : Overrides} {driver : String} {convention : Convention}

theorem resolve_of_assigned (assigned : Assigned overrides driver convention) (strict : Bool) :
    resolve overrides strict driver = ⟨[], .ok convention⟩ := by
  rw [resolve, known?_eq_some_iff.2 assigned]
  rfl

theorem resolve_strict_of_unknown (unknown : ¬Known overrides driver) :
    resolve overrides true driver = ⟨[], .error ⟨driver, suggestions overrides driver⟩⟩ := by
  rw [resolve, known?_eq_none_iff.2 unknown]
  rfl

theorem resolve_lenient_of_unknown (unknown : ¬Known overrides driver) :
    resolve overrides false driver =
      ⟨[warning driver (suggestions overrides driver)], .ok .fallback⟩ := by
  rw [resolve, known?_eq_none_iff.2 unknown]
  rfl

theorem strictDefault_iff {setting : Option String} : strictDefault setting = true ↔
    ∃ text ∈ setting, normalize text ∈ ["true", "1", "yes", "on", "enabled"] := by
  cases setting with
  | none => simp [strictDefault]
  | some text => simp [strictDefault]

theorem Assigned.unique {other : Convention} (one : Assigned overrides driver convention)
    (two : Assigned overrides driver other) : other = convention := by
  have same := (known?_eq_some_iff.2 two).symm.trans (known?_eq_some_iff.2 one)
  exact Option.some.inj same

end Modes

end Driver

theorem Binding.forDriver_eq (overrides : Overrides) (strict : Bool) (driver : String) :
    forDriver overrides strict driver =
      ⟨(Driver.resolve overrides strict driver).records,
        (Driver.resolve overrides strict driver).outcome.map fun convention =>
          ⟨driver, convention, strict⟩⟩ := by
  unfold forDriver
  generalize Driver.resolve overrides strict driver = resolved
  obtain ⟨records, outcome⟩ := resolved
  cases outcome with
  | error e => rfl
  | ok convention => exact congrArg (Log.Traced.mk · _) (List.append_nil records)

namespace Driver

/-- Strict and lenient resolution agree. A known driver resolves to the one convention assigned to it
whatever the mode, and leaves no record. Of any other one strict mode says, as it was given and with
the same suggestions, what the warning says that the fallback comes with. Without a choice the mode
is that of the environment. A binding keeps the driver as it was given, and the mode. -/
theorem modes_agree (overrides : Overrides) (driver : String) (setting : Option String) :
    (Known overrides driver → ∃ convention, Assigned overrides driver convention ∧
      (∀ other, Assigned overrides driver other → other = convention) ∧
      ∀ choice, resolve overrides (strictFrom choice setting) driver = ⟨[], .ok convention⟩) ∧
    (¬Known overrides driver → ∃ names, Suggested overrides driver names ∧
      ∀ choice, resolve overrides (strictFrom choice setting) driver =
        if strictFrom choice setting then ⟨[], .error ⟨driver, names⟩⟩
        else ⟨[warning driver names], .ok .fallback⟩) ∧
    (∀ strict, strictFrom (some strict) setting = strict) ∧
    strictFrom none setting = strictDefault setting ∧
    (strictDefault setting = true ↔
      ∃ text ∈ setting, normalize text ∈ ["true", "1", "yes", "on", "enabled"]) ∧
    ∀ choice, Binding.forDriver overrides (strictFrom choice setting) driver =
      ⟨(resolve overrides (strictFrom choice setting) driver).records,
        (resolve overrides (strictFrom choice setting) driver).outcome.map fun convention =>
          ⟨driver, convention, strictFrom choice setting⟩⟩ := by
  refine ⟨?_, ?_, fun _ => rfl, rfl, strictDefault_iff, ?_⟩
  · intro known
    obtain ⟨convention, assigned⟩ := known_iff_assigned.1 known
    refine ⟨convention, assigned, fun _ other => assigned.unique other, ?_⟩
    intro choice
    exact resolve_of_assigned assigned _
  · intro unknown
    refine ⟨suggestions overrides driver, suggested_suggestions unknown, ?_⟩
    intro choice
    cases strictFrom choice setting with
    | true => exact resolve_strict_of_unknown unknown
    | false => exact resolve_lenient_of_unknown unknown
  · intro choice
    exact Binding.forDriver_eq overrides _ driver

theorem modes_agree_spelled :
    let overrides : Overrides := [(" Oracle", .given ⟨.numbered, ':'⟩), ("ORACLE", .fallback)]
    (∀ choice, resolve overrides (strictFrom choice (some "On ")) "oracle " =
      ⟨[], .ok (.given ⟨.numbered, ':'⟩)⟩) ∧
    ∃ names, Suggested overrides "Postgress" names ∧
      resolve overrides (strictFrom none (some "On ")) "Postgress" =
        ⟨[], .error ⟨"Postgress", names⟩⟩ ∧
      resolve overrides (strictFrom (some false) (some "On ")) "Postgress" =
        ⟨[warning "Postgress" names], .ok .fallback⟩ := by
  intro overrides
  have same : normalize " Oracle" = normalize "oracle " := by decide +kernel
  have unknown : ¬Known overrides "Postgress" := known?_eq_none_iff.1 (by decide +kernel)
  have strictly : strictFrom none (some "On ") = true := by decide +kernel
  constructor
  · obtain ⟨known, -⟩ := modes_agree overrides "oracle " (some "On ")
    obtain ⟨convention, -, unique, resolved⟩ := known (.inl ⟨_, .head _, same⟩)
    have listed : overrides = [] ++ (" Oracle", .given ⟨.numbered, ':'⟩) :: [("ORACLE", .fallback)] :=
      rfl
    have first : ∀ entry ∈ ([] : Overrides), normalize entry.1 ≠ normalize "oracle " := by simp
    obtain rfl := unique _ (.override listed same first)
    exact resolved
  · obtain ⟨-, other, -⟩ := modes_agree overrides "Postgress" (some "On ")
    obtain ⟨names, suggested, resolved⟩ := other unknown
    refine ⟨names, suggested, ?_, resolved (some false)⟩
    rw [resolved none, if_pos strictly]

end Driver

namespace Binding

open Driver

section Fallbacks

variable {overrides : Overrides} {driver : String} {strict : Bool} {binding : Binding}

theorem isFallback_iff : binding.isFallback = true ↔
    (∀ entry ∈ table, entry.1 ≠ normalize binding.driver) ∧ binding.convention = .fallback := by
  simp [isFallback, List.lookup_eq_none_iff, ne_comm]

theorem of_forDriver (bound : (forDriver overrides strict driver).outcome = .ok binding) :
    binding.driver = driver ∧
      (Assigned overrides driver binding.convention ∨
        ¬Known overrides driver ∧ binding.convention = .fallback) := by
  rw [forDriver_eq] at bound
  by_cases known : Known overrides driver
  · obtain ⟨convention, assigned⟩ := known_iff_assigned.1 known
    rw [resolve_of_assigned assigned] at bound
    obtain rfl := Except.ok.inj bound
    exact ⟨rfl, .inl assigned⟩
  · cases strict with
    | true =>
      rw [resolve_strict_of_unknown known] at bound
      cases bound
    | false =>
      rw [resolve_lenient_of_unknown known] at bound
      obtain rfl := Except.ok.inj bound
      exact ⟨rfl, .inr ⟨known, rfl⟩⟩

end Fallbacks

/-- A binding counts as a fallback when its driver is not known, which is when the warning is logged,
and else just when an override assigns the common fallback to a driver outside the table. So without
such an override it tells whether the driver was known. -/
theorem bound_isFallback_iff (overrides : Overrides) (driver : String) (choice : Option Bool)
    (setting : Option String) (binding : Binding)
    (bound : (forDriver overrides (strictFrom choice setting) driver).outcome = .ok binding) :
    (binding.isFallback = true ↔ ¬Known overrides driver ∨
      Assigned overrides driver .fallback ∧ ∀ entry ∈ table, entry.1 ≠ normalize driver) ∧
    ((∀ entry ∈ overrides, entry.2 ≠ .fallback) →
      (binding.isFallback = true ↔ ¬Known overrides driver)) ∧
    (¬Known overrides driver ↔
      (forDriver overrides (strictFrom choice setting) driver).records =
        [warning driver (suggestions overrides driver)]) := by
  obtain ⟨same, origin⟩ := of_forDriver bound
  have flag : binding.isFallback = true ↔ ¬Known overrides driver ∨
      Assigned overrides driver .fallback ∧ ∀ entry ∈ table, entry.1 ≠ normalize driver := by
    rw [isFallback_iff, same]
    constructor
    · rintro ⟨absent, fallback⟩
      rw [fallback] at origin
      rcases origin with assigned | ⟨unknown, -⟩
      · exact .inr ⟨assigned, absent⟩
      · exact .inl unknown
    · intro either
      rcases origin with assigned | ⟨unknown, fallback⟩
      · have known := known_iff_assigned.2 ⟨_, assigned⟩
        obtain ⟨other, absent⟩ := either.resolve_left (not_not_intro known)
        exact ⟨absent, other.unique assigned⟩
      · exact ⟨fun entry listed named => unknown (.inr ⟨entry, listed, named⟩), fallback⟩
  refine ⟨flag, ?_, ?_⟩
  · intro none
    rw [flag, or_iff_left]
    rintro ⟨assigned, -⟩
    cases assigned with
    | override listed _ _ =>
      have member : _ ∈ overrides := listed ▸ List.mem_append_right _ (.head _)
      exact none _ member rfl
  · rw [forDriver_eq]
    by_cases known : Known overrides driver
    · obtain ⟨convention, assigned⟩ := known_iff_assigned.1 known
      rw [resolve_of_assigned assigned]
      exact iff_of_false (not_not_intro known) (by simp)
    · cases mode : strictFrom choice setting with
      | true =>
        rw [forDriver_eq, mode, resolve_strict_of_unknown known] at bound
        cases bound
      | false =>
        rw [resolve_lenient_of_unknown known]
        exact iff_of_true known rfl

theorem bound_isFallback_iff_duckdb :
    ∃ binding, (forDriver [] false "duckdb").outcome = .ok binding ∧ binding.isFallback = true ∧
      (forDriver [] false "duckdb").records = [warning "duckdb" []] := by
  have bound : (forDriver [] (strictFrom none none) "duckdb").outcome =
      .ok ⟨"duckdb", .fallback, false⟩ := by decide +kernel
  have unknown : ¬Known [] "duckdb" := known?_eq_none_iff.1 (by decide +kernel)
  have nothing : suggestions [] "duckdb" = [] := by decide +kernel
  obtain ⟨-, plain, warned⟩ := bound_isFallback_iff [] "duckdb" none none _ bound
  refine ⟨_, bound, (plain (by simp)).2 unknown, ?_⟩
  rw [← nothing]
  exact warned.1 unknown

/-- A driver that an override assigns the common fallback to is known, and no warning is logged, but
its binding counts as a fallback. -/
theorem assigned_fallback_isFallback :
    let overrides : Overrides := [("duckdb", .fallback)]
    Known overrides "duckdb" ∧ (forDriver overrides false "duckdb").records = [] ∧
      (forDriver overrides false "duckdb").outcome.map isFallback = .ok true := by
  intro overrides
  have assigned : Assigned overrides "duckdb" .fallback :=
    known?_eq_some_iff.1 (by decide +kernel)
  refine ⟨known_iff_assigned.2 ⟨_, assigned⟩, ?_, by decide +kernel⟩
  rw [forDriver_eq, resolve_of_assigned assigned]

end Binding

end SqlRoutes
