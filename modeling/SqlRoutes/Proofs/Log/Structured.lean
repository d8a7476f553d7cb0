import Mathlib.Tactic.FinCases
import SqlRoutes.Fields
import SqlRoutes.Log.Setup
import SqlRoutes.Proofs.Json.Written

/-!
What the structured line of a record holds. The fields that come with a record take the places of
its own fields if they have their names; the error it is about comes last and is never overwritten.
-/
namespace SqlRoutes

namespace Fields

variable {α : Type} {entries more : List (String × α)} {name : String} {value : α}

theorem lookup_of_not_mem (absent : name ∉ entries.map (·.1)) : entries.lookup name = none := by
  rw [List.lookup_eq_none_iff]
  intro entry member
  have known : entry.1 ∈ entries.map (·.1) := List.mem_map_of_mem member
  apply bne_iff_ne.2
  intro same
  exact absent (same ▸ known)

theorem map_fst_insert : (insert entries name value).map (·.1) =
    if name ∈ entries.map (·.1) then entries.map (·.1) else entries.map (·.1) ++ [name] := by
  induction entries with
  | nil => rfl
  | cons entry entries ih =>
    rw [insert]
    split
    · next same => simp [same]
    · next other =>
      rw [List.map_cons, ih, List.map_cons]
      by_cases known : name ∈ entries.map (·.1)
      · simp [known]
      · simp [known, Ne.symm other]

theorem nodup_insert (distinct : (entries.map (·.1)).Nodup) :
    ((insert entries name value).map (·.1)).Nodup := by
  rw [map_fst_insert]
  split
  · exact distinct
  · next fresh =>
    rw [← List.concat_eq_append]
    exact distinct.concat fresh

theorem nodup_update (distinct : (entries.map (·.1)).Nodup) :
    ((update entries more).map (·.1)).Nodup := by
  induction more generalizing entries with
  | nil => exact distinct
  | cons entry more ih => exact ih (nodup_insert distinct)

theorem lookup_update (entries : List (String × α)) (distinct : (more.map (·.1)).Nodup)
    (name : String) :
    (update entries more).lookup name = (more.lookup name).or (entries.lookup name) := by
  induction more generalizing entries with
  | nil => rfl
  | cons entry more ih =>
    obtain ⟨key, new⟩ := entry
    obtain ⟨fresh, others⟩ := List.nodup_cons.1 distinct
    have step : update entries ((key, new) :: more) = update (insert entries key new) more := rfl
    rw [step, ih _ others]
    by_cases same : name = key
    · -- A name comes only once, so the value from here is the last one.
      have absent : more.lookup key = none := lookup_of_not_mem fresh
      rw [same, absent, lookup_insert_self]
      simp
    · rw [lookup_insert_of_ne same, List.lookup_cons, beq_false_of_ne same]

theorem forall_mem_insert {P : α → Prop} (each : ∀ entry ∈ entries, P entry.2) (added : P value) :
    ∀ entry ∈ insert entries name value, P entry.2 := by
  induction entries with
  | nil => simpa [insert] using added
  | cons entry entries ih =>
    obtain ⟨first, others⟩ := List.forall_mem_cons.1 each
    rw [insert]
    split
    · exact List.forall_mem_cons.2 ⟨added, others⟩
    · exact List.forall_mem_cons.2 ⟨first, ih others⟩

theorem forall_mem_update {P : α → Prop} (each : ∀ entry ∈ entries, P entry.2)
    (added : ∀ entry ∈ more, P entry.2) : ∀ entry ∈ update entries more, P entry.2 := by
  induction more generalizing entries with
  | nil => exact each
  | cons entry more ih =>
    obtain ⟨first, others⟩ := List.forall_mem_cons.1 added
    exact ih (forall_mem_insert each first) others

end Fields

namespace Json

theorem insertEntry_eq_insert (done : List (String × Value)) (name : String) (v : Value) :
    Value.insertEntry (keyed done) (.text name) v = keyed (Fields.insert done name v) := by
  induction done with
  | nil => rfl
  | cons entry done ih =>
    have test : Value.same (.text entry.1) (.text name) = decide (entry.1 = name) := rfl
    rw [Fields.insert, keyed, List.map_cons, Value.insertEntry, test]
    by_cases same : entry.1 = name
    · simp [same, keyed]
    · simpa [same, keyed] using ih

theorem insertEntries_eq_update (done extra : List (String × Value)) :
    (keyed extra).foldl (fun fields field => Value.insertEntry fields field.1 field.2)
      (keyed done) = keyed (Fields.update done extra) := by
  induction extra generalizing done with
  | nil => rfl
  | cons entry extra ih =>
    have first := insertEntry_eq_insert done entry.1 entry.2
    have parts : keyed (entry :: extra) = (.text entry.1, entry.2) :: keyed extra := rfl
    rw [parts, List.foldl_cons, first]
    exact ih _

end Json

namespace Log

open Json (WritableEntry Plain keyed)

section Lines

theorem writable_ownFields (origin : Origin) (record : Record) :
    ∀ entry ∈ ownFields origin record, WritableEntry entry := by
  intro entry member
  fin_cases member <;> exact ⟨rfl, rfl⟩

theorem structuredLine_exists (origin : Origin) {record : Record} (trouble : Option Trouble)
    (each : ∀ field ∈ record.fields.getD [], WritableEntry field) :
    ∃ line, structuredLine origin record trouble = .ok line := by
  have merged := Json.writable_insertEntries (writable_ownFields origin record) each
  cases trouble with
  | none => exact Json.write_map merged
  | some trouble => exact Json.write_map (Json.writable_insertEntry merged ⟨rfl, rfl⟩)

end Lines

section Fields

def ownEntries (origin : Origin) (record : Record) : List (String × Value) :=
  [("timestamp", .text origin.time), ("level", .text record.level.name),
   ("logger", .text record.logger), ("message", .text record.message),
   ("module", .text origin.unit), ("function", .text origin.routine), ("line", .int origin.line)]

def ownNames : List String :=
  ["timestamp", "level", "logger", "message", "module", "function", "line"]

variable (origin : Origin) (record : Record)

theorem ownFields_eq : ownFields origin record = keyed (ownEntries origin record) := rfl

theorem nodup_ownNames : ownNames.Nodup := by decide

theorem lookup_ownEntries_of_not_mem {name : String} (other : name ∉ ownNames) :
    (ownEntries origin record).lookup name = none :=
  Fields.lookup_of_not_mem other

/-- The entries of the structured line of a record with the fields `extra`. -/
def lineEntries (extra : List (String × Value)) (trouble : Option Trouble) :
    List (String × Value) :=
  let merged := Fields.update (ownEntries origin record) extra
  match trouble with
  | none => merged
  | some trouble => Fields.insert merged "exception" (.text trouble.line)

variable {origin record} {extra : List (String × Value)}

theorem structuredFields_eq (given : record.fields.getD [] = keyed extra)
    (trouble : Option Trouble) :
    structuredFields origin record trouble = keyed (lineEntries origin record extra trouble) := by
  have merged := Json.insertEntries_eq_update (ownEntries origin record) extra
  unfold structuredFields
  rw [given, ownFields_eq, merged]
  cases trouble with
  | none => rfl
  | some trouble => exact Json.insertEntry_eq_insert _ "exception" (.text trouble.line)

theorem nodup_lineEntries (trouble : Option Trouble) :
    ((lineEntries origin record extra trouble).map (·.1)).Nodup := by
  have merged : ((Fields.update (ownEntries origin record) extra).map (·.1)).Nodup :=
    Fields.nodup_update nodup_ownNames
  cases trouble with
  | none => exact merged
  | some trouble => exact Fields.nodup_insert merged

theorem lookup_lineEntries (distinct : (extra.map (·.1)).Nodup) (trouble : Option Trouble)
    {name : String} (other : name ≠ "exception") :
    (lineEntries origin record extra trouble).lookup name =
      (extra.lookup name).or ((ownEntries origin record).lookup name) := by
  have merged := Fields.lookup_update (ownEntries origin record) distinct name
  cases trouble with
  | none => exact merged
  | some trouble => exact (Fields.lookup_insert_of_ne other).trans merged

theorem lookup_exception (distinct : (extra.map (·.1)).Nodup) (trouble : Option Trouble) :
    (lineEntries origin record extra trouble).lookup "exception" =
      (trouble.map fun trouble => .text trouble.line).or (extra.lookup "exception") := by
  cases trouble with
  | none =>
    have own : (ownEntries origin record).lookup "exception" = none :=
      lookup_ownEntries_of_not_mem origin record (by decide)
    have merged := Fields.lookup_update (ownEntries origin record) distinct "exception"
    rw [own, Option.or_none] at merged
    exact merged
  | some trouble => exact Fields.lookup_insert_self _ _ _

theorem plain_lineEntries (whole : Plain (.int origin.line))
    (each : ∀ entry ∈ extra, Plain entry.2) (trouble : Option Trouble) :
    ∀ entry ∈ lineEntries origin record extra trouble, Plain entry.2 := by
  have own : ∀ entry ∈ ownEntries origin record, Plain entry.2 := by
    simp [ownEntries, Plain.text, whole]
  have merged := Fields.forall_mem_update own each
  cases trouble with
  | none => exact merged
  | some trouble => exact Fields.forall_mem_insert merged (.text trouble.line)

theorem readText_structuredLine (given : record.fields.getD [] = keyed extra)
    (whole : Plain (.int origin.line)) (each : ∀ entry ∈ extra, Plain entry.2)
    (trouble : Option Trouble) : ∃ line, structuredLine origin record trouble = .ok line ∧
      Json.readText line = .ok (.map (keyed (lineEntries origin record extra trouble))) := by
  have plain : Plain (.map (keyed (lineEntries origin record extra trouble))) :=
    .map (nodup_lineEntries trouble) (plain_lineEntries whole each trouble)
  obtain ⟨line, written, reads⟩ := Json.readText_write plain
  have found := reads [] (List.forall_mem_nil _)
  rw [List.append_nil] at found
  refine ⟨line, ?_, found⟩
  rw [structuredLine, structuredFields_eq given]
  exact written

end Fields

/-- How the entries of a line come from a record and from the fields `extra` that came with it. -/
structure Merged (origin : Origin) (record : Record) (extra : List (String × Value))
    (trouble : Option Trouble) (entries : List (String × Value)) : Prop where
  fields : structuredFields origin record trouble = keyed entries
  distinct : (entries.map (·.1)).Nodup
  /-- A field with the name of one of the record's own takes its place. -/
  own : ∀ name ∈ ownNames, entries.lookup name =
    (extra.lookup name).or ((ownEntries origin record).lookup name)
  others : ∀ name ∉ ownNames, name ≠ "exception" → entries.lookup name = extra.lookup name
  exception : entries.lookup "exception" =
    (trouble.map fun trouble => .text trouble.line).or (extra.lookup "exception")

theorem merged_lineEntries (origin : Origin) {record : Record} {extra : List (String × Value)}
    (given : record.fields.getD [] = keyed extra) (distinct : (extra.map (·.1)).Nodup)
    (trouble : Option Trouble) :
    Merged origin record extra trouble (lineEntries origin record extra trouble) where
  fields := structuredFields_eq given trouble
  distinct := nodup_lineEntries trouble
  own := by
    intro name own
    have other : name ≠ "exception" := fun same => absurd (same ▸ own) (by decide)
    exact lookup_lineEntries distinct trouble other
  others := by
    intro name foreign other
    have absent := lookup_ownEntries_of_not_mem origin record foreign
    rw [lookup_lineEntries distinct trouble other, absent, Option.or_none]
  exception := lookup_exception distinct trouble

/-- The line keeps what the record says by itself as long as no field that came with it says
something else under one of those names. -/
theorem Merged.keeps_iff {origin : Origin} {record : Record} {extra entries : List (String × Value)}
    {trouble : Option Trouble} (merged : Merged origin record extra trouble entries) :
    (∀ name ∈ ownNames, entries.lookup name = (ownEntries origin record).lookup name) ↔
      ∀ name ∈ ownNames, ∀ value, extra.lookup name = some value →
        (ownEntries origin record).lookup name = some value := by
  constructor
  · intro keeps name own value given
    rw [← keeps name own, merged.own name own, given, Option.some_or]
  · intro agrees name own
    rw [merged.own name own]
    cases given : extra.lookup name with
    | none => exact Option.none_or
    | some value => rw [Option.some_or, agrees name own value given]

def setupEntries (setup : Setup) (options : Options) : List (String × Value) :=
  [("level", .text options.level), ("format_style", Value.ofOption .text options.style),
   ("handlers_count", .int setup.sinks.length)]

theorem keeps_setupEntries_iff (origin : Origin) (setup : Setup) (options : Options) :
    (∀ name ∈ ownNames, ∀ value, (setupEntries setup options).lookup name = some value →
        (ownEntries origin (setup.record options)).lookup name = some value) ↔
      options.level = "DEBUG" := by
  constructor
  · intro agrees
    have level := agrees "level" (by decide) (.text options.level) rfl
    have own : (ownEntries origin (setup.record options)).lookup "level" = some (.text "DEBUG") :=
      rfl
    rw [own] at level
    simpa using level.symm
  · intro same name own value given
    by_cases level : name = "level"
    · subst level
      have first : (setupEntries setup options).lookup "level" = some (.text options.level) := rfl
      rw [first] at given
      rw [← Option.some.inj given, same]
      rfl
    · have absent : (setupEntries setup options).lookup name = none := by
        fin_cases own
        all_goals first | rfl | exact absurd rfl level
      rw [absent] at given
      cases given

theorem record_of_configure {options : Options} {setup : Setup} {record : Record}
    (configured : Setup.configure options = .ok (setup, record)) :
    record = setup.record options := by
  unfold Setup.configure at configured
  cases known : Level.ofWord options.level with
  | error e =>
    rw [known] at configured
    cases configured
  | ok level =>
    rw [known] at configured
    cases configured
    rfl

/-- What the line of a record holds: the record's own entries with those that came with it, which
win where they have the name of one of the record's own. The record about a new setup comes with the
level as it was asked for, and so its line shows its own level only for one way to ask. -/
theorem structured_merge (origin : Origin) :
    (∀ (record : Record) (extra : List (String × Value)) (trouble : Option Trouble),
      record.fields.getD [] = keyed extra → (extra.map (·.1)).Nodup →
      ∃ entries, Merged origin record extra trouble entries ∧
        ((∀ name ∈ ownNames, entries.lookup name = (ownEntries origin record).lookup name) ↔
          ∀ name ∈ ownNames, ∀ value, extra.lookup name = some value →
            (ownEntries origin record).lookup name = some value) ∧
        (Plain (.int origin.line) → (∀ entry ∈ extra, Plain entry.2) →
          ∃ line, structuredLine origin record trouble = .ok line ∧
            Json.readText line = .ok (.map (keyed entries)))) ∧
    ∀ (options : Options) (setup : Setup) (record : Record),
      Setup.configure options = .ok (setup, record) →
      ∃ entries, Merged origin record (setupEntries setup options) none entries ∧
        entries.lookup "level" = some (.text options.level) ∧
        ((∀ name ∈ ownNames, entries.lookup name = (ownEntries origin record).lookup name) ↔
          options.level = "DEBUG") := by
  constructor
  · intro record extra trouble given distinct
    have merged := merged_lineEntries origin given distinct trouble
    refine ⟨_, merged, merged.keeps_iff, ?_⟩
    intro whole each
    exact readText_structuredLine given whole each trouble
  · intro options setup record configured
    obtain rfl := record_of_configure configured
    have given : (setup.record options).fields.getD [] = keyed (setupEntries setup options) := rfl
    have merged := merged_lineEntries origin given (by simp [setupEntries]) none
    have level := merged.own "level" (by decide)
    exact ⟨_, merged, level, merged.keeps_iff.trans (keeps_setupEntries_iff origin setup options)⟩

theorem structured_merge_level : ∃ entries,
    structuredFields ⟨"noon", "m", "f", 1⟩ ⟨.info, "sqlbind", "hi",
      some (keyed [("user", .int 7), ("level", .text "low"), ("exception", .null)])⟩
      (some ⟨"KeyError", "k"⟩) = keyed entries ∧
    entries.lookup "level" = some (.text "low") ∧ entries.lookup "message" = some (.text "hi") ∧
    entries.lookup "user" = some (.int 7) ∧
    entries.lookup "exception" = some (.text "KeyError: k") := by
  obtain ⟨entries, merged, -⟩ := (structured_merge ⟨"noon", "m", "f", 1⟩).1
    ⟨.info, "sqlbind", "hi",
      some (keyed [("user", .int 7), ("level", .text "low"), ("exception", .null)])⟩
    [("user", .int 7), ("level", .text "low"), ("exception", .null)]
    (some ⟨"KeyError", "k"⟩) rfl (by decide)
  exact ⟨entries, merged.fields, merged.own "level" (by decide), merged.own "message" (by decide),
    merged.others "user" (by decide) (by decide), merged.exception⟩

/-- The record about a setup for `debug` is taken, and its line calls its level by that word. -/
theorem setup_level_overwritten : ∃ setup record,
    Setup.configure ⟨"debug", some "structured", none, 0⟩ = .ok (setup, record) ∧
    setup.takes record = true ∧
    (ownEntries ⟨"noon", "m", "f", 1⟩ record).lookup "level" = some (.text "DEBUG") ∧
    Value.field (structuredFields ⟨"noon", "m", "f", 1⟩ record none) "level" = .text "debug" :=
  ⟨_, _, rfl, rfl, rfl, rfl⟩

end Log

end SqlRoutes
