import SqlRoutes.Proofs.Encoding.Utf8
import SqlRoutes.Proofs.Log.Structured

/-!
The values that can be exchanged have JSON texts of one line, and are read back from their texts and
from the bytes of them. The structured lines of the log are such texts, whatever a record holds.
-/
namespace SqlRoutes.Json

open Encoding

/-- Values that can be exchanged: whole numbers fit into 64 bits, with or without a sign, and the
names in a map are texts, all different. -/
inductive Portable : Value → Prop
  | null : Portable .null
  | bool (b : Bool) : Portable (.bool b)
  | int {i : Int} (low : -2 ^ 63 ≤ i) (high : i ≤ 2 ^ 64 - 1) : Portable (.int i)
  | text (s : String) : Portable (.text s)
  | list {values : List Value} (each : ∀ v ∈ values, Portable v) : Portable (.list values)
  | map {entries : List (String × Value)} (distinct : (entries.map (·.1)).Nodup)
    (each : ∀ entry ∈ entries, Portable entry.2) : Portable (.map (keyed entries))

theorem length_toString_le {i : Int} (low : -2 ^ 63 ≤ i) (high : i ≤ 2 ^ 64 - 1) :
    (toString i).length ≤ 21 := by
  have digits : (Nat.toDigits 10 i.natAbs).length ≤ 20 :=
    (Nat.length_toDigits_le_iff (by decide) (by decide)).2 (by omega)
  rw [← String.length_toList, toList_toString]
  split
  · omega
  · rw [List.length_cons]
    omega

theorem Portable.plain {v : Value} (portable : Portable v) : Plain v := by
  induction portable with
  | null => exact .null
  | bool b => exact .bool b
  | int low high =>
    have short := length_toString_le low high
    exact .int (short.trans (by decide))
  | text s => exact .text s
  | list _ ih => exact .list ih
  | map distinct _ ih => exact .map distinct ih

section Bytes

variable {v : Value} {text : List Char}

theorem writeBytes_of_write (written : write v = .ok text) :
    writeBytes v = .ok (Utf8.encode text) := by
  rw [writeBytes, written]
  rfl

theorem readBytes_encode (text : List Char) : readBytes (Utf8.encode text) = readText text := by
  rw [readBytes, readText, Encoding.Utf8.pieces_encode]

end Bytes

/-- A value that can be exchanged is written on one line. From the line the same value is read back,
its entries in the same order, and so it is from the bytes of the line. The structured lines of the
log are of that kind too. -/
theorem write_portable {v : Value} (portable : Portable v) :
    (∃ text, write v = .ok text ∧ Printable text ∧ readText text = .ok v ∧
      ∃ bytes, writeBytes v = .ok bytes ∧ bytes = Utf8.encode text ∧
        Utf8.decode bytes = .ok text ∧ readBytes bytes = .ok v) ∧
    ∀ (origin : Log.Origin) (record : Log.Record) (trouble : Option Log.Trouble),
      (∀ line, Log.structuredLine origin record trouble = .ok line → Printable line) ∧
      ((∀ field ∈ record.fields.getD [], WritableEntry field) →
        ∃ line, Log.structuredLine origin record trouble = .ok line) := by
  constructor
  · obtain ⟨text, written, reads⟩ := readText_write portable.plain
    have found : readText text = .ok v := by
      simpa using reads [] (by simp)
    have decoded : Utf8.decode (Utf8.encode text) = .ok text := Encoding.Utf8.decode_encode text
    have bytesFound : readBytes (Utf8.encode text) = .ok v := (readBytes_encode text).trans found
    exact ⟨text, written, printable_of_write written, found, Utf8.encode text,
      writeBytes_of_write written, rfl, decoded, bytesFound⟩
  · intro origin record trouble
    constructor
    · intro line written
      exact printable_of_write written
    · intro each
      exact Log.structuredLine_exists origin trouble each

theorem write_portable_nested : ∃ v text,
    v = .map (keyed [("ключ\n\x01\"", .list [.int (-2 ^ 63), .map [], .null]),
      ("", .list [.int (2 ^ 64 - 1), .bool true, .list [], .text "\\/\t😀"])]) ∧
    write v = .ok text ∧ Printable text ∧ readText text = .ok v ∧
      readBytes (Utf8.encode text) = .ok v := by
  have noEntries : Portable (.map (keyed [])) := .map List.nodup_nil (List.forall_mem_nil _)
  have noItems : Portable (.list []) := .list (List.forall_mem_nil _)
  have first : Portable (.list [.int (-2 ^ 63), .map [], .null]) := by
    apply Portable.list
    simp only [List.forall_mem_cons]
    exact ⟨.int (by decide) (by decide), noEntries, .null, List.forall_mem_nil _⟩
  have second : Portable (.list [.int (2 ^ 64 - 1), .bool true, .list [], .text "\\/\t😀"]) := by
    apply Portable.list
    simp only [List.forall_mem_cons]
    exact ⟨.int (by decide) (by decide), .bool true, noItems, .text _, List.forall_mem_nil _⟩
  have both : Portable (.map (keyed [
      ("ключ\n\x01\"", .list [.int (-2 ^ 63), .map [], .null]),
      ("", .list [.int (2 ^ 64 - 1), .bool true, .list [], .text "\\/\t😀"])])) := by
    apply Portable.map
    · decide
    · simp only [List.forall_mem_cons]
      exact ⟨first, second, List.forall_mem_nil _⟩
  obtain ⟨⟨text, written, printable, read, bytes, -, rfl, -, readBytes⟩, -⟩ := write_portable both
  exact ⟨_, text, rfl, written, printable, read, readBytes⟩

end SqlRoutes.Json
