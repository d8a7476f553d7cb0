import SqlRoutes.Value.Atom

/-!
The order in which a set shows its members. They stand in a table, each in a slot that its weight
leads to, and are shown slot by slot. Only numbers have a weight that is always the same.
-/
namespace SqlRoutes

def weightModulus : Nat := Nat.pow 2 61 - 1

/-- The weight of a number of some size and sign; minus one weighs as minus two. -/
def signedWeight (negative : Bool) (size : Nat) : Int :=
  if negative then (if size = 1 then -2 else -size) else size

/-- The weight of a number, which is the same for all kinds of numbers. Modulo the prime, 61
halvings bring a number back to itself, so that fractions have weights too. -/
def Atom.weight? : Atom → Option Int
  | .bool b => some (if b then 1 else 0)
  | .int i => some (signedWeight (i < 0) (i.natAbs % weightModulus))
  | .float x =>
    if x.isNaN then none
    else if x.isInf then some (signedWeight (x < 0) 314159)
    else
      let b := Decimal.Binary.ofFloat x
      some (signedWeight b.negative (b.m * Decimal.power 2 (b.q % 61) % weightModulus))
  | _ => none

namespace Slots

variable {α : Type}

/-- How many slots a set of so many members has: more than twice as many, if they are not few. -/
def count (members : Nat) : Nat :=
  if members < 5 then 8 else max 8 (Nat.pow 2 ((2 * members).log2 + 1))

/-- The free slot that a search finds which begins at a slot: there, among the nine after it if all
of them exist, and then at further slots, for which the `rest` of the weight counts. -/
def free? (slots : Array (Option α)) (rest slot : Nat) : Nat → Option Nat
  | 0 => none
  | bound + 1 =>
    let near := if slot + 9 < slots.size then 10 else 1
    match (List.range near).find? fun step => (slots.getD (slot + step) none).isNone with
    | some step => some (slot + step)
    | none =>
      let rest := rest / 32
      free? slots rest ((slot * 5 + 1 + rest) % slots.size) bound

/-- Puts a member into the slot that its weight leads to. -/
def seat (slots : Array (Option α)) (weight : Int) (member : α) : Array (Option α) :=
  let weight := (weight % Nat.pow 2 64).toNat
  match free? slots weight (weight % slots.size) (slots.size + 13) with
  | some slot => slots.setIfInBounds slot (some member)
  | none => slots

/-- Members in the order of their slots, if all of them have a weight. -/
def ordered (weight? : α → Option Int) (members : List α) : List α :=
  match members.mapM fun member => (weight? member).map (·, member) with
  | none => members
  | some weighed =>
    let slots := weighed.foldl (fun slots member => seat slots member.1 member.2)
      (Array.replicate (count members.length) none)
    slots.toList.filterMap id

end Slots

end SqlRoutes
