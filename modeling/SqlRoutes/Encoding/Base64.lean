namespace SqlRoutes.Base64

def alphabet : List Char :=
  "ABCDEFGHIJKLMNOPQRSTUVWXYZabcdefghijklmnopqrstuvwxyz0123456789+/".toList

def letter (n : Nat) : Char := alphabet.getD n 'A'

def encode : List UInt8 → List Char
  | [] => []
  | [a] =>
    let n := a.toNat * 16
    [letter (n / 64), letter (n % 64), '=', '=']
  | [a, b] =>
    let n := (a.toNat * 256 + b.toNat) * 4
    [letter (n / 4096), letter (n / 64 % 64), letter (n % 64), '=']
  | a :: b :: c :: rest =>
    let n := (a.toNat * 256 + b.toNat) * 256 + c.toNat
    letter (n / 262144) :: letter (n / 4096 % 64) :: letter (n / 64 % 64) :: letter (n % 64) ::
      encode rest

/-- Where reading stands in a group of four letters: how many came, the bits not yet written, and
the padding seen since the last letter. -/
structure Group where
  letters : Nat
  bits : Nat
  padding : Nat

def decodeFrom (group : Group) : List Char → Option (List UInt8)
  | [] => if group.letters = 0 then some [] else none
  | c :: rest =>
    if c = '=' then
      if 2 ≤ group.letters then
        if 4 ≤ group.letters + group.padding + 1 then some []
        else decodeFrom { group with padding := group.padding + 1 } rest
      else decodeFrom group rest
    else
      match alphabet.findIdx? (· = c) with
      | none => decodeFrom group rest
      | some n =>
        let byte (m : Nat) := UInt8.ofNat m
        match group.letters with
        | 0 => decodeFrom ⟨1, n, 0⟩ rest
        | 1 => (decodeFrom ⟨2, n % 16, 0⟩ rest).map (byte (group.bits * 4 + n / 16) :: ·)
        | 2 => (decodeFrom ⟨3, n % 4, 0⟩ rest).map (byte (group.bits * 16 + n / 4) :: ·)
        | _ => (decodeFrom ⟨0, 0, 0⟩ rest).map (byte (group.bits * 64 + n) :: ·)

def decode (text : List Char) : Option (List UInt8) := decodeFrom ⟨0, 0, 0⟩ text

end SqlRoutes.Base64
