/-! Bytes written with sixty-four characters, four of them for three bytes. Other characters do
not count, and what follows complete padding is left out. -/
namespace TestBench.Text.Base64

/-- The six bits that a character stands for. -/
def sextet? (c : Char) : Option Nat :=
  if 'A' ≤ c ∧ c ≤ 'Z' then some (c.toNat - 'A'.toNat)
  else if 'a' ≤ c ∧ c ≤ 'z' then some (c.toNat - 'a'.toNat + 26)
  else if '0' ≤ c ∧ c ≤ '9' then some (c.toNat - '0'.toNat + 52)
  else if c = '+' then some 62
  else if c = '/' then some 63
  else none

/-- Read on behind `count` characters of a group of four. `left` holds the bits that no byte has
taken yet, and `pads` counts the padding. -/
def decodeFrom (count left pads : Nat) : List Char → Option (List UInt8)
  | [] => if count = 0 then some [] else none
  | c :: cs =>
    if c = '=' then
      if count < 2 then decodeFrom count left pads cs
      else if 4 ≤ count + pads + 1 then some []
      else decodeFrom count left (pads + 1) cs
    else
      match sextet? c with
      | none => decodeFrom count left pads cs
      | some n =>
        match count with
        | 0 => decodeFrom 1 n 0 cs
        | 1 => (decodeFrom 2 (n % 16) 0 cs).map (UInt8.ofNat (left * 4 + n / 16) :: ·)
        | 2 => (decodeFrom 3 (n % 4) 0 cs).map (UInt8.ofNat (left * 16 + n / 4) :: ·)
        | _ => (decodeFrom 0 0 0 cs).map (UInt8.ofNat (left * 64 + n) :: ·)

def decode (cs : List Char) : Option (List UInt8) := decodeFrom 0 0 0 cs

example : decode "aGk=".toList = some [104, 105] := by decide +kernel

example : decode "aGk".toList = none := by decide +kernel

end TestBench.Text.Base64
