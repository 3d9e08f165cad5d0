import BurstLoad.Bytes

/-!
Byte strings written in an alphabet of 64 characters, four of which hold three bytes. Characters
outside of the alphabet are passed over; a group that is cut short needs its signs of padding.
-/

set_option autoImplicit false

namespace BurstLoad.Text.Base64

def sextet? (c : Char) : Option Nat :=
  if 'A' ≤ c && c ≤ 'Z' then some (c.toNat - 65)
  else if 'a' ≤ c && c ≤ 'z' then some (c.toNat - 71)
  else if '0' ≤ c && c ≤ '9' then some (c.toNat + 4)
  else if c == '+' then some 62
  else if c == '/' then some 63
  else none

/-- The bytes of a text after the first characters of a group: `held` counts these, `left` holds
their bits without a byte, and `pads` counts the signs of padding since. -/
def decodeFrom (held left pads : Nat) : List Char → Option Bytes
  | [] => if held == 0 then some [] else none
  | c :: rest =>
    if c == '=' then
      if held < 2 then decodeFrom held left pads rest
      else if 4 ≤ held + pads + 1 then some []
      else decodeFrom held left (pads + 1) rest
    else match sextet? c with
      | none => decodeFrom held left pads rest
      | some v =>
        match held with
        | 0 => decodeFrom 1 v 0 rest
        | 1 => (decodeFrom 2 (v % 16) 0 rest).map (UInt8.ofNat (left * 4 + v / 16) :: ·)
        | 2 => (decodeFrom 3 (v % 4) 0 rest).map (UInt8.ofNat (left * 16 + v / 4) :: ·)
        | _ => (decodeFrom 0 0 0 rest).map (UInt8.ofNat (left * 64 + v) :: ·)

/-- The bytes that a text writes; a text beyond ASCII writes none. -/
def decode? (s : List Char) : Option Bytes :=
  if s.all fun c => c.toNat < 0x80 then decodeFrom 0 0 0 s else none

end BurstLoad.Text.Base64
