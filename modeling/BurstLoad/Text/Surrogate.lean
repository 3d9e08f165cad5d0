/-!
Halves of surrogate pairs that stand alone. Such a half has a code but is no character, so a text
holds a stand-in for it, from a range of codes to which the standard assigns nothing. The rules
that look at codes see the code of the half, and a text with a stand-in has no bytes.
-/

set_option autoImplicit false

namespace BurstLoad.Text

def isHalf (code : Nat) : Bool :=
  0xD800 ≤ code && code ≤ 0xDFFF

def standInShift : Nat := 0x90000

/-- The character with a code, or the stand-in for a half. -/
def ofCode (code : Nat) : Char :=
  Char.ofNat (if isHalf code then code + standInShift else code)

def isStandIn (c : Char) : Bool :=
  0x9D800 ≤ c.toNat && c.toNat ≤ 0x9DFFF

def code (c : Char) : Nat :=
  if isStandIn c then c.toNat - standInShift else c.toNat

/-- The codes of a text, by which texts are ordered. -/
def codes (s : String) : List Nat :=
  s.toList.map code

def isEncodable (s : String) : Bool :=
  s.toList.all fun c => !isStandIn c

end BurstLoad.Text
