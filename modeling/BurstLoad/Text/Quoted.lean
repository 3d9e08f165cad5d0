import BurstLoad.Bytes
import BurstLoad.Text.Digit
import BurstLoad.Text.Printable
import BurstLoad.Text.Surrogate

/-!
Quoted texts, as they stand in messages. Single quotes are used unless the text has a single
quote and no double one; what is not printable is written as an escape. Byte strings are quoted
likewise, after a mark, with their ASCII characters as they are.
-/

set_option autoImplicit false

namespace BurstLoad.Text

def quoteFor (s : List Char) : Char :=
  if s.contains '\'' && !s.contains '"' then '"' else '\''

/-- A code as an escape of the least width that holds it. -/
def codeEscape (n : Nat) : List Char :=
  if n < 0x100 then '\\' :: 'x' :: hexDigitsOfWidth 2 n
  else if n < 0x10000 then '\\' :: 'u' :: hexDigitsOfWidth 4 n
  else '\\' :: 'U' :: hexDigitsOfWidth 8 n

def escape (quote c : Char) : List Char :=
  if c == quote || c == '\\' then ['\\', c]
  else if c == '\n' then ['\\', 'n']
  else if c == '\r' then ['\\', 'r']
  else if c == '\t' then ['\\', 't']
  else if isPrintable c then [c]
  else codeEscape (code c)

def quoteChars (s : List Char) : List Char :=
  let q := quoteFor s
  q :: s.flatMap (escape q) ++ [q]

def quote (s : String) : String :=
  String.ofList (quoteChars s.toList)

def escapeByte (quote : Char) (b : UInt8) : List Char :=
  if b < 0x7F then escape quote (Char.ofNat b.toNat)
  else '\\' :: 'x' :: hexDigitsOfWidth 2 b.toNat

def quoteBytes (b : Bytes) : String :=
  let q := quoteFor (b.map fun x => Char.ofNat x.toNat)
  String.ofList ('b' :: q :: b.flatMap (escapeByte q) ++ [q])

end BurstLoad.Text
