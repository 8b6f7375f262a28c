import KeyMatrix.Text.Invisible

/-! # Quoted text

Text is quoted so that every character of it can be seen: quotes and backslashes are
escaped, and so is every character that does not show.
-/
namespace KeyMatrix.Text

/-- The escape that names a character by its code point, in lower-case hexadecimal. -/
def codePointEscape (c : Char) : List Char :=
  ['\\', 'u', '\x7b'] ++ Nat.toDigits 16 c.toNat ++ ['\x7d']

/-- The characters that stand for `c` between quotes. -/
def quoteChar (c : Char) : List Char :=
  if c = '\x00' then ['\\', '0']
  else if c = '\t' then ['\\', 't']
  else if c = '\r' then ['\\', 'r']
  else if c = '\n' then ['\\', 'n']
  else if c = '\\' ∨ c = '"' then ['\\', c]
  else if c.toNat < 0x20 ∨ c.toNat = 0x7f ∨ isInvisible c then codePointEscape c
  else [c]

/-- The text between quotes. -/
def quoted (text : String) : String :=
  String.ofList ('"' :: text.toList.flatMap quoteChar ++ ['"'])

end KeyMatrix.Text
