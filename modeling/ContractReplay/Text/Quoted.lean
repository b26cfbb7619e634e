import ContractReplay.Text.Printable

/-!
# Quoted text in diagnostics

A diagnostic shows a text between double quotes.  Quotes, backslashes and the
four common control characters have short escapes; every other character that
does not show as itself is written by its code point.
-/

namespace ContractReplay.Text

/-- A code point in lower-case hexadecimal between braces, after a backslash and a `u`. -/
def codePointEscape (char : Char) : List Char :=
  '\\' :: 'u' :: '\x7b' :: (Nat.toDigits 16 char.toNat ++ ['\x7d'])

/-- The spelling of one character between double quotes. -/
def quoteChar (char : Char) : List Char :=
  if char = '\x00' then ['\\', '0']
  else if char = '\t' then ['\\', 't']
  else if char = '\r' then ['\\', 'r']
  else if char = '\n' then ['\\', 'n']
  else if char = '\\' then ['\\', '\\']
  else if char = '"' then ['\\', '"']
  else if showsAsItself char then [char]
  else codePointEscape char

/-- A text between double quotes, as diagnostics show it. -/
def quoted (text : String) : String :=
  String.ofList ('"' :: (text.toList.flatMap quoteChar ++ ['"']))

end ContractReplay.Text
