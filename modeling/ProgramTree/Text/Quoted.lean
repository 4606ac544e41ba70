/-!
# Quoted text

A quoted text stands between double quotes. Six characters have a short escape of their own; any
other character in a given set is written by its code point in lowercase hexadecimal digits
without leading zeros; every remaining character is written as it is.

The set of characters written by code point is a parameter, so what is proved about quoting
holds for every choice of it.
-/

namespace ProgramTree

/-- A set of characters to be written by their code points. -/
abbrev EscapeSet := Char → Bool

/-- Write a character by its code point. -/
def codePointEscape (character : Char) : List Char :=
  '\\' :: 'u' :: '\x7b' :: (Nat.toDigits 16 character.toNat ++ ['\x7d'])

/-- Write one character of a quoted text. -/
def escapeCharacter (escaped : EscapeSet) (character : Char) : List Char :=
  match character with
  | '\x00' => ['\\', '0']
  | '\t' => ['\\', 't']
  | '\n' => ['\\', 'n']
  | '\r' => ['\\', 'r']
  | '"' => ['\\', '"']
  | '\\' => ['\\', '\\']
  | other => if escaped other then codePointEscape other else [other]

/-- Write a text between double quotes with its characters escaped. -/
def quoted (escaped : EscapeSet) (text : String) : String :=
  String.ofList ('"' :: (text.toList.flatMap (escapeCharacter escaped) ++ ['"']))

end ProgramTree
