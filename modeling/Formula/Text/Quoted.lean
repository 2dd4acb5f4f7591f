import Formula.Text.Extending
import Formula.Text.Invisible

/-!
# Quoted text

Strings and characters between quotes, such that every character can be seen: the quote in use
and the backslash get a backslash before them, tab, line feed, carriage return and NUL their usual
letters, and extending or invisible characters are written by code point in hexadecimal.
-/

namespace Formula.Text

/-- A character by its code point, as in `\u{301}`. -/
def codePointEscape (c : Char) : String :=
  "\\u\x7b" ++ String.ofList (Nat.toDigits 16 c.toNat) ++ "\x7d"

/-- One character of a text that stands between two of the given quotes. -/
def quotedChar (quote c : Char) : String :=
  if c = '\x00' then "\\0"
  else if c = '\t' then "\\t"
  else if c = '\n' then "\\n"
  else if c = '\r' then "\\r"
  else if c = '\\' then "\\\\"
  else if c = quote then String.ofList ['\\', c]
  else if isExtending c || isInvisible c then codePointEscape c
  else String.singleton c

/-- A string between double quotes. -/
def quoteString (s : String) : String :=
  "\"" ++ String.join (s.toList.map (quotedChar '"')) ++ "\""

/-- A character between single quotes. -/
def quoteChar (c : Char) : String :=
  "'" ++ quotedChar '\'' c ++ "'"

end Formula.Text
