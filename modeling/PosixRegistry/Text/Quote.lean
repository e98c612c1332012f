import PosixRegistry.Text.Printable
/-!
# Quoted texts in messages

Messages that show a text the caller sent write it between double quotes, with a backslash
before a quote or backslash, the usual short escapes for tab, carriage return, line feed and
the null character, and `\u{hex}` (lowercase, no leading zeros) for a character that is not
printable or that extends the grapheme before it. Everything else stands as itself, so
`élève` is quoted as `"élève"` and a zero-width space as `"\u{200b}"`.
-/

namespace PosixRegistry.Text

/-- The escape of one character inside a quoted text. -/
def quoteChar (c : Char) : String :=
  if c = '\x00' then "\\0"
  else if c = '\t' then "\\t"
  else if c = '\r' then "\\r"
  else if c = '\n' then "\\n"
  else if c = '\\' then "\\\\"
  else if c = '"' then "\\\""
  else if isGraphemeExtend c || !isPrintable c then
    "\\u" ++ "\x7b" ++ String.ofList (Nat.toDigits 16 c.toNat) ++ "\x7d"
  else String.singleton c

/-- A text between double quotes, escaped as messages show it. -/
def quote (s : String) : String :=
  "\"" ++ String.join (s.toList.map quoteChar) ++ "\""

end PosixRegistry.Text
