import DeclGen.Text.Unseen

/-!
# Quoted texts in messages

Messages show a text between double quotes. Inside, quotes, backslashes and the common control
characters are written with a backslash and a letter, and any other character that cannot be seen
is written by its code point.
-/

namespace DeclGen.Text

/-- How a character is written inside quotes. -/
def quoteChar (c : Char) : String :=
  match c with
  | '"' => "\\\""
  | '\\' => "\\\\"
  | '\n' => "\\n"
  | '\r' => "\\r"
  | '\t' => "\\t"
  | '\x00' => "\\0"
  | c =>
    if isUnseen c then "\\u\x7b" ++ String.ofList (Nat.toDigits 16 c.toNat) ++ "\x7d"
    else c.toString

/-- A text between quotes. -/
def quote (s : String) : String :=
  "\"" ++ String.join (s.toList.map quoteChar) ++ "\""

end DeclGen.Text
