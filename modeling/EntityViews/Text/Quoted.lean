import EntityViews.Text.Classes
import EntityViews.Text.Surrogate

/-!
Quoted texts: single quotes unless the text holds a single quote and no double one; backslash escapes for the quote, the
backslash and what has no printed form.
-/

namespace EntityViews.Text

/-- The lower-case hexadecimal digits of a number, padded with zeros to a width. -/
def hex (width n : Nat) : String :=
  let digits := Nat.toDigits 16 n
  String.ofList (List.replicate (width - digits.length) '0' ++ digits)

/-- The escape of a character by its code point, in the fewest of two, four or eight digits. -/
def codeEscape (c : Char) : String :=
  let code := codeOf c
  if code < 0x100 then "\\x" ++ hex 2 code
  else if code < 0x10000 then "\\u" ++ hex 4 code
  else "\\U" ++ hex 8 code

def quoteChar (quote c : Char) : String :=
  if c = quote || c = '\\' then String.ofList ['\\', c]
  else if c = '\n' then "\\n"
  else if c = '\r' then "\\r"
  else if c = '\t' then "\\t"
  else if isPrintable c then c.toString
  else codeEscape c

/-- The quotation mark that a text takes. -/
def quoteMark (s : String) : Char :=
  if s.toList.contains '\'' && !s.toList.contains '"' then '"' else '\''

def quoted (s : String) : String :=
  let mark := quoteMark s
  mark.toString ++ String.join (s.toList.map (quoteChar mark)) ++ mark.toString

def inAscii (s : String) : String :=
  String.join (s.toList.map fun c => if c.toNat < 0x80 then c.toString else codeEscape c)

end EntityViews.Text
