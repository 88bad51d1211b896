import BilingualScript.Text.Blank
import BilingualScript.Text.Unprintable

/-!
# Quoted texts

A text between quotes, on one line and in printable characters only.  Single quotes are used
unless the text holds single and no double ones.
-/

namespace BilingualScript.Text.Quoted

def hexDigits (width code : Nat) : List Char :=
  let digits := Nat.toDigits 16 code
  List.replicate (width - digits.length) '0' ++ digits

def codeEscape (code : Nat) : List Char :=
  if code < 0x100 then '\\' :: 'x' :: hexDigits 2 code
  else if code < 0x10000 then '\\' :: 'u' :: hexDigits 4 code
  else '\\' :: 'U' :: hexDigits 8 code

def escape (quote char : Char) : List Char :=
  if char = quote ∨ char = '\\' then ['\\', char]
  else if char = '\n' then ['\\', 'n']
  else if char = '\r' then ['\\', 'r']
  else if char = '\t' then ['\\', 't']
  else if liesIn unprintableRanges char then codeEscape char.toNat
  else [char]

def quoteFor (text : List Char) : Char :=
  if text.contains '\'' && !text.contains '"' then '"' else '\''

def chars (text : List Char) : List Char :=
  let quote := quoteFor text
  quote :: (text.flatMap (escape quote) ++ [quote])

def ascii (text : List Char) : List Char :=
  text.flatMap fun char => if char.toNat < 128 then [char] else codeEscape char.toNat

end BilingualScript.Text.Quoted

namespace BilingualScript.Text

def quoted (text : String) : String := .ofList (Text.Quoted.chars text.toList)

end BilingualScript.Text
