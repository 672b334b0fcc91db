import Conformance.Text.Printable

/-!
# Quoted — texts between quotes

A text is quoted with single quotes, or with double quotes if it holds a
single quote and no double one. The quote in use and the backslash are
escaped, line ends and tabs have short escapes, and a character that cannot
be shown is written by its code point in two, four or eight digits.
-/


namespace Conformance

namespace Text

/-- The hexadecimal digits of a number, padded to a width. -/
def hexadecimal (width n : Nat) : List Char :=
  let digits := Nat.toDigits 16 n
  List.replicate (width - digits.length) '0' ++ digits

/-- A character by its code point, in as many digits as it needs. -/
def escapeCode (c : Char) : List Char :=
  if c.toNat < 0x100 then '\\' :: 'x' :: hexadecimal 2 c.toNat
  else if c.toNat < 0x10000 then '\\' :: 'u' :: hexadecimal 4 c.toNat
  else '\\' :: 'U' :: hexadecimal 8 c.toNat

/-- A character as it stands between quotes. -/
def escape (quote c : Char) : List Char :=
  if c = quote || c = '\\' then ['\\', c]
  else if c = '\n' then ['\\', 'n']
  else if c = '\r' then ['\\', 'r']
  else if c = '\t' then ['\\', 't']
  else if isPrintable c then [c]
  else escapeCode c

/-- The quote that stands around a row of characters. -/
def quoteFor (letters : List Char) : Char :=
  if letters.contains '\'' && !letters.contains '"' then '"' else '\''

/-- A text between quotes. -/
def quoted (s : String) : String :=
  let quote := quoteFor s.toList
  String.ofList (quote :: s.toList.flatMap (escape quote) ++ [quote])

/-- Bytes between quotes: those that are no shown character of ASCII are
written by their value. -/
def quotedBytes (octets : List UInt8) : String :=
  let letters := octets.map fun b => Char.ofNat b.toNat
  let quote := quoteFor letters
  let shown (c : Char) : List Char :=
    if c.toNat < 0x7f then escape quote c else '\\' :: 'x' :: hexadecimal 2 c.toNat
  String.ofList ('b' :: quote :: letters.flatMap shown ++ [quote])

end Text

end Conformance
