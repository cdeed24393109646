import TestBench.Text.Printable

/-! Quoted text and quoted bytes. A text stands between single quotes unless it holds a single
quote and no double one; whatever would not show as itself is written as an escape. -/
namespace TestBench.Text

def quoteOf (cs : List Char) : Char :=
  if cs.contains '\'' && !cs.contains '"' then '"' else '\''

/-- The last `width` digits of a number to base sixteen, in small letters. -/
def hexDigits : Nat → Nat → List Char
  | 0, _ => []
  | width + 1, n => hexDigits width (n / 16) ++ [Nat.digitChar (n % 16)]

/-- The escape for a character that does not show as itself: two, four or eight digits. -/
def codeEscape (n : Nat) : List Char :=
  if n < 256 then '\\' :: 'x' :: hexDigits 2 n
  else if n < 65536 then '\\' :: 'u' :: hexDigits 4 n
  else '\\' :: 'U' :: hexDigits 8 n

/-- How one character is written between two quotes. -/
def escapeChar (quote c : Char) : List Char :=
  if c = quote ∨ c = '\\' then ['\\', c]
  else if c = '\n' then ['\\', 'n']
  else if c = '\r' then ['\\', 'r']
  else if c = '\t' then ['\\', 't']
  else if isPrintable c then [c]
  else codeEscape c.toNat

def quoted (cs : List Char) : List Char :=
  let quote := quoteOf cs
  quote :: cs.flatMap (escapeChar quote) ++ [quote]

/-- How one byte is written between two quotes: ASCII alone shows as itself. -/
def escapeByte (quote : Char) (b : UInt8) : List Char :=
  let c := Char.ofNat b.toNat
  if c = quote ∨ c = '\\' then ['\\', c]
  else if c = '\n' then ['\\', 'n']
  else if c = '\r' then ['\\', 'r']
  else if c = '\t' then ['\\', 't']
  else if 32 ≤ b.toNat ∧ b.toNat ≤ 126 then [c]
  else codeEscape b.toNat

/-- Bytes between quotes, after the mark that tells them from text. -/
def quotedBytes (bs : List UInt8) : List Char :=
  let quote := quoteOf (bs.map fun b => Char.ofNat b.toNat)
  'b' :: quote :: bs.flatMap (escapeByte quote) ++ [quote]

def quote (s : String) : String := String.ofList (quoted s.toList)

example : quote "it's" = "\"it's\"" := by decide +kernel

example : quote "a\n\x7f" = "'a\\n\\x7f'" := by decide +kernel

end TestBench.Text
