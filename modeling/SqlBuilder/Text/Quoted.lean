import SqlBuilder.Text.Printable

/-!
# Quoted text

Messages and dumps show text between quotes, with everything escaped that would not survive on a
printed line. The quote is the single one unless the text holds single quotes and no double one, so
that a quote inside is escaped as rarely as possible.
-/

namespace SqlBuilder.Text

def singleQuote : Char := '\x27'

def doubleQuote : Char := '\x22'

def backslash : Char := '\x5c'

/-- The last `width` digits of `n` in base sixteen. -/
def hexDigits : Nat → Nat → List Char
  | 0, _ => []
  | width + 1, n => hexDigits width (n / 16) ++ [Nat.digitChar (n % 16)]

/-- A character by its number, in the shortest of the three widths that holds it. -/
def numbered (n : Nat) : List Char :=
  if n < 0x100 then backslash :: 'x' :: hexDigits 2 n
  else if n < 0x10000 then backslash :: 'u' :: hexDigits 4 n
  else backslash :: 'U' :: hexDigits 8 n

/-- A character between quotes of the kind `quote`. -/
def escapeChar (quote c : Char) : List Char :=
  if c == quote || c == backslash then [backslash, c]
  else if c == '\n' then [backslash, 'n']
  else if c == '\r' then [backslash, 'r']
  else if c == '\t' then [backslash, 't']
  else if isPrintable c then [c]
  else numbered c.toNat

/-- The quote that needs the fewest escapes. -/
def chooseQuote (cs : List Char) : Char :=
  if cs.contains singleQuote && !cs.contains doubleQuote then doubleQuote else singleQuote

def quoteChars (cs : List Char) : List Char :=
  let quote := chooseQuote cs
  quote :: cs.flatMap (escapeChar quote) ++ [quote]

def quoted (s : String) : String :=
  String.ofList (quoteChars s.toList)

/-- An octet between quotes of the kind `quote`: beyond ASCII there is no character to show. -/
def escapeOctet (quote : Char) (octet : UInt8) : List Char :=
  if octet.toNat < 0x80 then escapeChar quote (Char.ofNat octet.toNat) else numbered octet.toNat

def quotedOctets (octets : List UInt8) : String :=
  let quote := chooseQuote (octets.map fun octet => Char.ofNat octet.toNat)
  String.ofList ('b' :: quote :: octets.flatMap (escapeOctet quote) ++ [quote])

end SqlBuilder.Text
