import PeerTracker.Bytes.Hex
import PeerTracker.Text.PrintTable

/-!
# Quoted text

A quoted text shows a character as itself unless it has a short escape, is not
printable, or extends the character before it; those are written by code point.
Only the quote in use is escaped: the double one in a text, the single one in a
lone character.
-/

namespace PeerTracker.Quoted

/-- Lower-case hexadecimal digits without leading zeros. -/
def hexDigits (n : Nat) : List Char :=
  if n < 16 then [Hex.digitChar n] else hexDigits (n / 16) ++ [Hex.digitChar (n % 16)]

def codePoint (c : Char) : List Char :=
  ['\\', 'u', '\x7b'] ++ hexDigits c.toNat ++ ['\x7d']

/-- Whether a character is shown as itself, as far as Latin-1 goes: controls, the
no-break space and the soft hyphen are not. -/
def isLatinPrintable (c : Char) : Bool :=
  !(c.toNat < 0x20 || (0x7F ≤ c.toNat && c.toNat ≤ 0xA0) || c.toNat == 0xAD)

def isPrintable (c : Char) : Bool :=
  if c.toNat < 0x100 then isLatinPrintable c
  else !(PrintTable.hiddenRanges.any fun r => r.1 ≤ c.toNat && c.toNat ≤ r.2)

/-- One character inside quotes of the kind `quote`. -/
def escape (quote c : Char) : List Char :=
  if c = Char.ofNat 0 then ['\\', '0']
  else if c = '\t' then ['\\', 't']
  else if c = '\n' then ['\\', 'n']
  else if c = '\r' then ['\\', 'r']
  else if c = '\\' then ['\\', '\\']
  else if c = quote then ['\\', quote]
  else if isPrintable c then [c]
  else codePoint c

def char (c : Char) : String :=
  String.ofList (['\''] ++ escape '\'' c ++ ['\''])

def text (s : String) : String :=
  String.ofList (['"'] ++ s.toList.flatMap (escape '"') ++ ['"'])

end PeerTracker.Quoted
