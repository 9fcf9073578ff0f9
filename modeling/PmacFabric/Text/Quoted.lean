import PmacFabric.Text.Unprintable

/-!
# Quoted text

Failures quote a name between double quotes. Quotes, backslashes and characters without a glyph
of their own are written with a backslash, so that the quoted form stays on one line and shows all.
-/

namespace PmacFabric.Text

/-- The digits of a number in base sixteen, without leading zeros. -/
def hexNumber (n : Nat) : List Char := Nat.toDigits 16 n

/-- A character inside quotes. -/
def quotedChar (c : Char) : List Char :=
  match c with
  | '"' => ['\\', '"']
  | '\\' => ['\\', '\\']
  | '\n' => ['\\', 'n']
  | '\r' => ['\\', 'r']
  | '\t' => ['\\', 't']
  | '\x00' => ['\\', '0']
  | c =>
    if isUnprintable c then
      ['\\', 'u', '\x7b'] ++ hexNumber c.toNat ++ ['\x7d']
    else [c]

def quoted (text : String) : String :=
  String.ofList (['"'] ++ text.toList.flatMap quotedChar ++ ['"'])

end PmacFabric.Text
