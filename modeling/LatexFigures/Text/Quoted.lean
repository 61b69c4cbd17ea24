import LatexFigures.Text.Invisible

/-! Names quoted in messages. Quotation marks and backslashes take a backslash, the common
controls have letters, and other invisible characters stand as numbers in hexadecimal.
-/

namespace LatexFigures.Text.Quoted

/-- One character of a quoted name. -/
def escape (c : Char) : List Char :=
  match c with
  | '"' => ['\\', '"']
  | '\\' => ['\\', '\\']
  | '\t' => ['\\', 't']
  | '\n' => ['\\', 'n']
  | '\r' => ['\\', 'r']
  | '\x00' => ['\\', '0']
  | c => if isInvisible c then ['\\', 'u', '\x7b'] ++ Nat.toDigits 16 c.toNat ++ ['\x7d'] else [c]

/-- The name between quotation marks. -/
def encode (name : String) : String :=
  String.ofList ('"' :: name.toList.flatMap escape ++ ['"'])

end LatexFigures.Text.Quoted
