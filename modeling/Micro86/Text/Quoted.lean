import Micro86.Text.Hex
import Micro86.Unicode.Invisible

/-!
Text between double quotes.

`text` escapes with a backslash what cannot be seen as it stands; `json` escapes what a JSON
string does not admit.
-/

namespace Micro86.Quoted

def escape (c : Char) : List Char :=
  match c with
  | '"' => ['\\', '"']
  | '\\' => ['\\', '\\']
  | '\t' => ['\\', 't']
  | '\n' => ['\\', 'n']
  | '\r' => ['\\', 'r']
  | '\x00' => ['\\', '0']
  | c =>
    if Unicode.isInvisible c then ['\\', 'u', '\x7b'] ++ Hex.digits 0 c.toNat ++ ['\x7d'] else [c]

def text (s : String) : String :=
  String.ofList ('"' :: s.toList.flatMap escape ++ ['"'])

def escapeJson (c : Char) : List Char :=
  match c with
  | '"' => ['\\', '"']
  | '\\' => ['\\', '\\']
  | '\t' => ['\\', 't']
  | '\n' => ['\\', 'n']
  | '\r' => ['\\', 'r']
  | '\x08' => ['\\', 'b']
  | '\x0c' => ['\\', 'f']
  | c => if c.toNat < 0x20 then ['\\', 'u'] ++ Hex.digits 4 c.toNat else [c]

def json (s : String) : String :=
  String.ofList ('"' :: s.toList.flatMap escapeJson ++ ['"'])

end Micro86.Quoted
