import CatalogSearch.Text.Hidden
/-!
Text as a reader of messages sees it: in double quotes, with every character that would not show as itself
written by an escape.
-/
namespace CatalogSearch.Text

def showEscaped (c : Char) : List Char :=
  match c with
  | '"' => ['\\', '"']
  | '\\' => ['\\', '\\']
  | '\t' => ['\\', 't']
  | '\n' => ['\\', 'n']
  | '\r' => ['\\', 'r']
  | '\x00' => ['\\', '0']
  | c => if isHidden c then ['\\', 'u', '\x7b'] ++ Nat.toDigits 16 c.toNat ++ ['\x7d'] else [c]

def quoted (s : String) : String := String.ofList ('"' :: s.toList.flatMap showEscaped ++ ['"'])

end CatalogSearch.Text
