import Rollout.Text.Visible

/-!
# Strings as messages quote them

A message quotes a string in double quotes. Quotes and backslashes inside are escaped, as are the
characters that do not show; these are given by their code points.

## Main definitions

* `Text.quoted` — a string in quotes
-/

namespace Rollout.Text

/-- A character as a quoted string shows it. -/
def quotedChar (c : Char) : List Char :=
  match c with
  | '\x00' => ['\\', '0']
  | '\t' => ['\\', 't']
  | '\r' => ['\\', 'r']
  | '\n' => ['\\', 'n']
  | '"' => ['\\', '"']
  | '\\' => ['\\', '\\']
  | c =>
    if isVisible c then [c]
    else '\\' :: 'u' :: '\x7b' :: Nat.toDigits 16 c.toNat ++ ['\x7d']

/-- A string in quotes. -/
def quoted (s : String) : String :=
  String.ofList ('"' :: s.toList.flatMap quotedChar ++ ['"'])

end Rollout.Text
