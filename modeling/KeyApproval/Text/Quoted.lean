import KeyApproval.Text.Hex
import KeyApproval.Text.Hidden

/-!
# Quoted text in diagnostics

A text between double quotes in which every character can be told from its neighbours: quotes and
backslashes are escaped, and characters without a face are shown by number.
-/

namespace KeyApproval.Text.Quoted

def escape (c : Char) : List Char :=
  if c == '\x00' then ['\\', '0']
  else if c == '\t' then ['\\', 't']
  else if c == '\n' then ['\\', 'n']
  else if c == '\r' then ['\\', 'r']
  else if c == '"' then ['\\', '"']
  else if c == '\\' then ['\\', '\\']
  else if isHidden c then
    ['\\', 'u', '\x7b'] ++ Hex.ofNat c.toNat ++ ['\x7d']
  else [c]

def quote (s : String) : String :=
  String.ofList ('"' :: s.toList.flatMap escape ++ ['"'])

end KeyApproval.Text.Quoted
