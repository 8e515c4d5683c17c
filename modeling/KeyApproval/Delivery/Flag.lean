import KeyApproval.Delivery.Error
import KeyApproval.Toml.Writer

/-!
# Flags of modules

What the table of a module says about one of its flags. Only a boolean may stand under the key of a flag.
-/

namespace KeyApproval

def readFlag (key : String) (table : Toml.Table) : Except Failure (Option Bool) :=
  match table.get? key with
  | none => .ok none
  | some (.boolean b) => .ok (some b)
  | some v => .error (.ofText ("'" ++ key ++ "' must be a boolean, got " ++ v.render))

end KeyApproval
