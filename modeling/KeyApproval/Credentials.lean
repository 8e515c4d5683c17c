import KeyApproval.Text.Quoted
import KeyApproval.Text.Split

/-!
# Credentials

Who signs the requests. The secret takes part in signatures only; the text that describes credentials is
the same for every secret.
-/

namespace KeyApproval

structure Credentials where
  username : String
  secret : String
  deriving DecidableEq

def Credentials.describe (c : Credentials) : String :=
  "Credentials " ++
    Text.braced (" username: " ++ Text.Quoted.quote c.username ++ ", secret: \"[REDACTED]\" ")

end KeyApproval
