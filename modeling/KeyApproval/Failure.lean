/-!
# Chains of reasons

Why something failed, as texts each of which is the cause of the one before.
-/

namespace KeyApproval

structure Failure where
  outermost : String
  causes : List String
  deriving DecidableEq

namespace Failure

def ofText (text : String) : Failure := ⟨text, []⟩

/-- The failure as the cause of something else. -/
def within (f : Failure) (context : String) : Failure := ⟨context, f.outermost :: f.causes⟩

def chain (f : Failure) : List String := f.outermost :: f.causes

def text (f : Failure) : String := ": ".intercalate f.chain

end Failure

end KeyApproval
