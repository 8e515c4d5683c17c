import KeyApproval.Proofs.Lasting

/-!
# Levels of the log

An applicant logs news and warnings, and so does a call that wonders about an answer. Lines of the level
ERROR come from the delivery alone.
-/

namespace KeyApproval

/-- Anything but a line of the level ERROR. -/
def Occurrence.IsMild : Occurrence → Prop
  | .logged line => line.level ≠ .error
  | .sent _ | .emitted _ | .slept _ | .interrupted => True

namespace World

/-- Nothing of the level ERROR was logged. -/
def IsMild (w : World) : Prop := ∀ o ∈ w.trace, o.IsMild

variable {w w' : World}

theorem IsMild.append (h : w.IsMild) {added : List Occurrence} (hadded : ∀ o ∈ added, o.IsMild)
    (htrace : w'.trace = w.trace ++ added) : w'.IsMild := by
  intro o ho
  rw [htrace] at ho
  exact (List.mem_append.mp ho).elim (h o) (hadded o)

theorem IsMild.record (h : w.IsMild) {o : Occurrence} (ho : o.IsMild) : (w.record o).IsMild :=
  h.append (by simpa using ho) rfl

theorem IsMild.logAll (h : w.IsMild) {lines : List LogLine} (hlines : ∀ l ∈ lines, l.level ≠ .error) :
    (w.logAll lines).IsMild := by
  refine h.append (fun o ho => ?_) rfl
  obtain ⟨line, hline, rfl⟩ := List.mem_map.mp ho
  exact hlines line hline

theorem steady_isMild : Steady IsMild where
  emitted _ e h := h.record (o := .emitted e) trivial
  slept _ ms h := h.record (o := .slept ms) trivial
  fire w h := by
    unfold World.fire
    split
    · exact h
    · exact h.record (o := .interrupted) trivial
  advance _ _ h := h
  readClock _ h := h

end World

namespace Session

theorem lasting_isMild (c : Client) : Lasting c (·.world.IsMild) :=
  lasting_world World.steady_isMild
    (fun _ _ _ _ _ r _ h => World.IsMild.record h (o := .sent r) trivial) fun _ _ hlines h => h.logAll hlines

theorem fresh_isMild (handle : String) (w : World) : (fresh handle w).world.IsMild :=
  fun _ ho => nomatch ho

end Session

/-- A run logs no errors. -/
theorem Applicant.run_isMild (a : Applicant) (handle : String) (w : World) :
    (a.run.on (.fresh handle w)).2.world.IsMild :=
  (run_keeps (Session.lasting_isMild a.client) fun _ _ h => h).on (Session.fresh_isMild handle w)

end KeyApproval
