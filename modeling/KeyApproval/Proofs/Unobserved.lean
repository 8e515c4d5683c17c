import KeyApproval.Proofs.Parallel
import KeyApproval.Proofs.Veils

/-!
# Unobserved runs

What an observer is told has no influence on a run, as long as the observer does not fire the token. A run that
nobody observes goes side by side with one that somebody does, in worlds that differ in nothing but what the
observer was told: the same requests are sent, the ticket takes the same stages, and the same comes of it.
-/

namespace KeyApproval

open Step

variable {α : Type}

/-! ### Hushed worlds -/

def Occurrence.isEmitted : Occurrence → Bool
  | .emitted _ => true
  | .sent _ | .logged _ | .slept _ | .interrupted => false

namespace World

/-- The same world, but nothing was told to the observer. -/
def hush (w : World) : World := { w with events := 0, trace := w.trace.filter (!·.isEmitted) }

theorem hush_record {o : Occurrence} (h : o.isEmitted = false) (w : World) :
    (w.record o).hush = w.hush.record o := by
  simp [record, hush, List.filter_append, h]

theorem hush_logAll (w : World) (lines : List LogLine) : (w.logAll lines).hush = w.hush.logAll lines := by
  have hkept : (lines.map Occurrence.logged).filter (!·.isEmitted) = lines.map .logged := by
    apply List.filter_eq_self.mpr
    intro o ho
    obtain ⟨line, -, rfl⟩ := List.mem_map.mp ho
    rfl
  simp only [logAll, hush, List.filter_append, hkept]

theorem hush_sending (w : World) (r : Request) : (w.sending r).hush = w.hush.sending r := by
  simp [sending, hush, record, List.filter_append, Occurrence.isEmitted]

theorem hush_fire (w : World) : w.fire.hush = w.hush.fire := by
  by_cases hfired : w.isFired = true
  · have hfired' : w.hush.isFired = true := hfired
    rw [fire, if_pos hfired, fire, if_pos hfired']
  · have hfired' : ¬w.hush.isFired = true := hfired
    rw [fire, if_neg hfired, fire, if_neg hfired']
    simp [record, hush, List.filter_append, Occurrence.isEmitted]

theorem hush_tell {w : World} (h : w.token.fireOnEvent = none) (e : Event) : (w.tell e).hush = w.hush := by
  simp [tell, h, record, hush, List.filter_append, Occurrence.isEmitted]

/-- What the observer was told is looked at by nobody else. -/
theorem isVeil_hush : IsVeil hush where
  token _ := rfl
  nowMs _ := rfl
  script _ := rfl
  exhausted _ := rfl
  fire := hush_fire
  advance _ _ := rfl
  sending := hush_sending
  logAll := hush_logAll
  readClock _ := rfl

/-! ### Worlds with the same but for what was told -/

/-- The observer does not fire the token, and but for what was told to the observer the worlds are the
same. -/
structure Hushes (v w : World) : Prop where
  quiet : v.token.fireOnEvent = none
  same : v.hush = w.hush

theorem steady_quiet : Steady (·.token.fireOnEvent = none) where
  emitted _ _ h := h
  slept _ _ h := h
  fire w h := by
    unfold fire
    split <;> exact h
  advance _ _ h := h
  readClock _ h := h

variable {v w : World}

theorem Hushes.outcome {action : World → Arrival α × World} (h : Hushes v w) (hignores : Ignores hush action)
    (hquiet : (action v).2.token.fireOnEvent = none) :
    (action v).1 = (action w).1 ∧ Hushes (action v).2 (action w).2 := by
  have hboth := hignores v
  rw [h.same, hignores w] at hboth
  exact ⟨(congrArg Prod.fst hboth).symm, hquiet, (congrArg Prod.snd hboth).symm⟩

theorem Hushes.record (h : Hushes v w) {o : Occurrence} (ho : o.isEmitted = false) :
    Hushes (v.record o) (w.record o) where
  quiet := h.quiet
  same := by rw [hush_record ho, hush_record ho, h.same]

theorem Hushes.requests (h : Hushes v w) : v.requests = w.requests := by
  have hkept (u : World) : u.hush.requests = u.requests := by
    rw [World.requests, hush, requestsOf, List.filterMap_filter]
    refine congrArg (List.filterMap · u.trace) (funext fun o => ?_)
    cases o <;> rfl
  rw [← hkept v, h.same, hkept]

end World

open World

theorem Client.sideBySide_hushes (c : Client) : c.SideBySide (fun _ => False) Hushes c := by
  apply sideBySide_of_call
  intro α method path body decode
  refine ⟨fun _ h => h, fun v w h => .inr ?_⟩
  have hquiet : (c.call method path body decode v).2.token.fireOnEvent = none :=
    steady_quiet.call h.quiet (fun _ _ _ hv => hv) fun _ _ hv => hv
  have hignores : Ignores hush (c.call method path body decode) := fun _ => isVeil_hush.call fun _ _ => rfl
  obtain ⟨harrival, hworlds⟩ := h.outcome hignores hquiet
  refine ⟨?_, hworlds⟩
  rw [harrival]
  exact .refl (Agree.refl fun _ => rfl) _

namespace Applicant

/-- Nobody keeps in step with an observer who does not fire the token. -/
theorem inStep_unobserved (a : Applicant) :
    { a with observed := true }.InStep (fun _ => False) Hushes { a with observed := false } where
  idle _ _ _ h := h
  length _ _ h := congrArg (·.script.length) h.same
  isFired _ _ h := congrArg (·.token.fired) h.same
  log _ _ _ _ h := h.record rfl
  rest v w ms h := by
    have hslept : Hushes (v.record (.slept ms)) (w.record (.slept ms)) := h.record rfl
    obtain ⟨harrival, hworlds⟩ := hslept.outcome (isVeil_hush.wait ms) (steady_quiet.wait hslept.quiet ms)
    refine ⟨?_, hworlds⟩
    rw [harrival]
    exact .refl (fun _ => rfl) _
  tell e := {
    keeps := fun _ h => h.elim
    runs := fun _ _ _ h =>
      .inr ⟨.ok rfl, rfl, steady_quiet.tell h.quiet e, (hush_tell h.quiet e).trans h.same⟩ }
  polling := rfl

theorem run_unobserved (a : Applicant) (ticket : Ticket) {w : World} (h : w.token.fireOnEvent = none) :
    Matched Hushes Eq ({ a with observed := true }.run.on ⟨ticket, w⟩)
      ({ a with observed := false }.run.on ⟨ticket, w⟩) :=
  ((run_parallel a.inStep_unobserved a.client.sideBySide_hushes).runs ticket w w ⟨h, rfl⟩).resolve_left id

end Applicant

end KeyApproval
