import KeyApproval.Proofs.Faults

/-!
# How a run is concluded

A run of an applicant leaves its ticket in the stage that belongs to its result, and it leaves the ticket
open only if it never ends. The steps of a run are in their turn, so a run does not end with an error about
turns, and neither does a whole run that goes on with its result.
-/

namespace KeyApproval

/-- An error of a step that was not in its turn. -/
def RunError.isOutOfTurn : RunError → Bool
  | terminal _ | outOfOrder .. | transition _ => true
  | client _ | denied _ | unexpectedState .. | pollLimitExceeded .. | cancelled | delivery _ => false

/-- The result of a run and the stage of its ticket say the same. -/
structure Ticket.Agrees (t : Ticket) (result : Except Stop String) : Prop where
  hung_iff : result = .error .hung ↔ t.stage.isTerminal = false
  ok_iff : (∃ secret, result = .ok secret) ↔ t.stage = .fulfilled
  denied_iff : (∃ id, result = .error (.error (.denied id))) ↔ t.stage = .denied
  failed_iff : (∃ e, (∀ id, e ≠ .denied id) ∧ result = .error (.error e)) ↔ t.stage = .failed
  inTurn : ∀ e, result = .error (.error e) → e.isOutOfTurn = false

namespace Ticket

variable {t : Ticket}

theorem agrees_of_fulfilled (h : t.stage = .fulfilled) (secret : String) : t.Agrees (.ok secret) where
  hung_iff := by simp [h, Stage.isTerminal]
  ok_iff := by simp [h]
  denied_iff := by simp [h]
  failed_iff := by simp [h]
  inTurn := nofun

theorem agrees_of_denied (h : t.stage = .denied) (id : UInt64) :
    t.Agrees (.error (.error (.denied id))) where
  hung_iff := by simp [h, Stage.isTerminal]
  ok_iff := by simp [h]
  denied_iff := by simp [h]
  failed_iff := by simp [h]
  inTurn := by
    rintro e ⟨⟩
    rfl

theorem agrees_of_failed (h : t.stage = .failed) {e : RunError} (hdenied : ∀ id, e ≠ .denied id)
    (hturn : e.isOutOfTurn = false) : t.Agrees (.error (.error e)) where
  hung_iff := by simp [h, Stage.isTerminal]
  ok_iff := by simp [h]
  denied_iff := by simp [h, hdenied]
  failed_iff := by simp [h, hdenied]
  inTurn := by
    rintro e ⟨⟩
    exact hturn

theorem agrees_of_open (h : t.stage.isTerminal = false) : t.Agrees (.error .hung) where
  hung_iff := by simp [h]
  ok_iff := by cases hstage : t.stage <;> simp_all [Stage.isTerminal]
  denied_iff := by cases hstage : t.stage <;> simp_all [Stage.isTerminal]
  failed_iff := by cases hstage : t.stage <;> simp_all [Stage.isTerminal]
  inTurn := nofun

end Ticket

theorem Stop.Leaves.agrees {t : Ticket} {stop : Stop} (h : stop.Leaves t) : t.Agrees (.error stop) := by
  rcases stop with e | _
  · cases e with
    | denied id => exact Ticket.agrees_of_denied h.1 id
    | client _ => exact Ticket.agrees_of_failed h nofun rfl
    | unexpectedState _ _ => exact Ticket.agrees_of_failed h nofun rfl
    | pollLimitExceeded _ _ => exact Ticket.agrees_of_failed h nofun rfl
    | cancelled => exact Ticket.agrees_of_failed h nofun rfl
    | terminal _ => exact h.elim
    | outOfOrder _ _ => exact h.elim
    | transition _ => exact h.elim
    | delivery _ => exact h.elim
  · exact Ticket.agrees_of_open h

namespace Handover

variable {σ : Type} [Sink σ]

theorem inTurn_of_close {o : Outcome σ} {e : RunError}
    (hbefore : ∀ e, o.error? = some e → e.isOutOfTurn = false)
    (h : errorOf (close o).result = some e) : e.isOutOfTurn = false := by
  rw [errorOf_close, Option.or_eq_some_iff] at h
  rcases h with h | ⟨-, h⟩
  · exact hbefore e h
  · obtain ⟨f, -, rfl⟩ := Option.map_eq_some_iff.mp h
    rfl

/-- What the modules do never makes an error about turns, and a ticket has a number when there is a secret
to be delivered. -/
theorem Course.inTurn {a : Applicant} {handle : String} {registry : Registry σ} {world : World}
    {report : Report σ} (h : Course a handle registry world report) {e : RunError}
    (herror : errorOf report.result = some e) : e.isOutOfTurn = false := by
  cases h with
  | unstarted =>
    refine inTurn_of_close ?_ herror
    rintro _ ⟨⟩
    rfl
  | reported _ hrun =>
    refine inTurn_of_close ?_ herror
    rintro _ ⟨⟩
    exact (Applicant.run_meets.error (s := .fresh handle world) rfl hrun).agrees.inTurn _ rfl
  | @delivered secret s _ hrun =>
    obtain ⟨id, hs⟩ := Applicant.run_meets.ok (s := .fresh handle world) rfl hrun
    refine inTurn_of_close (fun e' he' => ?_) herror
    have hfault :=
      (error?_succeed (s := ⟨s.ticket, { s.world with trace := [] }⟩) secret _ hs.2).symm.trans he'
    obtain ⟨f, -, rfl⟩ := Option.map_eq_some_iff.mp hfault
    rfl
  | hung => exact nomatch herror

end Handover

/-- A run of a request that was not made yet, whatever number it carries, leaves a ticket that agrees with
its result; the number of a secret or of a denial is the one that the server granted. A whole run never
ends with an error about turns, so it never misses the number of a ticket whose secret was delivered. -/
theorem Applicant.run_concludes {σ : Type} [Sink σ] (a : Applicant) (number : Option UInt64)
    (handle : String) (w : World) :
    let ending := a.run.on ⟨⟨number, handle, .created⟩, w⟩
    let t := ending.2.ticket
    t.Agrees ending.1 ∧
      (∀ id, ending.1 = .error (.error (.denied id)) → t.id = some id ∧ w.Grants id) ∧
      (∀ secret, ending.1 = .ok secret → ∃ id, t.id = some id ∧ w.Grants id) ∧
      ∀ (registry : Registry σ) (e : RunError),
        (Handover.run a handle registry w).result = .error (.error e) → e.isOutOfTurn = false := by
  intro ending t
  refine ⟨?_, ?_, ?_, fun registry _ h =>
    (Handover.course_run a handle registry w).inTurn (errorOf_eq_some_iff.mpr h)⟩ <;>
    simp only [ending, t] <;>
    rcases hrun : a.run.on ⟨⟨number, handle, .created⟩, w⟩ with ⟨stop | secret, s⟩
  · exact ((run_grants w).error ⟨rfl, rfl⟩ hrun).1.agrees
  · obtain ⟨id, hs, -⟩ := (run_grants w).ok ⟨rfl, rfl⟩ hrun
    exact Ticket.agrees_of_fulfilled hs.1 secret
  · obtain ⟨hleaves, hgranted⟩ := (run_grants w).error ⟨rfl, rfl⟩ hrun
    rintro id ⟨⟩
    exact ⟨hleaves.2, hgranted id rfl⟩
  · exact nofun
  · exact nofun
  · obtain ⟨id, hs, hgranted⟩ := (run_grants w).ok ⟨rfl, rfl⟩ hrun
    exact fun _ _ => ⟨id, hs.2, hgranted⟩

end KeyApproval
