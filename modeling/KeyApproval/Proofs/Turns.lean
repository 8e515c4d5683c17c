import KeyApproval.Proofs.Protocol

/-!
# Turns

A step has its turn in one stage of the ticket, and after the first one it needs the number of the ticket as
well. Out of turn it says so and does nothing at all, whatever the ticket is and whether or not the token is
fired; only the collection fails a ticket that was accepted without a number. In its turn a step that ends with
an error leaves the ticket failed, or denied after a denial.
-/

namespace KeyApproval

open Step

namespace Ticket

/-- It is the turn of the move: the ticket is in its stage, with a number unless that is to be granted. -/
def Admits (t : Ticket) (m : Move) : Prop :=
  ∀ stage, m.turn = some stage → t.stage = stage ∧ (stage = .created ∨ t.id ≠ none)

/-- Why a step for that stage does not admit the ticket. One that only lacks its number counts as created. -/
def refusal (t : Ticket) (stage : Stage) : RunError :=
  if t.stage.isTerminal then .terminal t.stage
  else .outOfOrder stage (if t.stage = stage then .created else t.stage)

variable {t : Ticket} {m : Move} {stage : Stage}

theorem exists_id_of_admits (h : t.Admits m) (hturn : m.turn = some stage) (hserved : stage.IsServed) :
    ∃ id, t.id = some id :=
  Option.ne_none_iff_exists'.mp ((h stage hturn).2.resolve_left hserved.1)

/-- A ticket that is not admitted is in another stage, or it lacks its number. -/
theorem stage_ne_or_id_eq_none (hturn : m.turn = some stage) (h : ¬t.Admits m) :
    t.stage ≠ stage ∨ t.stage = stage ∧ stage ≠ .created ∧ t.id = none := by
  by_cases hstage : t.stage = stage
  · refine .inr ⟨hstage, ?_⟩
    by_contra hnumbered
    refine h fun stage' hturn' => ?_
    cases hturn.symm.trans hturn'
    exact ⟨hstage, or_iff_not_imp_left.mpr fun hcreated hid => hnumbered ⟨hcreated, hid⟩⟩
  · exact .inl hstage

end Ticket

/-- Who stops with an error in turn leaves the ticket denied by a denial, and failed by any other error. -/
theorem Stop.Leaves.settles {e : RunError} {t : Ticket} (h : (Stop.error e).Leaves t) :
    (t.stage = .failed ∧ ∀ id, e ≠ .denied id) ∨
      (t.stage = .denied ∧ ∃ id, e = .denied id ∧ t.id = some id) := by
  cases e with
  | denied id => exact .inr ⟨h.1, id, rfl, h.2⟩
  | client _ => exact .inl ⟨h, by simp⟩
  | unexpectedState _ _ => exact .inl ⟨h, by simp⟩
  | pollLimitExceeded _ _ => exact .inl ⟨h, by simp⟩
  | cancelled => exact .inl ⟨h, by simp⟩
  | terminal _ => exact h.elim
  | outOfOrder _ _ => exact h.elim
  | transition _ => exact h.elim
  | delivery _ => exact h.elim

namespace Applicant

variable {a : Applicant} {s : Session}

theorem on_pendingNumber_of_none (hstage : s.ticket.stage = .pending) (hid : s.ticket.id = none) :
    pendingNumber.on s = (.error (.error (.outOfOrder .pending .created)), s) := by
  simp [pendingNumber, Step.on_bind, on_expectStage_of_eq hstage, Step.on_get, hid, fail, Step.on_throw]

theorem on_fulfill_of_none (hstage : s.ticket.stage = .accepted) (hid : s.ticket.id = none) :
    a.fulfill.on s =
      (.error (.error (.outOfOrder .accepted .created)), s.givenUp (.outOfOrder .accepted .created)) := by
  simp [fulfill, Step.on_bind, on_expectStage_of_eq hstage, Step.on_get, hid, on_giveUp]

/-- In its stage, a move may still lack the number of the ticket. -/
theorem on_perform_of_none {m : Move} {stage : Stage} (hturn : m.turn = some stage)
    (hstage : s.ticket.stage = stage) (hcreated : stage ≠ .created) (hid : s.ticket.id = none) :
    (a.perform m).on s = (.error (.error (.outOfOrder stage .created)),
      if stage = .accepted then s.givenUp (.outOfOrder stage .created) else s) := by
  cases m with
  | create =>
    cases hturn
    contradiction
  | run =>
    cases hturn
    contradiction
  | poll =>
    cases hturn
    exact on_bind_of_error (on_bind_of_error (on_pendingNumber_of_none hstage hid))
  | awaitDecision =>
    cases hturn
    exact on_bind_of_error (on_pendingNumber_of_none hstage hid)
  | fulfill =>
    cases hturn
    exact on_bind_of_error (on_fulfill_of_none hstage hid)
  | cancel => contradiction
  | pause ms => contradiction

/-- A move that does not admit the ticket ends at once. -/
theorem on_perform_of_not_admits {m : Move} {stage : Stage} (hturn : m.turn = some stage)
    (h : ¬s.ticket.Admits m) :
    (a.perform m).on s = (.error (.error (s.ticket.refusal stage)),
      if stage = .accepted ∧ s.ticket.stage = .accepted then s.givenUp (s.ticket.refusal stage) else s) := by
  rcases Ticket.stage_ne_or_id_eq_none hturn h with hother | ⟨hstage, hcreated, hid⟩
  · have hnone : ¬(stage = .accepted ∧ s.ticket.stage = .accepted) := fun hboth =>
      hother (hboth.2.trans hboth.1.symm)
    have hrefusal : s.ticket.refusal stage = s.refusal stage := by
      rw [Ticket.refusal, Session.refusal, if_neg hother]
    rw [on_perform_of_ne hturn hother, if_neg hnone, hrefusal]
  · have hopen : ¬s.ticket.stage.isTerminal = true := fun hterminal =>
      m.turn_ne_of_isTerminal hterminal (hstage ▸ hturn)
    have hrefusal : s.ticket.refusal stage = .outOfOrder stage .created := by
      rw [Ticket.refusal, if_neg hopen, if_pos hstage]
    rw [on_perform_of_none hturn hstage hcreated hid, hrefusal, hstage]
    simp only [and_self]

/-- Whatever the ticket and the world are: a move out of turn sends nothing and tells nobody. Its error says
that the ticket is settled, or else which stage the move is for and which it met, and the session stays as it
is, but that a collection fails an accepted ticket without a number. A move in its turn that ends with an
error leaves the ticket failed, or denied if the error is the denial of its number. -/
theorem perform_refused_or_settled (a : Applicant) (m : Move) (s : Session) :
    let ending := (a.perform m).on s
    (∀ stage, m.turn = some stage → ¬s.ticket.Admits m →
      ending.1 = .error (.error (s.ticket.refusal stage)) ∧
      ending.2.world.requests = s.world.requests ∧
      World.eventsOf ending.2.world.trace = World.eventsOf s.world.trace ∧
      if stage = .accepted ∧ s.ticket.stage = .accepted then
        ending.2.ticket = { s.ticket with stage := .failed }
      else ending.2 = s) ∧
    (s.ticket.Admits m → ∀ e, ending.1 = .error (.error e) →
      (ending.2.ticket.stage = .failed ∧ ∀ id, e ≠ .denied id) ∨
        (ending.2.ticket.stage = .denied ∧ ∃ id, e = .denied id ∧ ending.2.ticket.id = some id)) := by
  intro ending
  constructor
  · intro stage hturn hout
    simp only [ending, on_perform_of_not_admits hturn hout]
    split
    next hcollect =>
      have hfailed : s.ticket.fail = { s.ticket with stage := .failed } := by
        rw [Ticket.fail, hcollect.2]
        rfl
      refine ⟨trivial, (World.idles_log s.world _ _).requests, ?_, hfailed⟩
      simp [Session.givenUp, World.log, World.record, World.eventsOf]
    next => exact ⟨trivial, rfl, rfl, rfl⟩
  · intro hadmits e he
    cases hturn : m.turn with
    | none => cases m <;> cases hturn <;> cases he
    | some stage =>
      have hleaves : (Stop.error e).Leaves ending.2.ticket :=
        (perform_leaves hturn (hadmits stage hturn).1 (Ticket.exists_id_of_admits hadmits hturn)).error rfl
          (Prod.ext he rfl)
      exact hleaves.settles

end Applicant

end KeyApproval
