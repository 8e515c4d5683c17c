import KeyApproval.Proofs.Answers
import KeyApproval.Proofs.Lasting

/-!
# How a step leaves the ticket

A step that starts in its turn moves the ticket on, or it stops and leaves the ticket settled: denied after
a denial, failed after every other error, and open only when it never ends. An error of a step that is out
of turn cannot come up then, so a run of a fresh ticket never ends with one. The number that it ends with
was granted by the server.
-/

namespace KeyApproval

/-- The ticket is what a stop of this kind leaves behind, if the step was in its turn. -/
def Stop.Leaves (stop : Stop) (t : Ticket) : Prop :=
  match stop with
  | .hung => t.stage.isTerminal = false
  | .error (.denied id) => t.stage = .denied ∧ t.id = some id
  | .error (.terminal _) | .error (.outOfOrder ..) | .error (.transition _) | .error (.delivery _) => False
  | .error (.client _) | .error (.unexpectedState ..) | .error (.pollLimitExceeded ..)
  | .error .cancelled => t.stage = .failed

def Session.Holds (stage : Stage) (id : UInt64) (s : Session) : Prop :=
  s.ticket.stage = stage ∧ s.ticket.id = some id

namespace Applicant

open Step

variable {α β : Type} {a : Applicant} {P : Session → Prop} {E : Stop → Session → Prop}

/-! ### Building blocks -/

theorem stage_fail {t : Ticket} (h : t.stage.isTerminal = false) : t.fail.stage = .failed := by
  simp [Ticket.fail, h]

/-- What looks at the session may be shown for the ticket that it finds. -/
theorem getTicket_meets {g : Session → Step β} {Q : β → Session → Prop}
    (h : ∀ s, P s → (g s).Meets (·.ticket = s.ticket) Q E) : (get >>= g).Meets P Q E :=
  Meets.get fun s hs => (h s hs).pre (by rintro _ rfl; rfl)

theorem logLine_meets {t : Ticket} (level : Level) (text : String) :
    (logLine level text).Meets (·.ticket = t) (fun _ s => s.ticket = t) E :=
  Meets.modify fun _ h => h

theorem tell_meets {t : Ticket} (e : Event) :
    (a.tell e).Meets (·.ticket = t) (fun _ s => s.ticket = t) E := by
  unfold tell
  split
  · exact Meets.modify fun _ h => h
  · exact Meets.pure fun _ h => h

theorem moveTo_meets {t : Ticket} {next : Stage} (h : t.stage.canBecome next = true) :
    (a.moveTo next).Meets (·.ticket = t) (fun _ s => s.ticket = { t with stage := next }) E := by
  intro s hs
  subst hs
  rw [on_moveTo h]
  exact tell_meets _ _ rfl

theorem expectStage_meets {stage : Stage} (h : ∀ s, P s → s.ticket.stage = stage) :
    (expectStage stage).Meets P (fun _ => P) E := by
  intro s hs
  rw [on_expectStage_of_eq (h s hs)]
  exact hs

theorem pendingNumber_meets {t : Ticket} {id : UInt64} (hstage : t.stage = .pending)
    (hid : t.id = some id) :
    pendingNumber.Meets (·.ticket = t) (fun n s => n = id ∧ s.ticket = t) E := by
  intro s hs
  subst hs
  rw [on_pendingNumber hstage hid]
  exact ⟨rfl, rfl⟩

theorem giveUp_meets {t : Ticket} {e : RunError} {Q : α → Session → Prop}
    (hopen : t.stage.isTerminal = false)
    (he : t.fail.stage = .failed → (Stop.error e).Leaves t.fail) :
    (giveUp e : Step α).Meets (·.ticket = t) Q (fun e s => e.Leaves s.ticket) := by
  intro s hs
  subst hs
  rw [on_giveUp]
  exact he (stage_fail hopen)

/-- A call leaves an open ticket as it is, or fails it. -/
theorem ask_meets {t : Ticket} (hopen : t.stage.isTerminal = false)
    (action : World → Arrival (Except ClientError α) × World) :
    (ask action).Meets (·.ticket = t) (fun _ s => s.ticket = t) (fun e s => e.Leaves s.ticket) := by
  intro s hs
  subst hs
  have hfailed := stage_fail hopen
  cases hfired : s.world.isFired with
  | true =>
    rw [on_ask_of_fired action hfired]
    exact hfailed
  | false =>
    rw [on_ask action hfired]
    rcases action s.world with ⟨(_ | _) | _ | _, w⟩
    · exact hfailed
    · rfl
    · exact hfailed
    · exact hopen

theorem sleep_meets {t : Ticket} (hopen : t.stage.isTerminal = false) :
    a.sleep.Meets (·.ticket = t) (fun _ s => s.ticket = t) (fun e s => e.Leaves s.ticket) := by
  apply sleep_of_idles
  · exact fun s w hs _ => hs
  · rintro s w rfl -
    exact stage_fail hopen

/-! ### The steps -/

theorem create_meets :
    a.create.Meets (·.ticket.stage = .created) (fun _ s => ∃ id, s.Holds .pending id)
      (fun e s => e.Leaves s.ticket) := by
  refine Meets.bind (expectStage_meets fun _ h => h) fun _ => ?_
  apply getTicket_meets
  intro s hs
  refine Meets.bind (logLine_meets _ _) fun _ => ?_
  apply Meets.bind (ask_meets (by rw [hs]; rfl) _)
  intro id
  refine Meets.bind (Meets.modify (Q := fun _ t => t.ticket = { s.ticket with id := some id }) ?_)
    fun _ => ?_
  · intro t ht
    rw [← ht]
  · apply (moveTo_meets (by rw [hs]; rfl)).post
    intro _ t ht
    exact ⟨id, by rw [ht], by rw [ht]⟩

theorem poll_meets {t : Ticket} {id : UInt64} (hstage : t.stage = .pending) (hid : t.id = some id) :
    a.poll.Meets (·.ticket = t) (fun stage s => s.ticket = { t with stage } ∧
        (stage = .pending ∨ stage = .accepted ∨ stage = .denied))
      (fun e s => e.Leaves s.ticket) := by
  have hopen : t.stage.isTerminal = false := by rw [hstage]; rfl
  apply Meets.bind (pendingNumber_meets hstage hid)
  intro n
  apply Meets.bind ((ask_meets hopen (a.client.inquire n)).pre fun _ h => h.2)
  intro stage
  have hmove (next : Stage) (hnext : Stage.pending.canBecome next = true)
      (hkind : next = .pending ∨ next = .accepted ∨ next = .denied) :
      (do a.moveTo next; pure next : Step Stage).Meets (·.ticket = t)
        (fun stage s => s.ticket = { t with stage } ∧
          (stage = .pending ∨ stage = .accepted ∨ stage = .denied))
        (fun e s => e.Leaves s.ticket) :=
    Meets.bind (moveTo_meets (by rw [hstage]; exact hnext)) fun _ =>
      Meets.pure fun s hs => ⟨hs, hkind⟩
  cases stage with
  | pending => exact Meets.pure fun s hs => ⟨by rw [hs, ← hstage], .inl rfl⟩
  | accepted => exact hmove .accepted rfl (.inr (.inl rfl))
  | denied => exact hmove .denied rfl (.inr (.inr rfl))
  | created => exact giveUp_meets hopen fun h => h
  | fulfilled => exact giveUp_meets hopen fun h => h
  | failed => exact giveUp_meets hopen fun h => h

theorem pollFrom_meets (id : UInt64) (answers : Nat) (attempts : UInt32) :
    (a.pollFrom id answers attempts).Meets (Session.Holds .pending id)
      (fun _ s => s.Holds .accepted id) (fun e s => e.Leaves s.ticket) := by
  induction answers generalizing attempts with
  | zero =>
    refine Meets.throw fun s hs => ?_
    rw [Stop.Leaves, hs.1]
    rfl
  | succ answers ih =>
    rw [pollFrom]
    intro s hs
    have hopen : s.ticket.stage.isTerminal = false := by rw [hs.1]; rfl
    refine Meets.bind (poll_meets hs.1 hs.2) (fun stage => ?_) s rfl
    cases stage with
    | denied =>
      refine Meets.bind ((logLine_meets _ _).pre fun _ h => h.1) fun _ => ?_
      apply Meets.throw
      intro t ht
      exact ⟨by rw [ht], by rw [ht]; exact hs.2⟩
    | accepted =>
      apply Meets.pure
      rintro t ⟨ht, -⟩
      exact ⟨by rw [ht], by rw [ht]; exact hs.2⟩
    | pending =>
      have hsame : ∀ t : Session, (t.ticket = { s.ticket with stage := .pending } ∧
          (Stage.pending = .pending ∨ Stage.pending = .accepted ∨ Stage.pending = .denied)) →
          t.ticket = s.ticket := by
        rintro t ⟨ht, -⟩
        rw [ht, ← hs.1]
      dsimp only
      split
      · refine Meets.bind ((tell_meets _).pre hsame) fun _ => ?_
        refine Meets.bind (sleep_meets hopen) fun _ => ?_
        apply (ih _).pre
        intro t ht
        exact ⟨by rw [ht, hs.1], by rw [ht, hs.2]⟩
      · refine Meets.pre (giveUp_meets hopen ?_) hsame
        exact fun h => h
    | created => exact Meets.pure fun _ h => by simp at h
    | fulfilled => exact Meets.pure fun _ h => by simp at h
    | failed => exact Meets.pure fun _ h => by simp at h

theorem awaitDecision_meets (id : UInt64) :
    a.awaitDecision.Meets (Session.Holds .pending id) (fun _ s => s.Holds .accepted id)
      (fun e s => e.Leaves s.ticket) := by
  intro s hs
  have hopen : s.ticket.stage.isTerminal = false := by rw [hs.1]; rfl
  refine Meets.bind (pendingNumber_meets hs.1 hs.2) (fun n => ?_) s rfl
  split
  · apply getTicket_meets
    rintro t ⟨rfl, ht⟩
    apply (pollFrom_meets n _ 0).pre
    intro u hu
    exact ⟨by rw [hu, ht, hs.1], by rw [hu, ht, hs.2]⟩
  · refine Meets.pre (giveUp_meets hopen ?_) fun _ h => h.2
    exact fun h => h

theorem fulfill_meets (id : UInt64) :
    a.fulfill.Meets (Session.Holds .accepted id) (fun _ s => s.Holds .fulfilled id)
      (fun e s => e.Leaves s.ticket) := by
  refine Meets.bind (expectStage_meets fun _ h => h.1) fun _ => ?_
  apply getTicket_meets
  intro s hs
  rw [hs.2]
  apply Meets.bind (ask_meets (by rw [hs.1]; rfl) _)
  intro secret
  refine Meets.bind (moveTo_meets (by rw [hs.1]; rfl)) fun _ => ?_
  refine Meets.bind (logLine_meets _ _) fun _ => ?_
  apply Meets.pure
  intro t ht
  exact ⟨by rw [ht], by rw [ht]; exact hs.2⟩

/-- A run of a fresh ticket leaves it fulfilled, or settled. -/
theorem run_meets :
    a.run.Meets (·.ticket.stage = .created) (fun _ s => ∃ id, s.Holds .fulfilled id)
      (fun e s => e.Leaves s.ticket) := by
  refine Meets.bind create_meets fun _ s ⟨id, hs⟩ => ?_
  refine Meets.bind (awaitDecision_meets id) (fun _ => ?_) s hs
  exact (fulfill_meets id).post fun _ t ht => ⟨id, ht⟩

end Applicant

/-! ### The number -/

/-- The server's first answer grants the number. -/
def World.Grants (w : World) (id : UInt64) : Prop :=
  ∃ step ∈ w.script.head?, ∃ answer, step.reply = some (.ok answer) ∧ answer.Grants id

namespace Applicant

open Step

variable {α : Type} {a : Applicant}

/-- The number of a ticket that is pending was granted, whatever number it had before. -/
theorem create_grants (w : World) :
    a.create.Meets (fun s => s.ticket.stage = .created ∧ s.world.script = w.script)
      (fun _ s => ∃ id, s.Holds .pending id ∧ w.Grants id) (fun _ s => s.ticket.stage ≠ .denied) := by
  refine Meets.bind (expectStage_meets fun _ h => h.1) fun _ => ?_
  apply Meets.get
  rintro s ⟨hstage, hscript⟩
  have hfailed (v : World) (e : RunError) : (Session.givenUp ⟨s.ticket, v⟩ e).ticket.stage ≠ .denied := by
    rw [Session.givenUp, stage_fail (by rw [hstage]; rfl)]
    nofun
  refine Meets.bind (Q := fun _ t => t.ticket = s.ticket ∧ t.world.script = w.script)
    (Meets.modify ?_) fun _ => ?_
  · rintro t rfl
    exact ⟨rfl, hscript⟩
  rw [Client.requestKey_eq]
  refine Meets.bind (Q := fun id t => t.ticket = s.ticket ∧ w.Grants id) ?_ fun id => ?_
  · apply ask_of_sends
    · rintro t v e ⟨ht, -⟩ -
      rw [ht]
      exact hfailed v e
    · rintro t r v e ⟨ht, -⟩ -
      rw [ht]
      exact hfailed v e
    · rintro t r v id ⟨ht, hscript⟩ - ⟨step, hstep, answer, hreply, hid⟩
      rw [hscript] at hstep
      exact ⟨ht, step, hstep, answer, hreply, Client.decodeId_eq_ok_iff.mp hid⟩
    · rintro t r v ⟨ht, -⟩ - -
      rw [ht, hstage]
      nofun
  · apply Meets.bind (Q := fun _ t => t.ticket = { s.ticket with id := some id } ∧ w.Grants id)
    · exact Meets.modify fun t ht => ⟨by rw [← ht.1], ht.2⟩
    · intro _ t ht
      rw [on_moveTo (by rw [ht.1, hstage]; rfl)]
      refine tell_of_idles (I := fun u => ∃ id, u.Holds .pending id ∧ w.Grants id) _
        (fun u v hu _ => hu) _ ?_
      exact ⟨id, ⟨rfl, by rw [ht.1]⟩, ht.2⟩

/-- What starts with a granted number ends with no other, in whatever way. -/
theorem keeps_granted {x : Step α} {stage stage' : Stage} {id : UInt64} {w : World}
    (hgranted : w.Grants id)
    (hmeets : x.Meets (Session.Holds stage id) (fun _ s => s.Holds stage' id)
      (fun e s => e.Leaves s.ticket))
    (hkeeps : x.Keeps (·.ticket.id = some id)) :
    x.Meets (Session.Holds stage id) (fun _ s => s.Holds stage' id)
      (fun e s => e.Leaves s.ticket ∧ ∀ n, e = .error (.denied n) → w.Grants n) := by
  refine (hmeets.and hkeeps).mono (fun s hs => ⟨hs, hs.2⟩) (fun _ s hs => hs.1) ?_
  rintro e s ⟨hleaves, hid⟩
  refine ⟨hleaves, ?_⟩
  rintro n rfl
  obtain rfl : n = id := Option.some.inj (hleaves.2.symm.trans hid)
  exact hgranted

/-- The number that a run leaves, or that it was denied, is the one that the server granted. -/
theorem run_grants (w : World) :
    a.run.Meets (fun s => s.ticket.stage = .created ∧ s.world.script = w.script)
      (fun _ s => ∃ id, s.Holds .fulfilled id ∧ w.Grants id)
      (fun e s => e.Leaves s.ticket ∧ ∀ id, e = .error (.denied id) → w.Grants id) := by
  have hcreate : a.create.Meets (fun s => s.ticket.stage = .created ∧ s.world.script = w.script)
      (fun _ s => ∃ id, s.Holds .pending id ∧ w.Grants id)
      (fun e s => e.Leaves s.ticket ∧ ∀ id, e = .error (.denied id) → w.Grants id) := by
    refine (create_meets.and (create_grants w)).mono (fun s hs => ⟨hs.1, hs⟩) (fun _ s hs => hs.2) ?_
    rintro e s ⟨hleaves, hother⟩
    refine ⟨hleaves, ?_⟩
    rintro id rfl
    exact absurd hleaves.1 hother
  refine Meets.bind hcreate fun _ s ⟨id, hs, hgranted⟩ => ?_
  have hnumber := Session.lasting_number a.client id
  have hawait := keeps_granted hgranted (awaitDecision_meets id) (awaitDecision_keeps hnumber.toEnduring)
  have hfulfill := keeps_granted hgranted (fulfill_meets id) (fulfill_keeps hnumber)
  exact Meets.bind hawait (fun _ => hfulfill.post fun _ t ht => ⟨id, ht, hgranted⟩) s hs

end Applicant

end KeyApproval
