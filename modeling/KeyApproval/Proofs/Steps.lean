import KeyApproval.Proofs.Traffic
import KeyApproval.Run.Applicant

/-!
# What a step guarantees

A step takes a session to a value or a stop and to another session. A guarantee says where it may end from
sessions of one kind; guarantees of steps in a row come from the guarantees of each, so that what a whole
run guarantees is put together from what its calls, its sleeps and its moves of the ticket do.
-/

namespace KeyApproval

variable {α β : Type}

/-! ### Running a step -/

namespace Step

theorem on_pure (a : α) (s : Session) : (pure a : Step α).on s = (.ok a, s) := rfl

theorem on_throw (e : Stop) (s : Session) : (throw e : Step α).on s = (.error e, s) := rfl

theorem on_get (s : Session) : (get : Step Session).on s = (.ok s, s) := rfl

theorem on_modify (f : Session → Session) (s : Session) :
    (modify f : Step Unit).on s = (.ok (), f s) := rfl

theorem on_set (t s : Session) : (set t : Step Unit).on s = (.ok (), t) := rfl

theorem on_bind (x : Step α) (f : α → Step β) (s : Session) :
    (x >>= f).on s = match x.on s with
      | (.ok a, t) => (f a).on t
      | (.error e, t) => (.error e, t) := by
  change (match x.on s with | (r, t) => (ExceptT.bindCont f r).run t) = _
  rcases x.on s with ⟨r, t⟩
  cases r <;> rfl

theorem on_bind_of_ok {x : Step α} {f : α → Step β} {s t : Session} {a : α}
    (h : x.on s = (.ok a, t)) : (x >>= f).on s = (f a).on t := by
  rw [on_bind, h]

theorem on_bind_of_error {x : Step α} {f : α → Step β} {s t : Session} {e : Stop}
    (h : x.on s = (.error e, t)) : (x >>= f).on s = (.error e, t) := by
  rw [on_bind, h]

/-! ### Guarantees -/

/-- From every session in `P` the step ends with a value in `Q` or stops in `E`. -/
def Meets (P : Session → Prop) (x : Step α) (Q : α → Session → Prop)
    (E : Stop → Session → Prop) : Prop :=
  ∀ s, P s → match x.on s with
    | (.ok a, t) => Q a t
    | (.error e, t) => E e t

/-- The step keeps `I`, however it ends. -/
def Keeps (I : Session → Prop) (x : Step α) : Prop := x.Meets I (fun _ => I) (fun _ => I)

namespace Meets

variable {P P' : Session → Prop} {x : Step α} {f : α → Step β} {Q Q' : α → Session → Prop}
  {R : β → Session → Prop} {E E' : Stop → Session → Prop}

theorem ok (h : x.Meets P Q E) {s t : Session} {a : α} (hs : P s) (hx : x.on s = (.ok a, t)) :
    Q a t := by
  have := h s hs
  rwa [hx] at this

theorem error (h : x.Meets P Q E) {s t : Session} {e : Stop} (hs : P s)
    (hx : x.on s = (.error e, t)) : E e t := by
  have := h s hs
  rwa [hx] at this

theorem mono (h : x.Meets P Q E) (hP : ∀ s, P' s → P s) (hQ : ∀ a s, Q a s → Q' a s)
    (hE : ∀ e s, E e s → E' e s) : x.Meets P' Q' E' := by
  intro s hs
  have hend := h s (hP s hs)
  rcases hx : x.on s with ⟨r, t⟩
  rw [hx] at hend
  cases r with
  | ok a => exact hQ a t hend
  | error e => exact hE e t hend

theorem pre (h : x.Meets P Q E) (hP : ∀ s, P' s → P s) : x.Meets P' Q E :=
  fun s hs => h s (hP s hs)

theorem post (h : x.Meets P Q E) (hQ : ∀ a s, Q a s → Q' a s) : x.Meets P Q' E :=
  h.mono (fun _ => id) hQ (fun _ _ => id)

theorem and {Q₂ : α → Session → Prop} {E₂ : Stop → Session → Prop} (h : x.Meets P Q E)
    (h' : x.Meets P' Q₂ E₂) :
    x.Meets (fun s => P s ∧ P' s) (fun a s => Q a s ∧ Q₂ a s) (fun e s => E e s ∧ E₂ e s) := by
  intro s hs
  have hend := h s hs.1
  have hend' := h' s hs.2
  rcases hx : x.on s with ⟨r, t⟩
  rw [hx] at hend hend'
  cases r with
  | ok a => exact ⟨hend, hend'⟩
  | error e => exact ⟨hend, hend'⟩

/-- A fact that does not depend on the session may be used from the start. -/
theorem given {p : Prop} (h : p → x.Meets P Q E) : x.Meets (fun s => p ∧ P s) Q E :=
  fun s hs => h hs.1 s hs.2

theorem bind (hx : x.Meets P Q E) (hf : ∀ a, (f a).Meets (Q a) R E) : (x >>= f).Meets P R E := by
  intro s hs
  have hend := hx s hs
  rw [on_bind]
  rcases h : x.on s with ⟨r, t⟩
  rw [h] at hend
  cases r with
  | ok a => exact hf a t hend
  | error e => exact hend

theorem pure {a : α} (h : ∀ s, P s → Q a s) : (Pure.pure a : Step α).Meets P Q E := h

theorem throw {e : Stop} (h : ∀ s, P s → E e s) : (MonadExcept.throw e : Step α).Meets P Q E := h

theorem modify {g : Session → Session} {Q : Unit → Session → Prop} (h : ∀ s, P s → Q () (g s)) :
    (modify g : Step Unit).Meets P Q E := h

/-- What depends on the session at hand may be shown for each session by itself. -/
theorem get {g : Session → Step β} (h : ∀ s, P s → (g s).Meets (· = s) R E) :
    ((MonadState.get : Step Session) >>= g).Meets P R E := by
  intro s hs
  rw [on_bind, show (MonadState.get : Step Session).on s = (.ok s, s) from rfl]
  exact h s hs s rfl

end Meets

namespace Keeps

variable {I : Session → Prop} {x : Step α}

theorem on (h : x.Keeps I) {s : Session} (hs : I s) : I (x.on s).2 := by
  rcases hx : x.on s with ⟨e | a, t⟩
  · exact h.error hs hx
  · exact h.ok hs hx

end Keeps

end Step

/-! ### The building blocks of an applicant's steps -/

namespace Session

/-- A session in which a ticket is fresh. The trace begins anew. -/
def fresh (handle : String) (w : World) : Session := ⟨Ticket.new handle, { w with trace := [] }⟩

/-- The session after its ticket is given up with an error. -/
def givenUp (s : Session) (e : RunError) : Session :=
  ⟨s.ticket.fail, s.world.log .warn ("Key request '" ++ s.ticket.handle ++ "' failed: " ++ e.message)⟩

/-- The token was not fired yet, one request of that method was sent for that path, and the world has idled
since. -/
structure Sends (c : Client) (method : Http.Method) (path : String) (s : Session) (r : Request)
    (w : World) : Prop where
  calm : s.world.isFired = false
  method_eq : r.method = method
  url_eq : c.baseUrl.join path = .ok r.url
  idle : (s.world.sending r).Idles w

theorem Sends.requests_eq {c : Client} {method : Http.Method} {path : String} {s : Session} {r : Request}
    {w : World} (h : s.Sends c method path r w) : w.requests = s.world.requests ++ [r] := by
  rw [h.idle.requests]
  exact World.requests_record_sent s.world r

/-- Why a step that expects another stage does nothing. -/
def refusal (s : Session) (expected : Stage) : RunError :=
  if s.ticket.stage.isTerminal then .terminal s.ticket.stage
  else .outOfOrder expected s.ticket.stage

end Session

namespace Applicant

theorem on_giveUp (e : RunError) (s : Session) :
    (giveUp e : Step α).on s = (.error (.error e), s.givenUp e) := rfl

theorem on_expectStage_of_eq {s : Session} {expected : Stage} (h : s.ticket.stage = expected) :
    (expectStage expected).on s = (.ok (), s) := by
  simp [expectStage, Step.on_bind, Step.on_get, Step.on_pure, h]

theorem on_expectStage_of_ne {s : Session} {expected : Stage} (h : s.ticket.stage ≠ expected) :
    (expectStage expected).on s = (.error (.error (s.refusal expected)), s) := by
  by_cases ht : s.ticket.stage.isTerminal = true <;>
    simp [expectStage, Step.on_bind, Step.on_get, Session.refusal, fail, Step.on_throw, h, ht]

theorem on_pendingNumber {s : Session} {id : UInt64} (hstage : s.ticket.stage = .pending)
    (hid : s.ticket.id = some id) : pendingNumber.on s = (.ok id, s) := by
  simp [pendingNumber, Step.on_bind, on_expectStage_of_eq hstage, Step.on_get, hid, Step.on_pure]

theorem on_moveTo {a : Applicant} {next : Stage} {s : Session}
    (h : s.ticket.stage.canBecome next = true) :
    (a.moveTo next).on s =
      (a.tell (.stateChanged s.ticket.id s.ticket.stage next)).on
        ⟨{ s.ticket with stage := next }, s.world⟩ := by
  simp [moveTo, Step.on_bind, Step.on_get, Step.on_modify, Ticket.move, h]

theorem on_moveTo_of_not {a : Applicant} {next : Stage} {s : Session}
    (h : ¬s.ticket.stage.canBecome next = true) :
    (a.moveTo next).on s = (.error (.error (.transition ⟨s.ticket.stage, next⟩)), s) := by
  simp [moveTo, Step.on_bind, Step.on_get, fail, Step.on_throw, Ticket.move, h]

/-- How a call ends, once its action has ended. -/
def settle {β : Type} (ticket : Ticket) :
    Arrival (Except ClientError β) × World → Except Stop β × Session
  | (.value (.ok b), w) => (.ok b, ⟨ticket, w⟩)
  | (.value (.error e), w) => (.error (.error (.client e)), Session.givenUp ⟨ticket, w⟩ (.client e))
  | (.interrupted, w) => (.error (.error .cancelled), Session.givenUp ⟨ticket, w⟩ .cancelled)
  | (.never, w) => (.error .hung, ⟨ticket, w⟩)

theorem on_ask_of_fired (action : World → Arrival (Except ClientError α) × World) {s : Session}
    (h : s.world.isFired = true) :
    (ask action).on s = (.error (.error .cancelled), s.givenUp .cancelled) := by
  simp [ask, Step.on_bind, Step.on_get, h, on_giveUp]

theorem on_ask (action : World → Arrival (Except ClientError α) × World) {s : Session}
    (h : s.world.isFired = false) : (ask action).on s = settle s.ticket (action s.world) := by
  rcases haction : action s.world with ⟨arrival, w⟩
  simp only [ask, Step.on_bind, Step.on_get, h, Bool.false_eq_true, if_false, haction, Step.on_set]
  rcases arrival with (_ | _) | _ | _ <;> rfl

theorem on_sleep_of_fired {a : Applicant} {s : Session} (h : s.world.isFired = true) :
    a.sleep.on s = (.error (.error .cancelled), s.givenUp .cancelled) := by
  simp [sleep, Step.on_bind, Step.on_get, h, on_giveUp]

theorem on_sleep {a : Applicant} {s : Session} (h : s.world.isFired = false) :
    a.sleep.on s =
      match (s.world.record (.slept a.polling.intervalMs)).wait a.polling.intervalMs with
      | (.value (), w) => (.ok (), ⟨s.ticket, w⟩)
      | (.interrupted, w) => (.error (.error .cancelled), Session.givenUp ⟨s.ticket, w⟩ .cancelled)
      | (.never, w) => (.error .hung, ⟨s.ticket, w⟩) := by
  simp only [sleep, Step.on_bind, Step.on_get, h, Bool.false_eq_true, if_false, Step.on_set]
  rcases (s.world.record (.slept a.polling.intervalMs)).wait a.polling.intervalMs with
    ⟨_ | _ | _, w⟩ <;> rfl

/-! ### What the building blocks guarantee -/

section Guarantees

variable {a : Applicant} {P I : Session → Prop} {E : Stop → Session → Prop}

theorem tell_of_idles (e : Event) (h : ∀ s w, I s → s.world.Idles w → I ⟨s.ticket, w⟩) :
    (a.tell e).Meets I (fun _ => I) E := by
  unfold tell
  split
  · exact Step.Meets.modify fun s hs => h s _ hs (World.idles_tell _ _)
  · exact Step.Meets.pure fun _ h => h

/-- The sleep comes to its end, or it is cancelled. -/
theorem sleep_of_idles {Q : Unit → Session → Prop}
    (hslept : ∀ s w, P s → s.world.Idles w → Q () ⟨s.ticket, w⟩)
    (hcancelled : ∀ s w, P s → s.world.Idles w →
      E (.error .cancelled) (Session.givenUp ⟨s.ticket, w⟩ .cancelled)) : a.sleep.Meets P Q E := by
  intro s hs
  cases hfired : s.world.isFired with
  | true =>
    rw [on_sleep_of_fired hfired]
    exact hcancelled s s.world hs (.refl _)
  | false =>
    have hidle := (World.idles_slept s.world a.polling.intervalMs).trans
      (World.idles_wait _ a.polling.intervalMs)
    have harrives := (s.world.record (.slept a.polling.intervalMs)).wait_ne_never a.polling.intervalMs
    rw [on_sleep hfired]
    revert hidle harrives
    rcases (s.world.record (.slept a.polling.intervalMs)).wait a.polling.intervalMs with
      ⟨_ | _ | _, w⟩
    · exact fun hidle _ => hslept s w hs hidle
    · exact fun hidle _ => hcancelled s w hs hidle
    · exact fun _ harrives => absurd rfl harrives

/-- A call gives a value, is given up before or after its request was sent, or never ends. -/
theorem ask_of_sends {c : Client} {method : Http.Method} {path : String} {body : Option String}
    {decode : Http.Response → Client.Decoded α} {Q : α → Session → Prop}
    (hunsent : ∀ s w e, P s → s.world.Idles w → E (.error e) (Session.givenUp ⟨s.ticket, w⟩ e))
    (hfailed : ∀ s r w e, P s → s.Sends c method path r w →
      E (.error e) (Session.givenUp ⟨s.ticket, w⟩ e))
    (hgiven : ∀ s r w b, P s → s.Sends c method path r w →
      (∃ step ∈ s.world.script.head?, step.Yields decode b) → Q b ⟨s.ticket, w⟩)
    (hhung : ∀ s r w, P s → s.Sends c method path r w →
      (∃ step ∈ s.world.script.head?, step.reply = none) → E .hung ⟨s.ticket, w⟩) :
    (ask (c.call method path body decode)).Meets P Q E := by
  intro s hs
  cases hfired : s.world.isFired with
  | true =>
    rw [on_ask_of_fired _ hfired]
    exact hunsent s s.world _ hs (.refl _)
  | false =>
    rw [on_ask _ hfired]
    have hexchange := c.exchange_call method path body decode s.world
    revert hexchange
    generalize c.call method path body decode s.world = ending
    intro hexchange
    cases hexchange with
    | unsent idle => exact hunsent s _ _ hs idle
    | @sent r arrival w hmethod hurl idle answer silent =>
      have hsent : s.Sends c method path r w := ⟨hfired, hmethod, hurl, idle⟩
      rcases arrival with (e | b) | _ | _
      · exact hfailed s r w _ hs hsent
      · exact hgiven s r w b hs hsent (answer b rfl)
      · exact hfailed s r w _ hs hsent
      · exact hhung s r w hs hsent (silent rfl)

end Guarantees

end Applicant

end KeyApproval
