import KeyApproval.Proofs.Answers
import KeyApproval.Proofs.Steps

/-!
# Exchanges

A call in full. Either its request is barred, because it cannot be made or the transport refuses it, or it is
sent and meets the reply that the server has for it; and then the call ends with what the decoder makes of the
reply, unless the token comes first. Besides that the call does nothing that anybody could notice.
-/

namespace KeyApproval

open Http

variable {α : Type}

/-! ### Lulls -/

/-- What is done to others, and the sleeps; but not what is logged. -/
def Occurrence.isAct : Occurrence → Bool
  | .sent _ | .emitted _ | .slept _ => true
  | .logged _ | .interrupted => false

namespace World

def acts (w : World) : List Occurrence := w.trace.filter Occurrence.isAct

/-- What the observer was told so far. -/
def told (w : World) : List Event := eventsOf w.trace

/-- On the way from `w` to `w'` there are no acts: lines are logged, time passes, and the token may fire. -/
structure Lulls (w w' : World) : Prop where
  script : w'.script = w.script
  transport : w'.transport = w.transport
  acts : w'.acts = w.acts

variable {w w' : World}

theorem requestsOf_acts (w : World) : requestsOf w.acts = w.requests := by
  rw [acts, requests, requestsOf, requestsOf, List.filterMap_filter]
  refine congrArg (List.filterMap · w.trace) (funext fun o => ?_)
  cases o <;> rfl

theorem eventsOf_acts (w : World) : eventsOf w.acts = w.told := by
  rw [acts, told, eventsOf, eventsOf, List.filterMap_filter]
  refine congrArg (List.filterMap · w.trace) (funext fun o => ?_)
  cases o <;> rfl

theorem acts_record (w : World) (o : Occurrence) :
    (w.record o).acts = w.acts ++ if o.isAct then [o] else [] := by
  rw [acts, record, List.filter_append, List.filter_cons]
  rfl

namespace Lulls

theorem refl (w : World) : w.Lulls w := ⟨rfl, rfl, rfl⟩

theorem trans {a b c : World} (hab : a.Lulls b) (hbc : b.Lulls c) : a.Lulls c where
  script := hbc.script.trans hab.script
  transport := hbc.transport.trans hab.transport
  acts := hbc.acts.trans hab.acts

theorem requests (h : w.Lulls w') : w'.requests = w.requests := by
  rw [← requestsOf_acts, h.acts, requestsOf_acts]

theorem told (h : w.Lulls w') : w'.told = w.told := by
  rw [← eventsOf_acts, h.acts, eventsOf_acts]

end Lulls

theorem lulls_log (w : World) (level : Level) (text : String) : w.Lulls (w.log level text) :=
  ⟨rfl, rfl, (acts_record w _).trans (List.append_nil _)⟩

theorem lulls_logAll (w : World) (lines : List LogLine) : w.Lulls (w.logAll lines) := by
  refine ⟨rfl, rfl, ?_⟩
  have hnone : (lines.map Occurrence.logged).filter Occurrence.isAct = [] := by
    apply List.filter_eq_nil_iff.mpr
    intro o ho
    obtain ⟨line, -, rfl⟩ := List.mem_map.mp ho
    exact Bool.false_ne_true
  rw [acts, logAll, List.filter_append, hnone, List.append_nil]
  rfl

theorem lulls_fire (w : World) : w.Lulls w.fire := by
  unfold fire
  split
  · exact .refl w
  · exact ⟨rfl, rfl, (acts_record w .interrupted).trans (List.append_nil _)⟩

theorem lulls_tell (w : World) (e : Event) : (w.record (.emitted e)).Lulls (w.tell e) := by
  have hcounted : (w.record (.emitted e)).Lulls { w.record (.emitted e) with events := w.events + 1 } :=
    ⟨rfl, rfl, rfl⟩
  unfold tell
  dsimp only
  split
  · exact hcounted.trans (lulls_fire _)
  · exact hcounted

theorem lulls_advance (w : World) (time : Nat) : w.Lulls { w with nowMs := time } := ⟨rfl, rfl, rfl⟩

theorem lulls_readClock (w : World) : w.Lulls w.readClock.2 := ⟨rfl, rfl, rfl⟩

theorem lulls_fireAt (w : World) (time : Nat) : w.Lulls (w.fireAt time) :=
  (lulls_fire w).trans (lulls_advance w.fire _)

theorem lulls_wait (w : World) (ms : Nat) : w.Lulls (w.wait ms).2 := by
  unfold wait
  split
  · exact .refl w
  · split
    · exact .refl w
    · split
      · split
        · exact lulls_fireAt w _
        · exact lulls_advance w _
      · exact lulls_advance w _

theorem lulls_waitForToken (w : World) : w.Lulls (w.waitForToken (α := α)).2 := by
  unfold waitForToken
  split
  · exact .refl w
  · split
    · exact lulls_fireAt w _
    · exact .refl w

theorem lulls_receive (w : World) (step : ServerStep) : w.Lulls (w.receive step).2 := by
  have hstart : w.Lulls (if step.firesToken then w.fire else w) := by
    split
    · exact lulls_fire w
    · exact .refl w
  have hwait := hstart.trans (lulls_wait _ step.delayMs)
  unfold receive
  revert hwait
  rcases (if step.firesToken then w.fire else w).wait step.delayMs with ⟨_ | _ | _, v⟩
  · cases step.reply with
    | some reply => exact fun hwait => hwait
    | none => exact fun hwait => hwait.trans (lulls_waitForToken v)
  · exact fun hwait => hwait
  · exact fun hwait => hwait

/-- The reply that the next request meets, if it ever meets one. -/
def reply? (w : World) : Option (Except ClientError Response) :=
  match w.script with
  | [] => some (.error w.transport.exhausted)
  | step :: _ => step.reply

end World

theorem World.script_ne_nil {w : World} {r : Response} (h : w.reply? = some (.ok r)) : w.script ≠ [] := by
  intro hscript
  rw [World.reply?, hscript] at h
  cases h

/-! ### Requests that are sent and requests that are not -/

namespace Client

/-- No request is sent: it cannot be made, or the transport refuses it. -/
def Bars (c : Client) (t : Transport) (method : Method) (path : String) (body : Option String)
    (e : ClientError) : Prop :=
  ∃ now, c.prepare method path body now = .error e ∨
    ∃ r, c.prepare method path body now = .ok r ∧ t.check r = .error e

/-- A request is sent, and then there is a lull. -/
structure Transmits (c : Client) (method : Method) (path : String) (body : Option String) (w : World)
    (r : Request) (w' : World) : Prop where
  prepared : ∃ now, c.prepare method path body now = .ok r
  passed : w.transport.check r = .ok ()
  lull : (w.sending r).Lulls w'

namespace Transmits

variable {c : Client} {method : Method} {path : String} {body : Option String} {w w' v : World}
  {r : Request}

theorem method_eq (h : c.Transmits method path body w r w') : r.method = method := by
  obtain ⟨now, hprepared⟩ := h.prepared
  exact (prepare_eq_ok hprepared).1

theorem url_eq (h : c.Transmits method path body w r w') : c.baseUrl.join path = .ok r.url := by
  obtain ⟨now, hprepared⟩ := h.prepared
  exact (prepare_eq_ok hprepared).2

theorem script (h : c.Transmits method path body w r w') : w'.script = w.script.tail := h.lull.script

theorem transport (h : c.Transmits method path body w r w') : w'.transport = w.transport :=
  h.lull.transport

theorem acts (h : c.Transmits method path body w r w') : w'.acts = w.acts ++ [.sent r] :=
  h.lull.acts.trans (World.acts_record w (.sent r))

theorem requests (h : c.Transmits method path body w r w') : w'.requests = w.requests ++ [r] :=
  h.lull.requests.trans (World.requests_record_sent w r)

theorem told (h : c.Transmits method path body w r w') : w'.told = w.told := by
  rw [← World.eventsOf_acts, h.acts, World.eventsOf, List.filterMap_append]
  exact (List.append_nil _).trans (World.eventsOf_acts w)

theorem lulls (h : c.Transmits method path body w r w') (hv : w'.Lulls v) :
    c.Transmits method path body w r v :=
  ⟨h.prepared, h.passed, h.lull.trans hv⟩

end Transmits

/-- How a call ends. -/
inductive Attempt (c : Client) (method : Method) (path : String) (body : Option String)
    (decode : Response → Decoded α) (w : World) : Arrival (Except ClientError α) × World → Prop where
  | barred {e : ClientError} (h : c.Bars w.transport method path body e) :
      Attempt c method path body decode w (.value (.error e), w.readClock.2)
  | answered {r : Request} {reply : Except ClientError Response} {w' : World}
      (sent : c.Transmits method path body w r w') (replied : w.reply? = some reply) :
      Attempt c method path body decode w (.value (consult decode reply), w')
  | interrupted {r : Request} {w' : World} (sent : c.Transmits method path body w r w') :
      Attempt c method path body decode w (.interrupted, w')
  | unanswered {r : Request} {w' : World} (sent : c.Transmits method path body w r w')
      (silent : w.reply? = none) : Attempt c method path body decode w (.never, w')

theorem attempt_call (c : Client) (method : Method) (path : String) (body : Option String)
    (decode : Response → Decoded α) (w : World) :
    c.Attempt method path body decode w (c.call method path body decode w) := by
  rw [call_eq]
  cases hprepare : c.prepare method path body w.readClock.1 with
  | error e => exact .barred ⟨_, .inl hprepare⟩
  | ok r =>
    dsimp only
    cases hcheck : w.readClock.2.transport.check r with
    | error e =>
      rw [World.send_of_refused hcheck]
      exact .barred ⟨_, .inr ⟨r, hprepare, hcheck⟩⟩
    | ok _ =>
      have hreading : (w.sending r).Lulls (w.readClock.2.sending r) := ⟨rfl, rfl, rfl⟩
      have hsent {w' : World} (hlull : (w.readClock.2.sending r).Lulls w') :
          c.Transmits method path body w r w' :=
        ⟨⟨_, hprepare⟩, hcheck, hreading.trans hlull⟩
      cases hscript : w.readClock.2.script with
      | nil =>
        have hreply : w.readClock.2.reply? = some (.error w.transport.exhausted) := by
          rw [World.reply?, hscript]
          rfl
        rw [World.send_of_script_nil hcheck hscript]
        exact .answered (hsent (.refl _)) hreply
      | cons step rest =>
        have hreply : w.readClock.2.reply? = step.reply := by rw [World.reply?, hscript]
        obtain ⟨-, hvalue, hnever⟩ := World.receive_spec (w.readClock.2.sending r) step
        have hlull := World.lulls_receive (w.readClock.2.sending r) step
        rw [World.send_of_script_cons hcheck hscript]
        revert hvalue hnever hlull
        rcases (w.readClock.2.sending r).receive step with ⟨(e | answer) | _ | _, v⟩
        · exact fun hvalue _ hlull => .answered (hsent hlull) (hreply.trans (hvalue _ rfl))
        · exact fun hvalue _ hlull => .answered (hsent (hlull.trans (World.lulls_logAll v _)))
            (hreply.trans (hvalue _ rfl))
        · exact fun _ _ hlull => .interrupted (hsent hlull)
        · exact fun _ hnever hlull => .unanswered (hsent hlull) (hreply.trans (hnever rfl))

end Client

/-! ### Calls of an applicant -/

theorem Session.lulls_givenUp (s : Session) (e : RunError) : s.world.Lulls (s.givenUp e).world :=
  World.lulls_log _ _ _

/-- A call is cancelled before it begins or while it waits, it is barred, the reply decides, or it never
ends. -/
theorem Applicant.ask_meets_attempts {c : Client} {method : Method} {path : String} {body : Option String}
    {decode : Response → Client.Decoded α} {P : Session → Prop} {Q : α → Session → Prop}
    {E : Stop → Session → Prop}
    (hfired : ∀ s, P s → E (.error .cancelled) (s.givenUp .cancelled))
    (hbarred : ∀ s w e, P s → s.world.Lulls w → c.Bars s.world.transport method path body e →
      E (.error (.client e)) (Session.givenUp ⟨s.ticket, w⟩ (.client e)))
    (hgiven : ∀ s r w reply b, P s → c.Transmits method path body s.world r w →
      s.world.reply? = some reply → Client.consult decode reply = .ok b → Q b ⟨s.ticket, w⟩)
    (hfailed : ∀ s r w reply e, P s → c.Transmits method path body s.world r w →
      s.world.reply? = some reply → Client.consult decode reply = .error e →
        E (.error (.client e)) (Session.givenUp ⟨s.ticket, w⟩ (.client e)))
    (hinterrupted : ∀ s r w, P s → c.Transmits method path body s.world r w →
      E (.error .cancelled) (Session.givenUp ⟨s.ticket, w⟩ .cancelled))
    (hhung : ∀ s r w, P s → c.Transmits method path body s.world r w → s.world.reply? = none →
      E .hung ⟨s.ticket, w⟩) :
    (ask (c.call method path body decode)).Meets P Q E := by
  intro s hs
  cases hstate : s.world.isFired with
  | true =>
    rw [on_ask_of_fired _ hstate]
    exact hfired s hs
  | false =>
    rw [on_ask _ hstate]
    have hattempt := c.attempt_call method path body decode s.world
    revert hattempt
    generalize c.call method path body decode s.world = ending
    intro hattempt
    cases hattempt with
    | barred hbars => exact hbarred s _ _ hs (World.lulls_readClock _) hbars
    | @answered r reply w hsent hreply =>
      cases hresult : Client.consult decode reply with
      | error e => exact hfailed s r w reply e hs hsent hreply hresult
      | ok b => exact hgiven s r w reply b hs hsent hreply hresult
    | interrupted hsent => exact hinterrupted s _ _ hs hsent
    | unanswered hsent hsilent => exact hhung s _ _ hs hsent hsilent

/-- The observer, if there is one, is told of the event and of nothing else. -/
theorem Applicant.tell_meets_lulls {a : Applicant} {e : Event} {P : Session → Prop}
    {Q : Unit → Session → Prop} {E : Stop → Session → Prop}
    (htold : a.observed = true → ∀ s w, P s → (s.world.record (.emitted e)).Lulls w → Q () ⟨s.ticket, w⟩)
    (huntold : a.observed = false → ∀ s, P s → Q () s) : (a.tell e).Meets P Q E := by
  unfold tell
  split
  next hobserved => exact Step.Meets.modify fun s hs => htold hobserved s _ hs (World.lulls_tell _ _)
  next hunobserved => exact Step.Meets.pure fun s hs => huntold (eq_false_of_ne_true hunobserved) s hs

/-- A sleep is cancelled before it begins, it comes to its end, or the token interrupts it. -/
theorem Applicant.sleep_meets_lulls {a : Applicant} {P : Session → Prop} {Q : Unit → Session → Prop}
    {E : Stop → Session → Prop}
    (hfired : ∀ s, P s → E (.error .cancelled) (s.givenUp .cancelled))
    (hslept : ∀ s w, P s → (s.world.record (.slept a.polling.intervalMs)).Lulls w → Q () ⟨s.ticket, w⟩)
    (hinterrupted : ∀ s w, P s → (s.world.record (.slept a.polling.intervalMs)).Lulls w →
      E (.error .cancelled) (Session.givenUp ⟨s.ticket, w⟩ .cancelled)) : a.sleep.Meets P Q E := by
  intro s hs
  cases hstate : s.world.isFired with
  | true =>
    rw [on_sleep_of_fired hstate]
    exact hfired s hs
  | false =>
    have hlull := World.lulls_wait (s.world.record (.slept a.polling.intervalMs)) a.polling.intervalMs
    have harrives := (s.world.record (.slept a.polling.intervalMs)).wait_ne_never a.polling.intervalMs
    rw [on_sleep hstate]
    revert hlull harrives
    rcases (s.world.record (.slept a.polling.intervalMs)).wait a.polling.intervalMs with
      ⟨_ | _ | _, w⟩
    · exact fun hlull _ => hslept s w hs hlull
    · exact fun hlull _ => hinterrupted s w hs hlull
    · exact fun _ harrives => absurd rfl harrives

end KeyApproval
