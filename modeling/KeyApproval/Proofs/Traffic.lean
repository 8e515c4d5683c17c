import KeyApproval.Client.Call

/-!
# Traffic

What a call does to the world, as far as the server can tell. Waiting, logging and telling the observer
send nothing; a call sends one request at most and takes one step of the script for it. So the requests
that were sent and the steps that answered them stand in the same order.
-/

namespace KeyApproval

namespace World

theorem requestsOf_append (a b : List Occurrence) :
    requestsOf (a ++ b) = requestsOf a ++ requestsOf b :=
  List.filterMap_append

def requests (w : World) : List Request := requestsOf w.trace

theorem requests_record_sent (w : World) (r : Request) :
    (w.record (.sent r)).requests = w.requests ++ [r] :=
  requestsOf_append w.trace [.sent r]

/-! ### Worlds in which nothing is sent -/

/-- What happens on the way from `w` to `w'` sends no request, and the token is fired at the end if it was
fired before or fires meanwhile. -/
structure Idles (w w' : World) : Prop where
  script : w'.script = w.script
  trace : ∃ added, w'.trace = w.trace ++ added ∧ requestsOf added = [] ∧
    (w'.isFired = true ↔ w.isFired = true ∨ .interrupted ∈ added)

namespace Idles

theorem refl (w : World) : w.Idles w where
  script := rfl
  trace := ⟨[], (List.append_nil _).symm, rfl, (or_iff_left List.not_mem_nil).symm⟩

theorem trans {a b c : World} (hab : a.Idles b) (hbc : b.Idles c) : a.Idles c where
  script := hbc.script.trans hab.script
  trace := by
    obtain ⟨first, hfirst, hnone, hfired⟩ := hab.trace
    obtain ⟨later, hlater, hnone', hfired'⟩ := hbc.trace
    refine ⟨first ++ later, ?_, ?_, ?_⟩
    · rw [hlater, hfirst, List.append_assoc]
    · rw [requestsOf_append, hnone, hnone', List.append_nil]
    · rw [hfired', hfired, List.mem_append, or_assoc]

theorem requests {w w' : World} (h : w.Idles w') : w'.requests = w.requests := by
  obtain ⟨added, hadded, hnone, -⟩ := h.trace
  rw [World.requests, hadded, requestsOf_append, hnone, List.append_nil]
  rfl

end Idles

/-- Adding to the trace what is neither a request nor the firing of the token. -/
theorem idles_append {w w' : World} {added : List Occurrence} (hscript : w'.script = w.script)
    (htoken : w'.token = w.token) (htrace : w'.trace = w.trace ++ added) (hnone : requestsOf added = [])
    (hquiet : .interrupted ∉ added) : w.Idles w' where
  script := hscript
  trace := by
    refine ⟨added, htrace, hnone, ?_⟩
    rw [isFired, htoken, or_iff_left hquiet]
    rfl

theorem idles_log (w : World) (level : Level) (text : String) : w.Idles (w.log level text) :=
  idles_append rfl rfl rfl rfl (by simp)

theorem idles_logAll (w : World) (lines : List LogLine) : w.Idles (w.logAll lines) := by
  refine idles_append rfl rfl rfl ?_ (by simp)
  rw [requestsOf, List.filterMap_map]
  exact List.filterMap_eq_nil_iff.mpr fun _ _ => rfl

theorem idles_fire (w : World) : w.Idles w.fire := by
  unfold fire
  split
  · exact .refl w
  · exact ⟨rfl, [.interrupted], rfl, rfl, iff_of_true rfl (.inr List.mem_cons_self)⟩

theorem isFired_fire (w : World) : w.fire.isFired = true := by
  unfold fire
  split
  · assumption
  · rfl

theorem idles_tell (w : World) (e : Event) : w.Idles (w.tell e) := by
  have hemitted : w.Idles { w.record (.emitted e) with events := w.events + 1 } :=
    idles_append rfl rfl rfl rfl (by simp : Occurrence.interrupted ∉ [.emitted e])
  unfold tell
  dsimp only
  split
  · exact hemitted.trans (idles_fire _)
  · exact hemitted

theorem idles_slept (w : World) (ms : Nat) : w.Idles (w.record (.slept ms)) :=
  idles_append rfl rfl rfl rfl (by simp)

theorem idles_readClock (w : World) : w.Idles w.readClock.2 :=
  ⟨rfl, (Idles.refl w).trace⟩

theorem idles_advance (w : World) (time : Nat) : w.Idles { w with nowMs := time } :=
  ⟨rfl, (Idles.refl w).trace⟩

theorem idles_fireAt (w : World) (time : Nat) : w.Idles (w.fireAt time) :=
  (idles_fire w).trans (idles_advance w.fire _)

theorem idles_wait (w : World) (ms : Nat) : w.Idles (w.wait ms).2 := by
  unfold wait
  split
  · exact .refl w
  · split
    · exact .refl w
    · split
      · split
        · exact idles_fireAt w _
        · exact idles_advance w _
      · exact idles_advance w _

theorem wait_ne_never (w : World) (ms : Nat) : (w.wait ms).1 ≠ .never := by
  unfold wait
  split
  · simp
  · split
    · simp
    · split
      · split <;> simp
      · simp

theorem idles_waitForToken {α : Type} (w : World) : w.Idles (w.waitForToken (α := α)).2 := by
  unfold waitForToken
  split
  · exact .refl w
  · split
    · exact idles_fireAt w _
    · exact .refl w

theorem waitForToken_ne_value {α : Type} (w : World) (a : α) : w.waitForToken.1 ≠ .value a := by
  unfold waitForToken
  split
  · simp
  · split <;> simp

/-! ### Answers -/

/-- Receiving a request sends nothing, what comes back is the reply of the step, and nothing ever comes
back only where the step has no reply. -/
theorem receive_spec (w : World) (step : ServerStep) :
    w.Idles (w.receive step).2 ∧
      (∀ reply, (w.receive step).1 = .value reply → step.reply = some reply) ∧
      ((w.receive step).1 = .never → step.reply = none) := by
  have hstart : w.Idles (if step.firesToken then w.fire else w) := by
    split
    · exact idles_fire w
    · exact .refl w
  have hwait := hstart.trans (idles_wait _ step.delayMs)
  have harrives := wait_ne_never (if step.firesToken then w.fire else w) step.delayMs
  unfold receive
  revert hwait harrives
  generalize (if step.firesToken then w.fire else w).wait step.delayMs = waited
  obtain ⟨arrival, w'⟩ := waited
  intro hwait harrives
  cases arrival with
  | interrupted => exact ⟨hwait, by simp, by simp⟩
  | never => exact absurd rfl harrives
  | value a =>
    cases hreply : step.reply with
    | some reply => exact ⟨hwait, by simp, by simp⟩
    | none =>
      refine ⟨hwait.trans (idles_waitForToken w'), fun reply h => ?_, fun _ => rfl⟩
      exact absurd h (waitForToken_ne_value w' reply)

/-- The world after one more request was sent and took its step of the script. -/
def sending (w : World) (r : Request) : World :=
  { w.record (.sent r) with script := w.script.tail }

theorem send_of_refused {w : World} {r : Request} {e : ClientError}
    (h : w.transport.check r = .error e) : w.send r = (.value (.error e), w) := by
  simp [send, h]

theorem send_of_script_nil {w : World} {r : Request} (h : w.transport.check r = .ok ())
    (hscript : w.script = []) :
    w.send r = (.value (.error w.transport.exhausted), w.sending r) := by
  obtain ⟨_, _, _, _, _, _, _, _⟩ := w
  simp only at h hscript
  subst hscript
  simp [send, h, sending, record]

theorem send_of_script_cons {w : World} {r : Request} {step : ServerStep} {rest : List ServerStep}
    (h : w.transport.check r = .ok ()) (hscript : w.script = step :: rest) :
    w.send r = (w.sending r).receive step := by
  simp [send, h, hscript, sending]

/-- A request is refused by the transport, or it is sent and meets the first step of the script. -/
theorem send_spec (w : World) (r : Request) :
    (∃ e, w.send r = (.value (.error e), w)) ∨
      (w.sending r).Idles (w.send r).2 ∧
        (∀ answer, (w.send r).1 = .value (.ok answer) →
          ∃ step ∈ w.script.head?, step.reply = some (.ok answer)) ∧
        ((w.send r).1 = .never → ∃ step ∈ w.script.head?, step.reply = none) := by
  cases hcheck : w.transport.check r with
  | error e => exact .inl ⟨e, send_of_refused hcheck⟩
  | ok _ =>
    refine .inr ?_
    cases hscript : w.script with
    | nil =>
      rw [send_of_script_nil hcheck hscript]
      exact ⟨.refl _, by simp, by simp⟩
    | cons step rest =>
      rw [send_of_script_cons hcheck hscript]
      obtain ⟨hidle, hreply, hsilent⟩ := receive_spec (w.sending r) step
      exact ⟨hidle, fun answer h => ⟨step, rfl, hreply _ h⟩, fun h => ⟨step, rfl, hsilent h⟩⟩

/-- What passes the check is sent as it is, whatever comes back. -/
theorem requests_send {w : World} {r : Request} (h : w.transport.check r = .ok ()) :
    (w.send r).2.requests = w.requests ++ [r] := by
  have hsending : (w.sending r).requests = w.requests ++ [r] := requests_record_sent w r
  cases hscript : w.script with
  | nil =>
    rw [send_of_script_nil h hscript]
    exact hsending
  | cons step rest =>
    rw [send_of_script_cons h hscript, (receive_spec (w.sending r) step).1.requests]
    exact hsending

end World

/-- The step replies with an answer that is decoded to `a`. -/
def ServerStep.Yields {α : Type} (step : ServerStep) (decode : Http.Response → Client.Decoded α)
    (a : α) : Prop :=
  ∃ r, step.reply = some (.ok r) ∧ (decode r).result = .ok a

namespace Client

open World

/-- How a call may end: nothing is sent and it fails, or one request is sent, and what the call gives is
read from the step that the request took. A call never ends only when that step has no reply. -/
inductive Exchange {α : Type} (c : Client) (method : Http.Method) (path : String)
    (decode : Http.Response → Decoded α) (w : World) :
    Arrival (Except ClientError α) × World → Prop where
  | unsent {e : ClientError} {w' : World} (idle : w.Idles w') :
      Exchange c method path decode w (.value (.error e), w')
  | sent {r : Request} {arrival : Arrival (Except ClientError α)} {w' : World}
      (method_eq : r.method = method) (url_eq : c.baseUrl.join path = .ok r.url)
      (idle : (w.sending r).Idles w')
      (answer : ∀ a, arrival = .value (.ok a) → ∃ step ∈ w.script.head?, step.Yields decode a)
      (silent : arrival = .never → ∃ step ∈ w.script.head?, step.reply = none) :
      Exchange c method path decode w (arrival, w')

theorem prepare_eq_ok {c : Client} {method : Http.Method} {path : String} {body : Option String}
    {now : Calendar.Instant} {r : Request} (h : c.prepare method path body now = .ok r) :
    r.method = method ∧ c.baseUrl.join path = .ok r.url := by
  unfold prepare at h
  split at h
  · contradiction
  · next url hurl =>
      cases hauthorize : Signing.authorize (signedHeaders now) c.credentials body with
      | error e => simp [hauthorize, Except.map] at h
      | ok headers =>
        rw [hauthorize] at h
        cases h
        exact ⟨rfl, hurl⟩

theorem finish_spec {α : Type} (decode : Http.Response → Decoded α)
    (answer : Arrival (Except ClientError Http.Response) × World) :
    answer.2.Idles (finish decode answer).2 ∧
      (∀ a, (finish decode answer).1 = .value (.ok a) →
        ∃ r, answer.1 = .value (.ok r) ∧ (decode r).result = .ok a) ∧
      ((finish decode answer).1 = .never → answer.1 = .never) := by
  obtain ⟨arrival, w⟩ := answer
  rcases arrival with (e | r) | _ | _
  · exact ⟨.refl w, by simp [finish], by simp [finish]⟩
  · exact ⟨idles_logAll w _, fun a h => ⟨r, rfl, by simpa [finish] using h⟩, by simp [finish]⟩
  · exact ⟨.refl w, by simp [finish], by simp [finish]⟩
  · exact ⟨.refl w, by simp [finish], fun _ => rfl⟩

theorem call_eq {α : Type} (c : Client) (method : Http.Method) (path : String)
    (body : Option String) (decode : Http.Response → Decoded α) (w : World) :
    c.call method path body decode w =
      match c.prepare method path body w.readClock.1 with
      | .error e => (Arrival.value (.error e), w.readClock.2)
      | .ok r => finish decode (w.readClock.2.send r) := rfl

theorem requestKey_eq (c : Client) (handle : String) :
    c.requestKey handle = c.call .post requestsPath (some (createBody handle)) decodeId := rfl

theorem inquire_eq (c : Client) (id : UInt64) :
    c.inquire id = c.call .get (requestPath id) none decodeState := rfl

theorem collect_eq (c : Client) (id : UInt64) :
    c.collect id = c.call .patch (requestPath id) (some fulfillBody) decodeSecret := rfl

theorem exchange_call {α : Type} (c : Client) (method : Http.Method) (path : String)
    (body : Option String) (decode : Http.Response → Decoded α) (w : World) :
    c.Exchange method path decode w (c.call method path body decode w) := by
  have hclock := idles_readClock w
  cases hprepare : c.prepare method path body w.readClock.1 with
  | error e =>
    rw [call_eq, hprepare]
    exact .unsent hclock
  | ok r =>
    rw [call_eq, hprepare]
    dsimp only
    obtain ⟨hmethod, hurl⟩ := prepare_eq_ok hprepare
    obtain ⟨hfinish, hdecode, hnever⟩ := finish_spec decode (w.readClock.2.send r)
    rcases send_spec w.readClock.2 r with ⟨e, he⟩ | ⟨hidle, hreply, hsilent⟩
    · rw [he]
      exact .unsent hclock
    · have hreading : (w.sending r).Idles (w.readClock.2.sending r) :=
        ⟨rfl, (Idles.refl (w.sending r)).trace⟩
      refine .sent hmethod hurl (hreading.trans (hidle.trans hfinish)) (fun a ha => ?_)
        fun h => hsilent (hnever h)
      obtain ⟨answer, harrived, hresult⟩ := hdecode a ha
      obtain ⟨step, hstep, hstepReply⟩ := hreply answer harrived
      exact ⟨step, hstep, answer, hstepReply, hresult⟩

section Call

variable {α : Type} {c : Client} {method : Http.Method} {path : String} {body : Option String} {w : World}
  {r : Request}

theorem requests_call_of_prepared (decode : Http.Response → Decoded α)
    (hprepare : c.prepare method path body w.readClock.1 = .ok r) :
    (c.call method path body decode w).2.requests = (w.readClock.2.send r).2.requests := by
  rw [call_eq, hprepare]
  exact (finish_spec decode _).1.requests

/-- A request that could be made is sent if it passes the check. -/
theorem requests_call_of_passed (decode : Http.Response → Decoded α)
    (hprepare : c.prepare method path body w.readClock.1 = .ok r) (h : w.transport.check r = .ok ()) :
    (c.call method path body decode w).2.requests = w.requests ++ [r] := by
  have hpassed : w.readClock.2.transport.check r = .ok () := h
  rw [requests_call_of_prepared decode hprepare, requests_send hpassed, (idles_readClock w).requests]

theorem requests_call_of_refused (decode : Http.Response → Decoded α) {e : ClientError}
    (hprepare : c.prepare method path body w.readClock.1 = .ok r) (h : w.transport.check r = .error e) :
    (c.call method path body decode w).2.requests = w.requests := by
  have hrefused : w.readClock.2.transport.check r = .error e := h
  rw [requests_call_of_prepared decode hprepare, send_of_refused hrefused, (idles_readClock w).requests]

/-- A call sends the request that it made, or nothing. -/
theorem requests_call (c : Client) (method : Http.Method) (path : String) (body : Option String)
    (decode : Http.Response → Decoded α) (w : World) :
    (c.call method path body decode w).2.requests = w.requests ∨
      ∃ r, c.prepare method path body w.readClock.1 = .ok r ∧
        (c.call method path body decode w).2.requests = w.requests ++ [r] := by
  cases hprepare : c.prepare method path body w.readClock.1 with
  | error e =>
    left
    rw [call_eq, hprepare]
    exact (idles_readClock w).requests
  | ok r =>
    cases hcheck : w.transport.check r with
    | error e => exact .inl (requests_call_of_refused decode hprepare hcheck)
    | ok _ => exact .inr ⟨r, rfl, requests_call_of_passed decode hprepare hcheck⟩

end Call

end Client

end KeyApproval
