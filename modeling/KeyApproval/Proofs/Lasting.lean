import KeyApproval.Proofs.Steps

/-!
# What lasts

The steps of an applicant do only a few things to a session: they log, tell the observer, sleep, make a
call, move the ticket on or fail it, and the first of them gives it a number. A property of sessions that
outlasts each of these outlasts all steps, however they end.
-/

namespace KeyApproval

open Step

variable {α : Type}

/-! ### What lasts in a world -/

namespace World

/-- A property of worlds that outlasts waiting, telling the observer and the firing of the token. -/
structure Steady (I : World → Prop) : Prop where
  emitted : ∀ w e, I w → I { w.record (.emitted e) with events := w.events + 1 }
  slept : ∀ w ms, I w → I (w.record (.slept ms))
  fire : ∀ w, I w → I w.fire
  advance : ∀ w time, I w → I { w with nowMs := time }
  readClock : ∀ w, I w → I w.readClock.2

namespace Steady

variable {I : World → Prop} {w : World} (hI : Steady I)
include hI

theorem tell (h : I w) (e : Event) : I (w.tell e) := by
  have hemitted := hI.emitted w e h
  unfold World.tell
  dsimp only
  split
  · exact hI.fire _ hemitted
  · exact hemitted

theorem wait (h : I w) (ms : Nat) : I (w.wait ms).2 := by
  unfold World.wait
  split
  · exact h
  · split
    · exact h
    · split
      · split
        · exact hI.advance _ _ (hI.fire w h)
        · exact hI.advance w _ h
      · exact hI.advance w _ h

theorem waitForToken (h : I w) : I (w.waitForToken (α := α)).2 := by
  unfold World.waitForToken
  split
  · exact h
  · split
    · exact hI.advance _ _ (hI.fire w h)
    · exact h

theorem receive (h : I w) (step : ServerStep) : I (w.receive step).2 := by
  have hstart : I (if step.firesToken then w.fire else w) := by
    split
    · exact hI.fire w h
    · exact h
  have hwaited := hI.wait hstart step.delayMs
  unfold World.receive
  revert hwaited
  rcases (if step.firesToken then w.fire else w).wait step.delayMs with ⟨_ | _ | _, v⟩
  · cases step.reply with
    | some reply => exact fun hwaited => hwaited
    | none => exact fun hwaited => hI.waitForToken hwaited
  · exact fun hwaited => hwaited
  · exact fun hwaited => hwaited

theorem send {r : Request} (h : I w) (hsent : I (w.sending r)) : I (w.send r).2 := by
  cases hcheck : w.transport.check r with
  | error e =>
    rw [send_of_refused hcheck]
    exact h
  | ok _ =>
    cases hscript : w.script with
    | nil =>
      rw [send_of_script_nil hcheck hscript]
      exact hsent
    | cons step rest =>
      rw [send_of_script_cons hcheck hscript]
      exact hI.receive hsent step

theorem call {c : Client} {method : Http.Method} {path : String} {body : Option String}
    {decode : Http.Response → Client.Decoded α} (h : I w)
    (hsent : ∀ v r, c.prepare method path body w.readClock.1 = .ok r → I v → I (v.sending r))
    (hlog : ∀ v r, I v → I (v.logAll (decode r).warnings)) : I (c.call method path body decode w).2 := by
  have hread := hI.readClock w h
  rw [Client.call_eq]
  cases hprepare : c.prepare method path body w.readClock.1 with
  | error e => exact hread
  | ok r =>
    have hanswered := hI.send hread (hsent _ r hprepare hread)
    dsimp only
    revert hanswered
    rcases w.readClock.2.send r with ⟨(e | answer) | _ | _, v⟩
    · exact fun hanswered => hanswered
    · exact fun hanswered => hlog v answer hanswered
    · exact fun hanswered => hanswered
    · exact fun hanswered => hanswered

end Steady

/-- What is said of the requests so far. -/
theorem steady_requests (P : List Request → Prop) : Steady (P ·.requests) := by
  have hkept {w w' : World} (hidle : w.Idles w') (h : P w.requests) : P w'.requests := by
    rwa [hidle.requests]
  exact {
    emitted := fun w e => hkept <|
      idles_append rfl rfl rfl rfl (by simp : Occurrence.interrupted ∉ [.emitted e])
    slept := fun w ms => hkept (idles_slept w ms)
    fire := fun w => hkept (idles_fire w)
    advance := fun w time => hkept (idles_advance w time)
    readClock := fun w => hkept (idles_readClock w) }

theorem forall_requests_sending {P : Request → Prop} {w : World} {r : Request}
    (h : ∀ q ∈ w.requests, P q) (hr : P r) : ∀ q ∈ (w.sending r).requests, P q := by
  intro q hq
  rw [requests, sending, record, requestsOf_append] at hq
  rcases List.mem_append.mp hq with hq | hq
  · exact h q hq
  · rw [List.mem_singleton.mp hq]
    exact hr

end World

/-! ### What lasts in a session -/

/-- The lines that a step itself logs: news, and warnings about the request for the key. -/
def LogLine.IsOwn (line : LogLine) : Prop :=
  line.level = .info ∨ line.level = .warn ∧ ∃ rest, line.text = "Key request " ++ rest

theorem LogLine.IsOwn.level_ne_error {line : LogLine} (h : line.IsOwn) : line.level ≠ .error := by
  rcases h with h | ⟨h, -⟩ <;> rw [h] <;> decide

/-- A property of sessions that outlasts whatever the steps do until there is a decision, except that a
ticket gets its number. Calls are made only while the token is not fired. -/
structure Session.Enduring (c : Client) (I : Session → Prop) : Prop where
  log : ∀ s level text, LogLine.IsOwn ⟨level, text⟩ → I s → I ⟨s.ticket, s.world.log level text⟩
  tell : ∀ s e, I s → I ⟨s.ticket, s.world.tell e⟩
  sleep : ∀ s ms, I s → I ⟨s.ticket, ((s.world.record (.slept ms)).wait ms).2⟩
  requestKey : ∀ s handle, s.world.isFired = false → I s → I ⟨s.ticket, (c.requestKey handle s.world).2⟩
  inquire : ∀ s id, s.world.isFired = false → I s → I ⟨s.ticket, (c.inquire id s.world).2⟩
  fail : ∀ s, I s → I ⟨s.ticket.fail, s.world⟩
  move : ∀ s stage, I s → I ⟨{ s.ticket with stage }, s.world⟩

/-- A property of sessions that outlasts the collection as well. -/
structure Session.Lasting (c : Client) (I : Session → Prop) : Prop extends Session.Enduring c I where
  collect : ∀ s id, s.world.isFired = false → I s → I ⟨s.ticket, (c.collect id s.world).2⟩

namespace Applicant

variable {a : Applicant} {I : Session → Prop}

section Enduring

variable (hI : Session.Enduring a.client I)
include hI

/-! ### Building blocks -/

omit hI in
theorem get_keeps {g : Session → Step α} (h : ∀ s, (g s).Keeps I) : (get >>= g).Keeps I :=
  Meets.get fun s hs => (h s).pre (by rintro _ rfl; exact hs)

theorem givenUp_lasts (e : RunError) {s : Session} (hs : I s) : I (s.givenUp e) := by
  have hown : LogLine.IsOwn ⟨.warn, "Key request '" ++ s.ticket.handle ++ "' failed: " ++ e.message⟩ := by
    refine .inr ⟨rfl, "'" ++ s.ticket.handle ++ "' failed: " ++ e.message, ?_⟩
    simp only [← String.append_assoc]
    rfl
  exact hI.log ⟨s.ticket.fail, s.world⟩ _ _ hown (hI.fail s hs)

theorem giveUp_keeps (e : RunError) : (giveUp e : Step α).Keeps I := by
  intro s hs
  rw [on_giveUp]
  exact givenUp_lasts hI e hs

theorem logLine_keeps {level : Level} {text : String} (h : LogLine.IsOwn ⟨level, text⟩) :
    (logLine level text).Keeps I :=
  Meets.modify fun s => hI.log s level text h

theorem tell_keeps (e : Event) : (a.tell e).Keeps I := by
  unfold tell
  split
  · exact Meets.modify fun s => hI.tell s e
  · exact Meets.pure fun _ hs => hs

theorem moveTo_keeps (next : Stage) : (a.moveTo next).Keeps I := by
  intro s hs
  by_cases h : s.ticket.stage.canBecome next = true
  · rw [on_moveTo h]
    exact tell_keeps hI _ _ (hI.move s next hs)
  · rw [on_moveTo_of_not h]
    exact hs

omit hI in
theorem expectStage_keeps (stage : Stage) : (expectStage stage).Keeps I := by
  intro s hs
  by_cases h : s.ticket.stage = stage
  · rw [on_expectStage_of_eq h]
    exact hs
  · rw [on_expectStage_of_ne h]
    exact hs

omit hI in
theorem pendingNumber_keeps : pendingNumber.Keeps I := by
  refine Meets.bind (expectStage_keeps .pending) fun _ => get_keeps fun s => ?_
  split
  · exact Meets.pure fun _ hs => hs
  · exact Meets.throw fun _ hs => hs

theorem ask_keeps {action : World → Arrival (Except ClientError α) × World}
    (h : ∀ s, s.world.isFired = false → I s → I ⟨s.ticket, (action s.world).2⟩) :
    (ask action).Keeps I := by
  intro s hs
  cases hfired : s.world.isFired with
  | true =>
    rw [on_ask_of_fired action hfired]
    exact givenUp_lasts hI _ hs
  | false =>
    have hasked := h s hfired hs
    rw [on_ask action hfired]
    revert hasked
    rcases action s.world with ⟨(e | _) | _ | _, w⟩
    · exact fun hasked => givenUp_lasts hI _ hasked
    · exact fun hasked => hasked
    · exact fun hasked => givenUp_lasts hI _ hasked
    · exact fun hasked => hasked

theorem sleep_keeps : a.sleep.Keeps I := by
  intro s hs
  cases hfired : s.world.isFired with
  | true =>
    rw [on_sleep_of_fired hfired]
    exact givenUp_lasts hI _ hs
  | false =>
    have hslept := hI.sleep s a.polling.intervalMs hs
    rw [on_sleep hfired]
    revert hslept
    rcases (s.world.record (.slept a.polling.intervalMs)).wait a.polling.intervalMs with
      ⟨_ | _ | _, w⟩
    · exact fun hslept => hslept
    · exact fun hslept => givenUp_lasts hI _ hslept
    · exact fun hslept => hslept

/-! ### The steps -/

theorem create_keeps (hnumber : ∀ s id, I s → I ⟨{ s.ticket with id := some id }, s.world⟩) :
    a.create.Keeps I := by
  refine Meets.bind (expectStage_keeps .created) fun _ => get_keeps fun s => ?_
  refine Meets.bind (logLine_keeps hI (.inl rfl)) fun _ => ?_
  refine Meets.bind (ask_keeps hI fun t => hI.requestKey t _) fun id => ?_
  exact Meets.bind (Meets.modify fun t => hnumber t id) fun _ => moveTo_keeps hI _

theorem poll_keeps : a.poll.Keeps I := by
  refine Meets.bind pendingNumber_keeps fun id => ?_
  refine Meets.bind (ask_keeps hI fun s => hI.inquire s id) fun stage => ?_
  split
  · exact Meets.pure fun _ hs => hs
  · exact Meets.bind (moveTo_keeps hI _) fun _ => Meets.pure fun _ hs => hs
  · exact Meets.bind (moveTo_keeps hI _) fun _ => Meets.pure fun _ hs => hs
  · exact giveUp_keeps hI _

theorem pollFrom_keeps (id : UInt64) (answers : Nat) (attempts : UInt32) :
    (a.pollFrom id answers attempts).Keeps I := by
  induction answers generalizing attempts with
  | zero => exact Meets.throw fun _ hs => hs
  | succ answers ih =>
    rw [pollFrom]
    refine Meets.bind (poll_keeps hI) fun stage => ?_
    dsimp only
    split
    · refine Meets.bind (logLine_keeps hI ?_) fun _ => Meets.throw fun _ hs => hs
      exact .inr ⟨rfl, toString id ++ " was denied", String.append_assoc⟩
    · split
      · refine Meets.bind (tell_keeps hI _) fun _ => ?_
        exact Meets.bind (sleep_keeps hI) fun _ => ih _
      · exact giveUp_keeps hI _
    · exact Meets.pure fun _ hs => hs

theorem awaitDecision_keeps : a.awaitDecision.Keeps I := by
  refine Meets.bind pendingNumber_keeps fun id => ?_
  split
  · exact get_keeps fun s => pollFrom_keeps hI id _ 0
  · exact giveUp_keeps hI _

end Enduring

variable (hI : Session.Lasting a.client I)
include hI

theorem fulfill_keeps : a.fulfill.Keeps I := by
  have henduring := hI.toEnduring
  refine Meets.bind (expectStage_keeps .accepted) fun _ => get_keeps fun s => ?_
  split
  · exact giveUp_keeps henduring _
  · next id _ =>
      refine Meets.bind (ask_keeps henduring fun t => hI.collect t id) fun secret => ?_
      refine Meets.bind (moveTo_keeps henduring _) fun _ => ?_
      exact Meets.bind (logLine_keeps henduring (.inl rfl)) fun _ => Meets.pure fun _ hs => hs

theorem run_keeps (hnumber : ∀ s id, I s → I ⟨{ s.ticket with id := some id }, s.world⟩) :
    a.run.Keeps I :=
  Meets.bind (create_keeps hI.toEnduring hnumber) fun _ =>
    Meets.bind (awaitDecision_keeps hI.toEnduring) fun _ => fulfill_keeps hI

end Applicant

/-! ### Worlds, the handle and the number -/

theorem Client.level_of_mem_warnings (status : UInt16) (contentType : String)
    (body : Http.Response → Except ClientError α) (r : Http.Response) :
    ∀ l ∈ (decodeWith status contentType body r).warnings, l.level = .warn := by
  unfold decodeWith
  split
  · simp
  · unfold contentTypeWarnings
    split
    · simp
    · split <;> simp

/-- What is said of a world lasts when it outlasts the requests of the client and lines of the levels INFO
and WARN. -/
theorem Session.lasting_world {c : Client} {I : World → Prop} (hI : World.Steady I)
    (hsent : ∀ w method path body now r, c.prepare method path body now = .ok r → I w → I (w.sending r))
    (hlog : ∀ w lines, (∀ l ∈ lines, LogLine.level l ≠ .error) → I w → I (w.logAll lines)) :
    Lasting c (I ·.world) := by
  have hcall {β : Type} (method : Http.Method) (path : String) (text : Option String) (status : UInt16)
      (contentType : String) (body : Http.Response → Except ClientError β) (w : World) (h : I w) :
      I (c.call method path text (Client.decodeWith status contentType body) w).2 := by
    apply hI.call h (fun v r hr => hsent v _ _ _ _ r hr)
    intro v r
    apply hlog v
    intro l hl
    rw [Client.level_of_mem_warnings status contentType body r l hl]
    decide
  exact {
    log := fun s level text hown h => hlog s.world [⟨level, text⟩] (by simpa using hown.level_ne_error) h
    tell := fun _ e h => hI.tell h e
    sleep := fun s ms h => hI.wait (hI.slept s.world ms h) ms
    requestKey := fun s handle _ h => by
      dsimp only
      exact hcall _ _ _ _ _ Client.readId s.world h
    inquire := fun s id _ h => by
      dsimp only
      exact hcall _ _ _ _ _ Client.readState s.world h
    collect := fun s id _ h => by
      dsimp only
      exact hcall _ _ _ _ _ Client.readSecret s.world h
    fail := fun _ h => h
    move := fun _ _ h => h }

theorem Ticket.handle_fail (t : Ticket) : t.fail.handle = t.handle := by
  unfold fail
  split <;> rfl

theorem Ticket.id_fail (t : Ticket) : t.fail.id = t.id := by
  unfold fail
  split <;> rfl

/-- What is said of a ticket without its stage lasts. -/
theorem Session.lasting_ticket (c : Client) {p : Ticket → Prop} (hfail : ∀ t, p t → p t.fail)
    (hmove : ∀ t stage, p t → p { t with stage }) : Lasting c (p ·.ticket) where
  log _ _ _ _ h := h
  tell _ _ h := h
  sleep _ _ h := h
  requestKey _ _ _ h := h
  inquire _ _ _ h := h
  collect _ _ _ h := h
  fail s h := hfail s.ticket h
  move s stage h := hmove s.ticket stage h

theorem Session.lasting_handle (c : Client) (handle : String) : Lasting c (·.ticket.handle = handle) :=
  lasting_ticket c (fun t h => t.handle_fail.trans h) fun _ _ h => h

theorem Session.lasting_number (c : Client) (id : UInt64) : Lasting c (·.ticket.id = some id) :=
  lasting_ticket c (fun t h => t.id_fail.trans h) fun _ _ h => h

/-- A run keeps the handle that the ticket is for. -/
theorem Applicant.run_handle (a : Applicant) (s : Session) :
    (a.run.on s).2.ticket.handle = s.ticket.handle :=
  (run_keeps (Session.lasting_handle a.client s.ticket.handle) fun _ _ h => h).on rfl

end KeyApproval
