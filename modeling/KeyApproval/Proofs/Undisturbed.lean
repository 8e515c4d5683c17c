import KeyApproval.Proofs.Settlement
import KeyApproval.Proofs.Verdict

/-!
# Undisturbed runs

A run that nobody disturbs ends, and it ends as the answers say. Each call takes the next answer, so the
run is followed along the answers: how many were taken, and what they say so far.
-/

namespace KeyApproval

open Http Step

variable {α : Type} {answers : List (Except ClientError Response)} {lapse : ClientError} {used : Nat}

/-- A server that replies with that answer and does nothing else. -/
def ServerStep.atOnce (answer : Except ClientError Response) : ServerStep := ⟨false, 0, some answer⟩

namespace World

/-- Every request leaves, the answers come at once and in order, and the token never fires. So many
answers were taken so far, each for one request. -/
structure Serves (answers : List (Except ClientError Response)) (lapse : ClientError) (used : Nat)
    (w : World) : Prop where
  check : ∀ r, w.transport.check r = .ok ()
  exhausted : w.transport.exhausted = lapse
  script : w.script = (answers.drop used).map .atOnce
  token : w.token = ⟨false, none, none⟩
  sent : w.requests.length = used

/-- The world with such a server, before anything was sent. -/
def serving (w : World) (answers : List (Except ClientError Response)) (lapse : ClientError) : World :=
  { w with
    transport := ⟨fun _ => .ok (), lapse⟩
    script := answers.map .atOnce
    token := ⟨false, none, none⟩ }

variable {w w' : World}

theorem Serves.isFired (h : w.Serves answers lapse used) : w.isFired = false := by
  rw [World.isFired, h.token]

theorem Serves.of_idles (h : w.Serves answers lapse used) (hidle : w.Idles w')
    (htransport : w'.transport = w.transport) (htoken : w'.token = w.token) :
    w'.Serves answers lapse used where
  check := htransport ▸ h.check
  exhausted := htransport ▸ h.exhausted
  script := hidle.script.trans h.script
  token := htoken.trans h.token
  sent := hidle.requests ▸ h.sent

theorem Serves.log (h : w.Serves answers lapse used) (level : Level) (text : String) :
    (w.log level text).Serves answers lapse used :=
  h.of_idles (idles_log w level text) rfl rfl

theorem Serves.tell (h : w.Serves answers lapse used) (e : Event) :
    (w.tell e).Serves answers lapse used := by
  have hquiet : w.tell e = { w.record (.emitted e) with events := w.events + 1 } := by
    simp [World.tell, h.token]
  exact h.of_idles (idles_tell w e) (by rw [hquiet]; rfl) (by rw [hquiet]; rfl)

theorem Serves.wait (h : w.Serves answers lapse used) (ms : Nat) :
    w.wait ms = (.value (), { w with nowMs := w.nowMs + ms }) := by
  unfold World.wait
  split
  · next hzero =>
      subst hzero
      rfl
  · rw [if_neg (by simp [h.isFired]), h.token]

theorem Serves.sending (h : w.Serves answers lapse used) (r : Request) :
    (w.sending r).Serves answers lapse (used + 1) where
  check := h.check
  exhausted := h.exhausted
  script := by
    change w.script.tail = _
    rw [h.script, ← List.map_tail, List.tail_drop]
  token := h.token
  sent := by
    change (w.record (.sent r)).requests.length = _
    rw [requests_record_sent, List.length_append, h.sent]
    rfl

theorem receive_atOnce (w : World) (answer : Except ClientError Response) :
    w.receive (.atOnce answer) = (.value answer, w) := rfl

theorem Serves.send (h : w.Serves answers lapse used) (r : Request) :
    w.send r = (.value (Replies.ofList answers lapse used), w.sending r) := by
  unfold Replies.ofList
  cases hdrop : answers.drop used with
  | nil =>
    have hscript : w.script = [] := by rw [h.script, hdrop]; rfl
    have hget : answers[used]? = none := List.getElem?_eq_none (List.drop_eq_nil_iff.mp hdrop)
    rw [send_of_script_nil (h.check r) hscript, h.exhausted, List.getD_eq_getElem?_getD, hget]
    rfl
  | cons answer rest =>
    have hscript : w.script = .atOnce answer :: rest.map .atOnce := by rw [h.script, hdrop]; rfl
    have hget : answers[used]? = some answer := by
      rw [← List.head?_drop, hdrop]
      rfl
    rw [send_of_script_cons (h.check r) hscript, receive_atOnce, List.getD_eq_getElem?_getD, hget]
    rfl

end World

open World Client

namespace Client

theorem call_of_serves {c : Client} {method : Method} {path : String} {body : Option String}
    (decode : Response → Decoded α) {w : World} (h : w.Serves answers lapse used)
    (hprepare : ∀ now, ∃ r, c.prepare method path body now = .ok r) :
    ∃ w', c.call method path body decode w =
        (.value (consult decode (Replies.ofList answers lapse used)), w') ∧
      w'.Serves answers lapse (used + 1) := by
  have hclock : w.readClock.2.Serves answers lapse used := h.of_idles (idles_readClock w) rfl rfl
  obtain ⟨r, hr⟩ := hprepare w.readClock.1
  have hsent := hclock.sending r
  rw [call_eq, hr]
  dsimp only
  rw [hclock.send]
  cases hreply : Replies.ofList answers lapse used with
  | error e => exact ⟨_, rfl, hsent⟩
  | ok answer => exact ⟨_, rfl, hsent.of_idles (idles_logAll _ _) rfl rfl⟩

end Client

structure Session.Stands (answers : List (Except ClientError Response)) (lapse : ClientError)
    (used : Nat) (t : Ticket) (s : Session) : Prop where
  ticket : s.ticket = t
  serves : s.world.Serves answers lapse used

/-- The step stopped with an error of that kind, in a world that serves. -/
def Session.Fails (answers : List (Except ClientError Response)) (lapse : ClientError)
    (P : RunError → Nat → Prop) (e : Stop) (s : Session) : Prop :=
  ∃ f n, e = .error f ∧ P f n ∧ s.world.Serves answers lapse n

namespace Applicant

open Session

variable {a : Applicant} {t : Ticket} {id : UInt64} {P : RunError → Nat → Prop}
  {E : Stop → Session → Prop}

/-! ### Building blocks -/

theorem get_stands {g : Session → Step α} {Q : α → Session → Prop}
    (h : ∀ s, s.ticket = t → (g s).Meets (Stands answers lapse used t) Q E) :
    (get >>= g).Meets (Stands answers lapse used t) Q E :=
  Meets.get fun s hs => (h s hs.ticket).pre (by rintro _ rfl; exact hs)

theorem giveUp_fails {e : RunError} {Q : α → Session → Prop} (h : P e used) :
    (giveUp e : Step α).Meets (Stands answers lapse used t) Q (Fails answers lapse P) := by
  intro s hs
  rw [on_giveUp]
  exact ⟨e, used, rfl, h, hs.serves.log _ _⟩

theorem logLine_stands (level : Level) (text : String) :
    (logLine level text).Meets (Stands answers lapse used t) (fun _ => Stands answers lapse used t) E :=
  Meets.modify fun _ hs => ⟨hs.ticket, hs.serves.log _ _⟩

theorem tell_stands (e : Event) :
    (a.tell e).Meets (Stands answers lapse used t) (fun _ => Stands answers lapse used t) E := by
  unfold tell
  split
  · exact Meets.modify fun _ hs => ⟨hs.ticket, hs.serves.tell _⟩
  · exact Meets.pure fun _ hs => hs

theorem moveTo_stands {next : Stage} (h : t.stage.canBecome next = true) :
    (a.moveTo next).Meets (Stands answers lapse used t)
      (fun _ => Stands answers lapse used { t with stage := next }) E := by
  rintro s ⟨rfl, hs⟩
  rw [on_moveTo h]
  exact tell_stands _ _ ⟨rfl, hs⟩

theorem pendingNumber_stands {g : UInt64 → Step α} {Q : α → Session → Prop}
    (hstage : t.stage = .pending) (hid : t.id = some id)
    (h : (g id).Meets (Stands answers lapse used t) Q E) :
    (pendingNumber >>= g).Meets (Stands answers lapse used t) Q E := by
  rintro s ⟨rfl, hs⟩
  rw [on_bind_of_ok (on_pendingNumber hstage hid)]
  exact h s ⟨rfl, hs⟩

theorem sleep_stands :
    a.sleep.Meets (Stands answers lapse used t) (fun _ => Stands answers lapse used t) E := by
  rintro s ⟨rfl, hs⟩
  have hslept := hs.of_idles (idles_slept s.world a.polling.intervalMs) rfl rfl
  rw [on_sleep hs.isFired, hslept.wait]
  exact ⟨rfl, hslept.of_idles (idles_advance _ _) rfl rfl⟩

/-- A call gives what the next answer says, or fails with its fault. -/
theorem ask_stands {c : Client} {method : Method} {path : String} {body : Option String}
    {decode : Response → Decoded α}
    (hprepare : ∀ now, ∃ r, c.prepare method path body now = .ok r)
    (hfault : ∀ e, consult decode (Replies.ofList answers lapse used) = .error e →
      P (.client e) (used + 1)) :
    (ask (c.call method path body decode)).Meets (Stands answers lapse used t)
      (fun b s => consult decode (Replies.ofList answers lapse used) = .ok b ∧
        Stands answers lapse (used + 1) t s)
      (Fails answers lapse P) := by
  rintro s ⟨rfl, hs⟩
  obtain ⟨w, hcall, hserves⟩ := call_of_serves decode hs hprepare
  rw [on_ask _ hs.isFired, hcall]
  cases hconsult : consult decode (Replies.ofList answers lapse used) with
  | error e => exact ⟨.client e, used + 1, rfl, hfault e hconsult, hserves.log _ _⟩
  | ok b => exact ⟨rfl, rfl, hserves⟩

/-! ### Counting polls -/

theorem toNat_countUp (n : UInt32) : (countUp n).toNat = min (n.toNat + 1) 0xFFFFFFFF := by
  have hlt := n.toNat_lt
  unfold countUp
  split
  · next h =>
      subst h
      decide
  · next h =>
      have hne : n.toNat ≠ 0xFFFFFFFF := fun he => h (UInt32.toNat_inj.mp he)
      rw [UInt32.toNat_add, UInt32.toNat_one, Nat.mod_eq_of_lt (by omega)]
      omega

theorem permits_iff_allows {p : Polling} {polls : Nat} {n : UInt32}
    (hcount : n.toNat = min polls 0xFFFFFFFF) : p.Permits (polls + 1) ↔ p.allows n = true := by
  unfold Polling.Permits Polling.allows
  cases p.maxAttempts with
  | none => simp
  | some limit =>
    have hlt := limit.toNat_lt
    simp only [Option.some.injEq, forall_eq', decide_eq_true_eq, UInt32.lt_iff_toNat_lt, hcount]
    omega

/-- The first number of polls after which no other may follow is the limit. -/
theorem eq_limit_of_not_allows {p : Polling} {polls : Nat} {n : UInt32}
    (hcount : n.toNat = min polls 0xFFFFFFFF) (hpermits : p.Permits polls)
    (h : ¬p.allows n = true) : p.maxAttempts = some n ∧ n.toNat = polls := by
  unfold Polling.allows at h
  unfold Polling.Permits at hpermits
  cases hmax : p.maxAttempts with
  | none => simp [hmax] at h
  | some limit =>
    have hle := hpermits limit hmax
    have hlt := limit.toNat_lt
    simp only [hmax, decide_eq_true_eq, UInt32.lt_iff_toNat_lt] at h
    have heq : limit = n := UInt32.toNat_inj.mp (by omega)
    subst heq
    exact ⟨rfl, by omega⟩

/-! ### The steps -/

/-- The answers say that the run fails so. -/
abbrev Foretold (a : Applicant) (answers : List (Except ClientError Response)) (lapse : ClientError)
    (e : RunError) (n : Nat) : Prop :=
  Verdict a.polling (.ofList answers lapse) (.error e) n

variable {polls : Nat} (hmade : a.client.Made) (hhttp : a.client.SpeaksHttp)
include hmade hhttp

theorem create_stands (hstage : t.stage = .created) :
    a.create.Meets (Stands answers lapse 0 t)
      (fun _ s => ∃ id, Replies.Begin (.ofList answers lapse) id 0 ∧
        Stands answers lapse 1 { t with id := some id, stage := .pending } s)
      (Fails answers lapse (a.Foretold answers lapse)) := by
  refine Meets.bind (expectStage_meets fun s hs => hs.ticket ▸ hstage) fun _ => ?_
  refine get_stands fun s hs => ?_
  refine Meets.bind (logLine_stands _ _) fun _ => ?_
  rw [Client.requestKey_eq]
  refine Meets.bind (ask_stands (exists_prepare_requestsPath hmade hhttp _ _) ?_) fun id => ?_
  · intro e he
    exact .ungranted (consult_eq_error_iff.mp he)
  · refine Meets.bind (Q := fun _ u => Replies.Begin (.ofList answers lapse) id 0 ∧
      Stands answers lapse 1 { t with id := some id } u) (Meets.modify ?_) fun _ => ?_
    · rintro u ⟨hgrant, rfl, hu⟩
      exact ⟨⟨Replies.says_grants_iff.mpr hgrant, nofun⟩, rfl, hu⟩
    · intro u ⟨hbegin, hu⟩
      exact (moveTo_stands (by rw [hstage]; rfl)).post (fun _ _ hv => ⟨id, hbegin, hv⟩) u hu

theorem poll_stands (hstage : t.stage = .pending) (hid : t.id = some id)
    (hbegin : Replies.Begin (.ofList answers lapse) id polls)
    (hpermits : a.polling.Permits (polls + 1)) :
    a.poll.Meets (Stands answers lapse (polls + 1) t)
      (fun stage s => Replies.Says (.ofList answers lapse) (polls + 1) (·.Tells stage) ∧
        (stage = .pending ∨ stage = .accepted ∨ stage = .denied) ∧
        Stands answers lapse (polls + 2) { t with stage } s)
      (Fails answers lapse (a.Foretold answers lapse)) := by
  apply pendingNumber_stands hstage hid
  rw [Client.inquire_eq]
  refine Meets.bind (ask_stands (exists_prepare_requestPath hmade hhttp id _ _) ?_) fun stage => ?_
  · intro e he
    exact .decided hbegin hpermits (.unpolled (consult_eq_error_iff.mp he))
  · apply Meets.given
    intro htold
    have hspoken := Replies.says_of_consult htold
    have hmove {next : Stage} (hspoken : Replies.Says (.ofList answers lapse) (polls + 1) (·.Tells next))
        (hnext : Stage.pending.canBecome next = true)
        (hkind : next = .pending ∨ next = .accepted ∨ next = .denied) :
        (do a.moveTo next; pure next : Step Stage).Meets (Stands answers lapse (polls + 2) t)
          (fun stage s => Replies.Says (.ofList answers lapse) (polls + 1) (·.Tells stage) ∧
            (stage = .pending ∨ stage = .accepted ∨ stage = .denied) ∧
            Stands answers lapse (polls + 2) { t with stage } s)
          (Fails answers lapse (a.Foretold answers lapse)) :=
      Meets.bind (moveTo_stands (by rw [hstage]; exact hnext)) fun _ =>
        Meets.pure fun u hu => ⟨hspoken, hkind, hu⟩
    cases stage with
    | pending => exact Meets.pure fun s hs => ⟨hspoken, .inl rfl, by rw [hs.ticket, ← hstage], hs.serves⟩
    | accepted => exact hmove hspoken rfl (.inr (.inl rfl))
    | denied => exact hmove hspoken rfl (.inr (.inr rfl))
    | fulfilled => exact giveUp_fails (Verdict.decided hbegin hpermits (.unexpected hspoken))
    | created => exact absurd rfl (Replies.isServed_of_consult htold).1
    | failed => exact absurd rfl (Replies.isServed_of_consult htold).2

/-- The loop polls until an answer decides or the limit is reached. -/
theorem pollFrom_stands (fuel : Nat) (attempts : UInt32) (hstage : t.stage = .pending)
    (hid : t.id = some id) (hbegin : Replies.Begin (.ofList answers lapse) id polls)
    (hpermits : a.polling.Permits (polls + 1)) (hcount : attempts.toNat = min polls 0xFFFFFFFF)
    (hfuel : answers.length ≤ polls + fuel) :
    (a.pollFrom id fuel attempts).Meets (Stands answers lapse (polls + 1) t)
      (fun _ s => ∃ polls, Replies.Begin (.ofList answers lapse) id polls ∧
        a.polling.Permits (polls + 1) ∧
        Replies.Says (.ofList answers lapse) (polls + 1) (·.Tells .accepted) ∧
        Stands answers lapse (polls + 2) { t with stage := .accepted } s)
      (Fails answers lapse (a.Foretold answers lapse)) := by
  -- the fuel outlasts the answers, and all polls so far were answered from the list
  induction fuel generalizing attempts polls with
  | zero => exact absurd hbegin.lt_length (by omega)
  | succ fuel ih =>
    rw [pollFrom]
    apply Meets.bind (poll_stands hmade hhttp hstage hid hbegin hpermits)
    intro stage
    refine Meets.given fun hspoken => Meets.given fun hkind => ?_
    rcases hkind with rfl | rfl | rfl
    · have hbegin' : Replies.Begin (.ofList answers lapse) id (polls + 1) := by
        refine ⟨hbegin.granted, fun i hi => ?_⟩
        rcases Nat.lt_succ_iff_lt_or_eq.mp hi with hlt | rfl
        · exact hbegin.pending i hlt
        · exact hspoken
      have hcount' : (countUp attempts).toNat = min (polls + 1) 0xFFFFFFFF := by
        rw [toNat_countUp, hcount]
        omega
      have hsame : ∀ s, Stands answers lapse (polls + 2) { t with stage := .pending } s →
          Stands answers lapse (polls + 2) t s :=
        fun s hs => ⟨by rw [hs.ticket, ← hstage], hs.serves⟩
      refine Meets.pre ?_ hsame
      dsimp only
      split
      next hallows =>
        refine Meets.bind (tell_stands _) fun _ => ?_
        refine Meets.bind sleep_stands fun _ => ?_
        apply ih _ hbegin' ((permits_iff_allows hcount').mpr hallows) hcount'
        omega
      next hallows =>
        obtain ⟨hlimit, hpolls⟩ := eq_limit_of_not_allows hcount' hpermits hallows
        have hexceeded : a.Foretold answers lapse (.pollLimitExceeded id (countUp attempts))
            ((countUp attempts).toNat + 1) := .exceeded (by rwa [hpolls]) hlimit
        rw [hpolls] at hexceeded
        exact giveUp_fails hexceeded
    · exact Meets.pure fun s hs => ⟨polls, hbegin, hpermits, hspoken, hs⟩
    · refine Meets.bind (logLine_stands _ _) fun _ => ?_
      exact Meets.throw fun u hu =>
        ⟨_, polls + 2, rfl, .decided hbegin hpermits (.denied hspoken), hu.serves⟩

theorem awaitDecision_stands (hstage : t.stage = .pending) (hid : t.id = some id)
    (hbegin : Replies.Begin (.ofList answers lapse) id 0) :
    a.awaitDecision.Meets (Stands answers lapse 1 t)
      (fun _ s => ∃ polls, Replies.Begin (.ofList answers lapse) id polls ∧
        a.polling.Permits (polls + 1) ∧
        Replies.Says (.ofList answers lapse) (polls + 1) (·.Tells .accepted) ∧
        Stands answers lapse (polls + 2) { t with stage := .accepted } s)
      (Fails answers lapse (a.Foretold answers lapse)) := by
  apply pendingNumber_stands hstage hid
  split
  next hallows =>
    apply Meets.get
    intro u hu
    refine (pollFrom_stands hmade hhttp _ 0 hstage hid hbegin ((permits_iff_allows rfl).mpr hallows)
      rfl ?_).pre ?_
    · rw [hu.serves.script, List.length_map, List.length_drop]
      omega
    · rintro _ rfl
      exact hu
  next hallows =>
    obtain ⟨hlimit, -⟩ := eq_limit_of_not_allows (n := 0) rfl (fun _ _ => Nat.zero_le _) hallows
    have hexceeded : a.Foretold answers lapse (.pollLimitExceeded id 0) 1 := .exceeded hbegin hlimit
    exact giveUp_fails hexceeded

theorem fulfill_stands (hstage : t.stage = .accepted) (hid : t.id = some id)
    (hbegin : Replies.Begin (.ofList answers lapse) id polls) (hpermits : a.polling.Permits (polls + 1))
    (htold : Replies.Says (.ofList answers lapse) (polls + 1) (·.Tells .accepted)) :
    a.fulfill.Meets (Stands answers lapse (polls + 2) t)
      (fun secret s => Verdict a.polling (.ofList answers lapse) (.ok secret) (polls + 3) ∧
        s.world.Serves answers lapse (polls + 3))
      (Fails answers lapse (a.Foretold answers lapse)) := by
  refine Meets.bind (expectStage_meets fun s hs => hs.ticket ▸ hstage) fun _ => ?_
  apply get_stands
  intro s hs
  rw [hs, hid]
  dsimp only
  rw [Client.collect_eq]
  refine Meets.bind (ask_stands (exists_prepare_requestPath hmade hhttp id _ _) ?_) fun secret => ?_
  · intro e he
    exact .decided hbegin hpermits (.uncollected htold (consult_eq_error_iff.mp he))
  · apply Meets.given
    intro hsecret
    refine Meets.bind (moveTo_stands (by rw [hstage]; rfl)) fun _ => ?_
    refine Meets.bind (logLine_stands _ _) fun _ => ?_
    refine Meets.pure fun u hu => ⟨?_, hu.serves⟩
    exact .decided hbegin hpermits (.fulfilled htold (Replies.says_handsOver_iff.mpr hsecret))

/-- A run of a fresh ticket ends as the answers say. -/
theorem run_stands (hstage : t.stage = .created) :
    a.run.Meets (Stands answers lapse 0 t)
      (fun secret s => ∃ n, Verdict a.polling (.ofList answers lapse) (.ok secret) n ∧
        s.world.Serves answers lapse n)
      (Fails answers lapse (a.Foretold answers lapse)) := by
  refine Meets.bind (create_stands hmade hhttp hstage) fun _ => ?_
  rintro s ⟨id, hbegin, hs⟩
  refine Meets.bind (awaitDecision_stands hmade hhttp rfl rfl hbegin) (fun _ => ?_) s hs
  rintro u ⟨polls, hbegin', hpermits, htold, hu⟩
  exact (fulfill_stands hmade hhttp rfl rfl hbegin' hpermits htold).post
    (fun secret v hv => ⟨polls + 3, hv⟩) u hu

omit hmade hhttp

theorem mapError_injective {r r' : Except RunError String}
    (h : r.mapError Stop.error = r'.mapError Stop.error) : r = r' := by
  cases r <;> cases r' <;> cases h <;> rfl

end Applicant

namespace World

theorem serves_fresh (handle : String) (w : World) (answers : List (Except ClientError Response))
    (lapse : ClientError) :
    Session.Stands answers lapse 0 (.new handle) (.fresh handle (w.serving answers lapse)) :=
  ⟨rfl, fun _ => rfl, rfl, rfl, rfl, rfl⟩

end World

namespace Applicant

/-- An undisturbed run of a client for HTTP ends. It gives the secret, is denied, or reaches the limit of
its polls exactly if the answers say so, and in every other case it fails with what is wrong with the
first answer that is out of line; and it sends no request after the one that decides. -/
theorem run_verdict (a : Applicant) (hmade : a.client.Made) (hhttp : a.client.SpeaksHttp)
    (handle : String) (w : World) (answers : List (Except ClientError Response))
    (lapse : ClientError) :
    let replies := Replies.ofList answers lapse
    let ending := a.run.on (.fresh handle (w.serving answers lapse))
    (∃ result : Except RunError String, ending.1 = result.mapError .error) ∧
      (∀ secret, ending.1 = .ok secret ↔
        ∃ id polls, replies.Begin id polls ∧ a.polling.Permits (polls + 1) ∧
          replies.Says (polls + 1) (·.Tells .accepted) ∧
          replies.Says (polls + 2) (·.HandsOver secret)) ∧
      (∀ id, ending.1 = .error (.error (.denied id)) ↔
        ∃ polls, replies.Begin id polls ∧ a.polling.Permits (polls + 1) ∧
          replies.Says (polls + 1) (·.Tells .denied)) ∧
      (∀ id limit, ending.1 = .error (.error (.pollLimitExceeded id limit)) ↔
        a.polling.maxAttempts = some limit ∧ replies.Begin id limit.toNat) ∧
      ∀ (result : Except RunError String) n,
        ending.1 = result.mapError .error ∧ ending.2.world.requests.length = n ↔
          Verdict a.polling replies result n := by
  intro replies ending
  have hend : ∃ (result : Except RunError String) (n : Nat), ending.1 = result.mapError .error ∧
      Verdict a.polling replies result n ∧ ending.2.world.requests.length = n := by
    have hmeets := run_stands hmade hhttp rfl _ (World.serves_fresh handle w answers lapse)
    rcases hrun : a.run.on (.fresh handle (w.serving answers lapse)) with ⟨e | secret, t⟩
    · rw [hrun] at hmeets
      obtain ⟨f, n, rfl, hverdict, hserves⟩ := hmeets
      exact ⟨.error f, n, congrArg Prod.fst hrun, hverdict,
        (congrArg (·.2.world.requests.length) hrun).trans hserves.sent⟩
    · rw [hrun] at hmeets
      obtain ⟨n, hverdict, hserves⟩ := hmeets
      exact ⟨.ok secret, n, congrArg Prod.fst hrun, hverdict,
        (congrArg (·.2.world.requests.length) hrun).trans hserves.sent⟩
  obtain ⟨result, n, hresult, hverdict, hsent⟩ := hend
  have hiff (result' : Except RunError String) (n' : Nat) :
      ending.1 = result'.mapError .error ∧ ending.2.world.requests.length = n' ↔
        Verdict a.polling replies result' n' := by
    constructor
    · rintro ⟨h, rfl⟩
      rw [hsent, ← mapError_injective (hresult.symm.trans h)]
      exact hverdict
    · intro h
      obtain ⟨rfl, rfl⟩ := hverdict.unique h
      exact ⟨hresult, hsent⟩
  have hexists (result' : Except RunError String) :
      ending.1 = result'.mapError .error ↔ ∃ n, Verdict a.polling replies result' n := by
    constructor
    · exact fun h => ⟨_, (hiff result' _).mp ⟨h, rfl⟩⟩
    · exact fun ⟨n, h⟩ => ((hiff result' n).mpr h).1
  refine ⟨⟨result, hresult⟩, fun secret => ?_, fun id => ?_, fun id limit => ?_, hiff⟩
  · exact (hexists (.ok secret)).trans Verdict.exists_ok_iff
  · exact (hexists (.error (.denied id))).trans Verdict.exists_denied_iff
  · exact (hexists (.error (.pollLimitExceeded id limit))).trans Verdict.exists_limit_iff

/-- After one poll in vain the limit of two leaves room for the one that decides. -/
theorem run_verdict_loopback :
    let text (status : UInt16) (body : String) : Except ClientError Response :=
      .ok ⟨status, .empty, Text.Utf8.encodeString body⟩
    let answers := [text 201 (Text.braced "\"id\": 7"), text 200 (Text.braced "\"state\": \"PENDING\""),
      text 200 (Text.braced "\"state\": \"ACCEPTED\""), text 200 "sesame\n"]
    let w : World := ⟨⟨fun _ => .ok (), .network none⟩, fun _ => default, 0, [], 0, ⟨false, none, none⟩, 0, []⟩
    Client.loopback.Made ∧ Client.loopback.SpeaksHttp ∧
      (run ⟨Client.loopback, ⟨1000, some 2⟩, true⟩ |>.on
        (.fresh "disk" (w.serving answers (.network none)))).1 = .ok "sesame" := by
  intro text answers w
  have hhttp : Client.loopback.SpeaksHttp := .inr rfl
  have hverdict := run_verdict ⟨Client.loopback, ⟨1000, some 2⟩, true⟩ Client.made_loopback hhttp "disk" w
    answers (.network none)
  refine ⟨Client.made_loopback, hhttp, (hverdict.2.1 "sesame").mpr ⟨7, 1, ⟨?_, ?_⟩, ?_, ?_, ?_⟩⟩
  · exact Replies.says_grants_iff.mpr (by decide +kernel)
  · intro i hi
    obtain rfl : i = 0 := by omega
    exact Replies.says_of_consult (by decide +kernel)
  · rintro limit ⟨⟩
    decide
  · exact Replies.says_of_consult (by decide +kernel)
  · exact Replies.says_handsOver_iff.mpr (by decide +kernel)

end Applicant

end KeyApproval
