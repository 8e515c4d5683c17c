import KeyApproval.Proofs.History
import KeyApproval.Proofs.Settlement

/-!
# The protocol in any order of steps

Each step of an applicant takes a sound session to a sound one, however the server answers and whenever
the token fires. So whatever the steps and their order are, the requests of a ticket are one application,
then questions about the number that was granted, then one collection after an acceptance was told; and a
settled ticket stays as it is.
-/

namespace KeyApproval

open Step

variable {α : Type} {script : List ServerStep} {known : Option UInt64}

/-- The step may be made in every sound session, and where it does not hang, the next one may be made. -/
def Step.Upholds (script : List ServerStep) (known : Option UInt64) (x : Step α) : Prop :=
  x.Meets (Session.Sound script known) (fun _ => Session.Sound script known)
    (Session.Halted script known)

namespace Applicant

variable {a : Applicant} {s : Session}

/-! ### Building blocks -/

theorem giveUp_of_orderly {e : RunError} {P : Session → Prop} {Q : α → Session → Prop}
    (h : ∀ s, P s → s.Orderly script known) :
    (giveUp e : Step α).Meets P Q (Session.Halted script known) := by
  intro s hs
  rw [on_giveUp]
  exact ((h s hs).givenUp e).halted

theorem logLine_upholds (level : Level) (text : String) :
    (logLine level text).Upholds script known :=
  Meets.modify fun _ hs => hs.of_idles (World.idles_log _ _ _)

theorem expectStage_sound (stage : Stage) :
    (expectStage stage).Meets (Session.Sound script known)
      (fun _ s => s.Sound script known ∧ s.ticket.stage = stage) (Session.Halted script known) := by
  intro s hs
  by_cases h : s.ticket.stage = stage
  · rw [on_expectStage_of_eq h]
    exact ⟨hs, h⟩
  · rw [on_expectStage_of_ne h]
    exact hs.halted

theorem pendingNumber_sound :
    pendingNumber.Meets (Session.Sound script known)
      (fun id s => s.Sound script known ∧ s.Holds .pending id) (Session.Halted script known) := by
  refine Meets.bind (expectStage_sound .pending) fun _ => ?_
  apply Meets.get
  intro s hs
  cases hid : s.ticket.id with
  | none => exact Meets.throw fun t ht => ht ▸ hs.1.halted
  | some id =>
    apply Meets.pure
    rintro t rfl
    exact ⟨hs.1, hs.2, hid⟩

theorem moveTo_sound {t : Ticket} {next : Stage} (h : t.stage.canBecome next = true) :
    (a.moveTo next).Meets
      (fun s => s.ticket = t ∧ Session.Sound script known ⟨{ t with stage := next }, s.world⟩)
      (fun _ s => s.Sound script known ∧ s.ticket.stage = next) (Session.Halted script known) := by
  rintro s ⟨rfl, hs⟩
  rw [on_moveTo h]
  refine tell_of_idles (I := fun s => s.Sound script known ∧ s.ticket.stage = next) _ ?_ _ ⟨hs, rfl⟩
  exact fun t w ht hw => ⟨ht.1.of_idles hw, ht.2⟩

theorem sleep_upholds : a.sleep.Upholds script known := by
  apply sleep_of_idles
  · exact fun s w hs hidle => hs.of_idles hidle
  · exact fun s w hs hidle => ((hs.1.of_idles hidle).givenUp _).halted

/-! ### Calls -/

/-- A call is sound when its request is lawful, and the answer is the one at the place of the request. -/
theorem ask_sound (c : Client) {method : Http.Method} {path : String} (body : Option String)
    {decode : Http.Response → Client.Decoded α} (hs : s.Orderly script known)
    (hlawful : ∀ r : Request, r.method = method → c.baseUrl.join path = .ok r.url →
      Lawful script s.ticket.id (s.world.requests ++ [r])) :
    (ask (c.call method path body decode)).Meets (· = s)
      (fun b t => t.Orderly script known ∧ t.ticket = s.ticket ∧
        ∃ r, s.Sends c method path r t.world ∧
          ∃ step ∈ script[s.world.requests.length]?, step.Yields decode b)
      (Session.Halted script known) := by
  have hsends {r : Request} {w : World} (hsent : s.Sends c method path r w) :
      Session.Orderly script known ⟨s.ticket, w⟩ :=
    hs.of_sends hsent (hlawful r hsent.method_eq hsent.url_eq)
  apply ask_of_sends
  · rintro _ w e rfl hidle
    exact ((hs.of_idles hidle).givenUp _).halted
  · rintro _ r w e rfl hsent
    exact ((hsends hsent).givenUp _).halted
  · rintro _ r w b rfl hsent ⟨step, hstep, hyields⟩
    rw [hs.answered, List.head?_drop] at hstep
    exact ⟨hsends hsent, rfl, r, hsent, step, hstep, hyields⟩
  · rintro _ r w rfl hsent -
    exact ⟨hsends hsent, fun h => absurd rfl h⟩

/-! ### The steps -/

theorem create_upholds : a.create.Upholds script known := by
  refine Meets.bind (expectStage_sound .created) fun _ => ?_
  apply Meets.get
  intro s hs
  refine Meets.bind (Q := fun _ t => t.Sound script known ∧ t.ticket = s.ticket) (Meets.modify ?_)
    fun _ t ht => ?_
  · rintro t rfl
    exact ⟨hs.1.of_idles (World.idles_log _ _ _), rfl⟩
  obtain ⟨hsound, hticket⟩ := ht
  have hstage : t.ticket.stage = .created := by rw [hticket, hs.2]
  have hid := hsound.1.unnumbered hstage
  have hnone : t.world.requests = [] := by
    have hready := hsound.2
    rwa [Session.Ready, hstage] at hready
  rw [Client.requestKey_eq]
  refine Meets.bind (ask_sound a.client _ hsound.1 ?_) (fun id => ?_) t rfl
  · intro r hmethod _
    rw [hid, hnone]
    exact .applied hmethod
  · refine Meets.bind (Q := fun _ u => u.ticket = { t.ticket with id := some id } ∧
      Session.Sound script known ⟨{ t.ticket with id := some id, stage := .pending }, u.world⟩)
      (Meets.modify ?_) fun _ => (moveTo_sound (by rw [hstage]; rfl)).post fun _ _ h => h.1
    rintro u ⟨hu, hsame, r, hsent, step, hstep, hgrant⟩
    rw [hnone, List.length_nil, ← List.head?_eq_getElem?] at hstep
    have hinquired : Inquired script id u.world.requests := by
      rw [hsent.requests_eq, hnone]
      exact .granted hsent.method_eq hstep hgrant
    refine ⟨by rw [hsame], ⟨hu.answered, .inquired hinquired, ?_, ?_, ?_⟩, ?_⟩
    · exact fun h => nomatch h
    · exact fun _ => ⟨id, rfl⟩
    · intro n hn
      have hkept := hsound.1.kept n hn
      rw [hid] at hkept
      contradiction
    · exact ⟨id, rfl, hinquired⟩

theorem poll_upholds : a.poll.Upholds script known := by
  apply Meets.bind pendingNumber_sound
  intro id s hs
  obtain ⟨hsound, hstage, hid⟩ := hs
  have hinquired : Inquired script id s.world.requests := by
    have hready := hsound.2
    rw [Session.Ready, hstage] at hready
    obtain ⟨n, hn, hinquired⟩ := hready
    cases hid.symm.trans hn
    exact hinquired
  have hasked : ∀ r : Request, r.method = .get →
      a.client.baseUrl.join (Client.requestPath id) = .ok r.url →
      Inquired script id (s.world.requests ++ [r]) :=
    fun r hmethod hurl => .asked hinquired hmethod (Url.namesRequest_of_join hurl)
  rw [Client.inquire_eq]
  refine Meets.bind (ask_sound a.client none hsound.1 ?_) (fun stage => ?_) s rfl
  · intro r hmethod hurl
    rw [hid]
    exact .inquired (hasked r hmethod hurl)
  · -- whatever the answer tells, one more question stands at the end of the history
    have hmove {next : Stage} (hnext : Stage.pending.canBecome next = true)
        (hready : ∀ t : Session, Inquired script id t.world.requests →
          ToldLast script t.world.requests next → t.ticket.id = some id → t.ticket.stage = next →
          t.Ready script) (hserved : next ≠ .created) :
        (do a.moveTo next; pure next : Step Stage).Meets
          (fun t => t.Orderly script known ∧ t.ticket = s.ticket ∧
            ∃ r, s.Sends a.client .get (Client.requestPath id) r t.world ∧
              ∃ step ∈ script[s.world.requests.length]?, step.Yields Client.decodeState next)
          (fun _ => Session.Sound script known) (Session.Halted script known) := by
      refine Meets.bind ((moveTo_sound (t := s.ticket) ?_).pre ?_) fun _ => Meets.pure fun _ h => h.1
      · rw [hstage]
        exact hnext
      · rintro t ⟨ht, hsame, r, hr, step, hstep, htold⟩
        have hhistory := hasked r hr.method_eq hr.url_eq
        rw [← hr.requests_eq] at hhistory
        refine ⟨hsame, ⟨ht.answered, ?_, fun h => absurd h hserved, fun _ => ⟨id, hid⟩, ?_⟩, ?_⟩
        · rw [hid]
          exact .inquired hhistory
        · exact fun n hn => hsame ▸ ht.kept n hn
        · exact hready _ hhistory ⟨_, r, hr.requests_eq, hr.method_eq, step, hstep, htold⟩ hid rfl
    cases stage with
    | pending =>
      apply Meets.pure
      rintro t ⟨ht, hsame, r, hr, -⟩
      have hhistory := hasked r hr.method_eq hr.url_eq
      rw [← hr.requests_eq] at hhistory
      refine ⟨ht, ?_⟩
      rw [Session.Ready, hsame, hstage]
      exact ⟨id, hid, hhistory⟩
    | accepted =>
      refine hmove rfl (fun t hhistory htold hn ht => ?_) nofun
      rw [Session.Ready, ht]
      exact ⟨id, hn, hhistory, htold⟩
    | denied =>
      exact hmove rfl (fun t _ _ _ ht => Session.ready_of_isTerminal (by rw [ht]; rfl)) nofun
    | created => exact giveUp_of_orderly fun _ h => h.1
    | fulfilled => exact giveUp_of_orderly fun _ h => h.1
    | failed => exact giveUp_of_orderly fun _ h => h.1

theorem pollFrom_upholds (id : UInt64) (answers : Nat) (attempts : UInt32) :
    (a.pollFrom id answers attempts).Upholds script known := by
  induction answers generalizing attempts with
  | zero => exact Meets.throw fun _ h => h.halted
  | succ answers ih =>
    rw [pollFrom]
    apply Meets.bind poll_upholds
    intro stage
    cases stage with
    | denied => exact Meets.bind (logLine_upholds _ _) fun _ => Meets.throw fun _ h => h.halted
    | pending =>
      dsimp only
      split
      · refine Meets.bind (tell_of_idles _ fun _ _ hs hw => hs.of_idles hw) fun _ => ?_
        exact Meets.bind sleep_upholds fun _ => ih _
      · exact giveUp_of_orderly fun _ h => h.1
    | created => exact Meets.pure fun _ h => h
    | accepted => exact Meets.pure fun _ h => h
    | fulfilled => exact Meets.pure fun _ h => h
    | failed => exact Meets.pure fun _ h => h

theorem awaitDecision_upholds : a.awaitDecision.Upholds script known := by
  apply Meets.bind (pendingNumber_sound.post fun _ _ h => h.1)
  intro id
  split
  · apply Meets.get
    intro s hs
    apply (pollFrom_upholds id _ 0).pre
    rintro t rfl
    exact hs
  · exact giveUp_of_orderly fun _ h => h.1

theorem fulfill_upholds : a.fulfill.Upholds script known := by
  refine Meets.bind (expectStage_sound .accepted) fun _ => ?_
  refine Meets.get fun s ⟨hsound, hstage⟩ => ?_
  have hready := hsound.2
  rw [Session.Ready, hstage] at hready
  obtain ⟨id, hid, hinquired, htold⟩ := hready
  rw [hid]
  have hlawful : ∀ r : Request, r.method = .patch →
      a.client.baseUrl.join (Client.requestPath id) = .ok r.url →
      Lawful script s.ticket.id (s.world.requests ++ [r]) := by
    intro r hmethod hurl
    rw [hid]
    exact .collected hinquired htold hmethod (Url.namesRequest_of_join hurl)
  dsimp only
  rw [Client.collect_eq]
  refine Meets.bind (ask_sound a.client _ hsound.1 hlawful) fun secret => ?_
  refine Meets.bind ((moveTo_sound (t := s.ticket) ?_).pre ?_) fun _ => ?_
  · rw [hstage]
    rfl
  · rintro t ⟨ht, hsame, -⟩
    refine ⟨hsame, ⟨ht.answered, ?_, nofun, fun _ => ⟨id, hid⟩, ?_⟩, ?_⟩
    · exact hsame ▸ ht.lawful
    · exact fun n hn => hsame ▸ ht.kept n hn
    · exact Session.ready_of_isTerminal rfl
  · refine Meets.bind ((logLine_upholds _ _).pre fun _ h => h.1) fun _ => ?_
    exact Meets.pure fun _ h => h

theorem run_upholds : a.run.Upholds script known :=
  Meets.bind create_upholds fun _ => Meets.bind awaitDecision_upholds fun _ => fulfill_upholds

end Applicant

/-! ### Moves -/

/-- What may be done with a ticket: a step of an applicant, or what happens between two of them. -/
inductive Move where
  | create
  | poll
  | awaitDecision
  | fulfill
  | run
  /-- Somebody fires the token. -/
  | cancel
  | pause (ms : Nat)

/-- The stage in which it is the turn of the move. -/
def Move.turn : Move → Option Stage
  | create | run => some .created
  | poll | awaitDecision => some .pending
  | fulfill => some .accepted
  | cancel | pause _ => none

theorem Move.turn_ne_of_isTerminal (m : Move) {stage : Stage} (h : stage.isTerminal = true) :
    m.turn ≠ some stage := by
  rintro hturn
  cases m <;> cases hturn <;> contradiction

/-- Makes a step whatever comes of it, as long as it ends. -/
def Step.attempt (x : Step α) : Step Unit :=
  ExceptT.mk fun s =>
    match x.on s with
    | (.error .hung, t) => (.error .hung, t)
    | (_, t) => (.ok (), t)

namespace Step

theorem on_attempt (x : Step α) (s : Session) :
    x.attempt.on s = match x.on s with
      | (.error .hung, t) => (.error .hung, t)
      | (_, t) => (.ok (), t) := rfl

theorem Meets.attempt {P : Session → Prop} {Q E : Session → Prop} {x : Step α}
    (h : x.Meets P (fun _ => Q) fun e s => E s ∧ (e ≠ .hung → Q s)) :
    x.attempt.Meets P (fun _ => Q) fun _ => E := by
  intro s hs
  have hend := h s hs
  rw [on_attempt]
  rcases hx : x.on s with ⟨(_ | _) | _, t⟩
  · rw [hx] at hend
    exact hend.2 nofun
  · rw [hx] at hend
    exact hend.1
  · rw [hx] at hend
    exact hend

end Step

namespace Applicant

variable {a : Applicant} {s t : Session}

def perform (a : Applicant) : Move → Step Unit
  | .create => a.create
  | .poll => do let _ ← a.poll; pure ()
  | .awaitDecision => a.awaitDecision
  | .fulfill => do let _ ← a.fulfill; pure ()
  | .run => do let _ ← a.run; pure ()
  | .cancel => modify fun s => { s with world := s.world.fire }
  | .pause ms => modify fun s => { s with world := (s.world.wait ms).2 }

/-- Makes the moves in their order, up to one that never ends. -/
def performAll (a : Applicant) (moves : List Move) : Step Unit :=
  moves.forM fun m => (a.perform m).attempt

theorem perform_upholds (m : Move) : (a.perform m).Upholds script known := by
  cases m with
  | create => exact create_upholds
  | poll => exact Meets.bind poll_upholds fun _ => Meets.pure fun _ h => h
  | awaitDecision => exact awaitDecision_upholds
  | fulfill => exact Meets.bind fulfill_upholds fun _ => Meets.pure fun _ h => h
  | run => exact Meets.bind run_upholds fun _ => Meets.pure fun _ h => h
  | cancel => exact Meets.modify fun s hs => hs.of_idles (World.idles_fire _)
  | pause ms => exact Meets.modify fun s hs => hs.of_idles (World.idles_wait _ _)

/-- What every move keeps and a hung one does not violate, all moves keep. -/
theorem performAll_meets {P : Session → Prop} {E : Session → Prop} (moves : List Move)
    (h : ∀ m, (a.perform m).Meets P (fun _ => P) fun e s => E s ∧ (e ≠ .hung → P s)) :
    (a.performAll moves).Meets P (fun _ => P) fun _ => E := by
  induction moves with
  | nil => exact Meets.pure fun _ h => h
  | cons m rest ih => exact Meets.bind (Meets.attempt (h m)) fun _ => ih

theorem on_perform_of_ne {m : Move} {stage : Stage} (hturn : m.turn = some stage)
    (h : s.ticket.stage ≠ stage) :
    (a.perform m).on s = (.error (.error (s.refusal stage)), s) := by
  have hrefused := on_expectStage_of_ne h
  cases m <;> cases hturn
  · exact on_bind_of_error hrefused
  · exact on_bind_of_error (on_bind_of_error (on_bind_of_error hrefused))
  · exact on_bind_of_error (on_bind_of_error hrefused)
  · exact on_bind_of_error (on_bind_of_error hrefused)
  · exact on_bind_of_error (on_bind_of_error (on_bind_of_error hrefused))

/-- A settled ticket stays as it is, and nothing more is sent for it. -/
theorem perform_keeps_settled {t : Ticket} {rs : List Request} (h : t.stage.isTerminal = true)
    (m : Move) : (a.perform m).Keeps fun s => s.ticket = t ∧ s.world.requests = rs := by
  rintro s ⟨rfl, rfl⟩
  cases hturn : m.turn with
  | some stage =>
    have hne : s.ticket.stage ≠ stage := by
      intro hstage
      exact m.turn_ne_of_isTerminal h (hstage ▸ hturn)
    rw [on_perform_of_ne hturn hne]
    exact ⟨rfl, rfl⟩
  | none =>
    cases m with
    | cancel => exact ⟨rfl, (World.idles_fire s.world).requests⟩
    | pause ms => exact ⟨rfl, (World.idles_wait s.world ms).requests⟩
    | _ => contradiction

/-- In its turn a move settles the ticket when it stops. -/
theorem perform_leaves {m : Move} {stage : Stage} (hturn : m.turn = some stage)
    (hstage : s.ticket.stage = stage) (hnumbered : stage.IsServed → ∃ id, s.ticket.id = some id) :
    (a.perform m).Meets (· = s) (fun _ _ => True) (fun e t => e.Leaves t.ticket) := by
  have hcreated : ∀ t, t = s → stage = .created → t.ticket.stage = .created := by
    rintro t rfl hs
    rw [hstage, hs]
  cases m with
  | create =>
    cases hturn
    exact create_meets.mono (fun t ht => hcreated t ht rfl) (fun _ _ _ => trivial) fun _ _ h => h
  | run =>
    cases hturn
    exact Meets.bind (run_meets.pre fun t ht => hcreated t ht rfl) fun _ => Meets.pure fun _ _ => trivial
  | poll =>
    cases hturn
    obtain ⟨id, hid⟩ := hnumbered ⟨nofun, nofun⟩
    refine Meets.bind ((poll_meets hstage hid).pre ?_) fun _ => Meets.pure fun _ _ => trivial
    exact fun t ht => congrArg Session.ticket ht
  | awaitDecision =>
    cases hturn
    obtain ⟨id, hid⟩ := hnumbered ⟨nofun, nofun⟩
    refine (awaitDecision_meets id).mono ?_ (fun _ _ _ => trivial) fun _ _ h => h
    rintro t rfl
    exact ⟨hstage, hid⟩
  | fulfill =>
    cases hturn
    obtain ⟨id, hid⟩ := hnumbered ⟨nofun, nofun⟩
    refine Meets.bind ((fulfill_meets id).pre ?_) fun _ => Meets.pure fun _ _ => trivial
    rintro t rfl
    exact ⟨hstage, hid⟩
  | cancel => contradiction
  | pause ms => contradiction

/-- A move is called out of order only by the stage of the ticket, which then stays as it is. A missing
number is never the reason. -/
theorem eq_of_outOfOrder {m : Move} {expected actual : Stage}
    (hnumbered : s.ticket.stage.IsServed → ∃ id, s.ticket.id = some id)
    (h : (a.perform m).on s = (.error (.error (.outOfOrder expected actual)), t)) :
    t = s ∧ actual = s.ticket.stage ∧ actual ≠ expected := by
  cases hturn : m.turn with
  | none => cases m <;> cases hturn <;> cases h
  | some stage =>
    by_cases hstage : s.ticket.stage = stage
    · have hleaves := (perform_leaves hturn hstage (hstage ▸ hnumbered)).error rfl h
      exact hleaves.elim
    · rw [on_perform_of_ne hturn hstage] at h
      unfold Session.refusal at h
      split at h
      · cases h
      · cases h
        exact ⟨rfl, rfl, hstage⟩

end Applicant

/-! ### All moves -/

/-- What the requests of a session, their answers and its ticket always have to do with each other. -/
structure Session.Conforms (script : List ServerStep) (s : Session) : Prop where
  /-- Every request took one step of the script, in order. -/
  answered : s.world.script = script.drop s.world.requests.length
  ordered : ∃ polls, s.world.requests.map (·.method) <+:
    .post :: (List.replicate polls .get ++ [.patch])
  granted : ∀ id, s.ticket.id = some id → (∃ r ∈ s.world.requests.head?, r.method = .post) ∧
    ∃ step ∈ script.head?, ∃ answer, step.reply = some (.ok answer) ∧ answer.Grants id
  addressed : ∀ r ∈ s.world.requests, r.method ≠ .post →
    ∃ id, s.ticket.id = some id ∧ ∀ n, r.url.NamesRequest n ↔ n = id
  /-- A collection follows a question, and the answer to that tells of the acceptance. -/
  accepted : ∀ i r, s.world.requests[i]? = some r → r.method = .patch →
    ∃ j q, i = j + 1 ∧ s.world.requests[j]? = some q ∧ q.method = .get ∧
      ∃ step ∈ script[j]?, ∃ answer, step.reply = some (.ok answer) ∧ answer.Tells .accepted
  unnumbered : s.ticket.stage = .created → s.ticket.id = none
  numbered : s.ticket.stage.IsServed → ∃ id, s.ticket.id = some id

theorem Session.Orderly.conforms {s : Session} (h : s.Orderly script known) : s.Conforms script where
  answered := h.answered
  ordered := h.lawful.map_method
  granted := by
    intro id hid
    have hlawful := h.lawful
    rw [hid] at hlawful
    obtain ⟨hpost, step, hstep, answer, hreply, hgrant⟩ := hlawful.head
    exact ⟨hpost, step, hstep, answer, hreply, Client.decodeId_eq_ok_iff.mp hgrant⟩
  addressed := by
    intro r hr hne
    obtain ⟨id, hid, hnamed⟩ := h.lawful.named r hr hne
    refine ⟨id, hid, fun n => ⟨fun hn => hn.unique hnamed, ?_⟩⟩
    rintro rfl
    exact hnamed
  accepted := by
    intro i r hr hpatch
    obtain ⟨front, q, hfront, hget, step, hstep, answer, hreply, htold⟩ := h.lawful.told hr hpatch
    have hlt : i < s.world.requests.length := (List.getElem?_eq_some_iff.mp hr).1
    have hlength := congrArg List.length hfront
    rw [List.length_take, List.length_append, List.length_singleton, Nat.min_eq_left hlt.le] at hlength
    refine ⟨front.length, q, hlength, ?_, hget, step, hstep, answer, hreply,
      (Client.decodeState_eq_ok_iff.mp htold).1⟩
    rw [← List.getElem?_take_of_lt (by omega : front.length < i), hfront, List.getElem?_concat_length]
  unnumbered := h.unnumbered
  numbered := h.numbered

theorem Session.fresh_sound (handle : String) (w : World) :
    (fresh handle w).Sound w.script none :=
  ⟨⟨rfl, .silent, fun _ => rfl, fun h => absurd rfl h.1, nofun⟩, rfl⟩

namespace Applicant

variable {a : Applicant}

theorem performAll_append (moves later : List Move) :
    a.performAll (moves ++ later) = a.performAll moves >>= fun _ => a.performAll later :=
  List.forM_append

theorem performAll_sound (moves : List Move) :
    (a.performAll moves).Meets (Session.Sound script known) (fun _ => Session.Sound script known)
      (fun _ => Session.Orderly script known) :=
  performAll_meets moves fun m => (perform_upholds m).mono (fun _ h => h) (fun _ _ h => h)
    fun _ _ h => ⟨h.1, fun he => ⟨h.1, h.2 he⟩⟩

/-- Later moves keep the number of the ticket, and they keep all of it once it is settled. -/
theorem performAll_later {s : Session} (moves : List Move) (hs : s.Sound script known) :
    (∀ id, s.ticket.id = some id → ((a.performAll moves).on s).2.ticket.id = some id) ∧
      (s.ticket.stage.isTerminal = true → ((a.performAll moves).on s).2.ticket = s.ticket ∧
        ((a.performAll moves).on s).2.world.requests = s.world.requests) := by
  constructor
  · -- the number is made part of what the invariant keeps
    intro id hid
    have hsound : s.Sound script (some id) :=
      ⟨⟨hs.1.answered, hs.1.lawful, hs.1.unnumbered, hs.1.numbered, fun n hn => hn ▸ hid⟩, hs.2⟩
    have hall : (a.performAll moves).Meets (Session.Sound script (some id))
        (fun _ => Session.Sound script (some id)) (fun _ => Session.Orderly script (some id)) :=
      performAll_sound moves
    rcases h : (a.performAll moves).on s with ⟨e | _, t⟩
    · exact (hall.error hsound h).kept id rfl
    · exact (hall.ok hsound h).1.kept id rfl
  · intro hterminal
    have hall : (a.performAll moves).Keeps
        fun t => t.ticket = s.ticket ∧ t.world.requests = s.world.requests :=
      performAll_meets moves fun m => (perform_keeps_settled hterminal m).mono (fun _ h => h)
        (fun _ _ h => h) fun _ _ h => ⟨h, fun _ => h⟩
    exact hall.on ⟨rfl, rfl⟩

/-- Whatever is done with a fresh ticket and in whatever order: its session conforms, its number is never
changed, once it is settled it stays as it is and nothing more is sent, and the number is never missing
where a move needs it. -/
theorem performAll_conforms (a : Applicant) (handle : String) (w : World) (moves later : List Move) :
    let s := ((a.performAll moves).on (.fresh handle w)).2
    let t := ((a.performAll (moves ++ later)).on (.fresh handle w)).2
    s.Conforms w.script ∧
      (∀ id, s.ticket.id = some id → t.ticket.id = some id) ∧
      (s.ticket.stage.isTerminal = true →
        t.ticket = s.ticket ∧ t.world.requests = s.world.requests) ∧
      ∀ m expected actual u,
        (a.perform m).on s = (.error (.error (.outOfOrder expected actual)), u) →
          u = s ∧ actual = s.ticket.stage ∧ actual ≠ expected := by
  intro s t
  have hall : (a.performAll moves).Meets (Session.Sound w.script none)
      (fun _ => Session.Sound w.script none) (fun _ => Session.Orderly w.script none) :=
    performAll_sound moves
  have hfresh := Session.fresh_sound handle w
  have hend : s.Orderly w.script none ∧
      ((∀ id, s.ticket.id = some id → t.ticket.id = some id) ∧
        (s.ticket.stage.isTerminal = true →
          t.ticket = s.ticket ∧ t.world.requests = s.world.requests)) := by
    simp only [s, t, performAll_append]
    rcases h : (a.performAll moves).on (.fresh handle w) with ⟨e | _, u⟩
    · rw [on_bind_of_error h]
      exact ⟨hall.error hfresh h, fun _ hid => hid, fun _ => ⟨rfl, rfl⟩⟩
    · rw [on_bind_of_ok h]
      exact ⟨(hall.ok hfresh h).1, performAll_later later (hall.ok hfresh h)⟩
  exact ⟨hend.1.conforms, hend.2.1, hend.2.2, fun m expected actual u h =>
    eq_of_outOfOrder hend.1.numbered h⟩

end Applicant

end KeyApproval
