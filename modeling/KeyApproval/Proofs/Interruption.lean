import KeyApproval.Proofs.CalmWorld
import KeyApproval.Proofs.Settlement

/-!
# Interrupted runs

A run is compared with the same run in the calm world. The two go in lockstep until the token cuts the
first one short; then it has sent and told an initial part of what the other sends and tells, and it ends
as cancelled. No other end is due to the token, and nothing is sent after it fired.
-/

namespace KeyApproval

open World

variable {α β : Type}

def Session.calm (s : Session) : Session := ⟨s.ticket, s.world.calm⟩

namespace Step

/-- How a step ends and how it ends in the calm world: the same way and not as cancelled, or the token
cuts it short. -/
inductive Shortened : Except Stop α × Session → Except Stop α × Session → Prop where
  | same {result : Except Stop α} {s : Session} (h : result ≠ .error (.error .cancelled)) :
      Shortened (result, s) (result, s.calm)
  | cut {s : Session} {whole : Except Stop α × Session} (fired : s.world.isFired = true)
      (talk : s.world.talk <+: whole.2.world.talk) :
      Shortened (.error (.error .cancelled), s) whole

namespace Shortened

variable {out whole : Except Stop α × Session}

theorem talk (h : Shortened out whole) : out.2.world.talk <+: whole.2.world.talk := by
  cases h with
  | @same _ s => exact s.world.talk_prefix_calm
  | cut _ talk => exact talk

theorem ending (h : Shortened out whole) :
    out.1 = .error (.error .cancelled) ∧ out.2.world.isFired = true ∨
      out.1 ≠ .error (.error .cancelled) ∧ out.1 = whole.1 ∧ out.2.ticket = whole.2.ticket := by
  cases h with
  | same h => exact .inr ⟨h, rfl, rfl⟩
  | cut fired _ => exact .inl ⟨rfl, fired⟩

end Shortened

/-- A step that the token may cut short, and does nothing else to. -/
structure Interruptible (x : Step α) : Prop where
  evolves : ∀ s : Session, s.world.Evolves (x.on s).2.world
  shortens : ∀ s : Session, Shortened (x.on s) (x.on s.calm)

namespace Interruptible

variable {x : Step α} {f : α → Step β}

theorem pure (a : α) : (Pure.pure a : Step α).Interruptible where
  evolves _ := .refl
  shortens _ := .same nofun

theorem throw {e : Stop} (h : e ≠ .error .cancelled) :
    (MonadExcept.throw e : Step α).Interruptible where
  evolves _ := .refl
  shortens _ := .same fun he => h (Except.error.inj he)

theorem bind (hx : x.Interruptible) (hf : ∀ a, (f a).Interruptible) : (x >>= f).Interruptible where
  evolves s := by
    have hfirst := hx.evolves s
    rw [on_bind]
    revert hfirst
    rcases x.on s with ⟨e | a, t⟩
    · exact fun hfirst => hfirst
    · exact fun hfirst => hfirst.trans ((hf a).evolves t)
  shortens s := by
    have hfirst := hx.shortens s
    rw [on_bind, on_bind]
    revert hfirst
    generalize x.on s = out
    generalize x.on s.calm = whole
    intro hfirst
    cases hfirst with
    | @same result t h =>
      cases result with
      | error e => exact .same fun he => h (congrArg Except.error (Except.error.inj he))
      | ok a => exact (hf a).shortens t
    | cut hfired htalk =>
      refine .cut hfired (htalk.trans ?_)
      -- whatever the calm run goes on with, it only adds to what was said
      rcases whole with ⟨e | a, t⟩
      · exact List.prefix_rfl
      · exact ((hf a).evolves t).talk

theorem get {g : Session → Step β} (hcalm : ∀ s, g s.calm = g s) (hg : ∀ s, (g s).Interruptible) :
    ((MonadState.get : Step Session) >>= g).Interruptible where
  evolves s := (hg s).evolves s
  shortens s := by
    have h := (hg s).shortens s
    change Shortened ((g s).on s) ((g s.calm).on s.calm)
    rwa [hcalm]

theorem modify {g : Session → Session} (hidle : ∀ s : Session, s.world.Idles (g s).world)
    (hcalm : ∀ s, g s.calm = (g s).calm) : (modify g : Step Unit).Interruptible where
  evolves s := .idle .refl (hidle s)
  shortens s := by
    change Shortened (.ok (), g s) (.ok (), g s.calm)
    rw [hcalm]
    exact .same nofun

end Interruptible

end Step

namespace Applicant

open Step

variable {a : Applicant}

/-! ### Building blocks -/

theorem calm_givenUp (e : RunError) (s : Session) : s.calm.givenUp e = (s.givenUp e).calm := by
  rw [Session.givenUp, Session.givenUp, Session.calm, Session.calm, log, log, calm_record rfl]

theorem giveUp_interruptible {e : RunError} (h : e ≠ .cancelled) :
    (giveUp e : Step α).Interruptible where
  evolves s := .idle .refl (idles_log _ _ _)
  shortens s := by
    rw [on_giveUp, on_giveUp, calm_givenUp]
    refine .same fun he => h ?_
    cases he
    rfl

/-- A step that is given up because the token is fired has said nothing since. -/
theorem shortened_cancelled {s : Session} {whole : Except Stop α × Session}
    (hfired : s.world.isFired = true) (htalk : s.world.talk <+: whole.2.world.talk) :
    Shortened (.error (.error .cancelled), s.givenUp .cancelled) whole := by
  refine .cut hfired ?_
  rwa [Session.givenUp, talk_log]

theorem logLine_interruptible (level : Level) (text : String) : (logLine level text).Interruptible := by
  apply Interruptible.modify (fun s => idles_log _ _ _)
  intro s
  rw [Session.calm, Session.calm, log, log, calm_record rfl]

theorem tell_interruptible (e : Event) : (a.tell e).Interruptible := by
  unfold tell
  split
  · apply Interruptible.modify (fun s => idles_tell _ _)
    intro s
    rw [Session.calm, Session.calm, calm_tell]
  · exact Interruptible.pure ()

theorem moveTo_interruptible (next : Stage) : (a.moveTo next).Interruptible := by
  apply Interruptible.get (fun _ => rfl)
  intro s
  dsimp only
  split
  · exact Interruptible.throw nofun
  · refine Interruptible.bind ?_ fun _ => tell_interruptible _
    exact Interruptible.modify (fun s => .refl _) fun _ => rfl

theorem expectStage_interruptible (stage : Stage) : (expectStage stage).Interruptible := by
  apply Interruptible.get (fun _ => rfl)
  intro s
  dsimp only
  split
  · exact Interruptible.pure ()
  · split
    · exact Interruptible.throw nofun
    · exact Interruptible.throw nofun

theorem pendingNumber_interruptible : pendingNumber.Interruptible := by
  refine Interruptible.bind (expectStage_interruptible _) fun _ => ?_
  apply Interruptible.get (fun _ => rfl)
  intro s
  split
  · exact Interruptible.pure _
  · exact Interruptible.throw nofun

theorem settle_shortened {t : Ticket} {out whole : Arrival (Except ClientError α) × World}
    (h : Shortens out whole) : Shortened (settle t out) (settle t whole) := by
  cases h with
  | @same arrival w h =>
    rcases arrival with (e | b) | _ | _
    · have hcalm := calm_givenUp (.client e) ⟨t, w⟩
      change Shortened _ (_, Session.givenUp (Session.calm ⟨t, w⟩) (.client e))
      rw [hcalm]
      exact .same nofun
    · exact .same nofun
    · exact absurd rfl h
    · exact .same nofun
  | cut hfired htalk =>
    refine shortened_cancelled (s := ⟨t, _⟩) hfired (htalk.trans ?_)
    rcases whole with ⟨(e | b) | _ | _, w⟩
    · exact (idles_log _ _ _).talk
    · exact List.prefix_rfl
    · exact (idles_log _ _ _).talk
    · exact List.prefix_rfl

theorem ask_evolves (c : Client) (method : Http.Method) (path : String) (body : Option String)
    (decode : Http.Response → Client.Decoded α) (s : Session) :
    s.world.Evolves ((ask (c.call method path body decode)).on s).2.world := by
  have hkeeps : (ask (c.call method path body decode)).Keeps fun t => s.world.Evolves t.world := by
    apply ask_of_sends
    · exact fun t w e ht hidle => ht.idle (hidle.trans (idles_log _ _ _))
    · exact fun t r w e ht hsent => (ht.send hsent.calm r).idle (hsent.idle.trans (idles_log _ _ _))
    · exact fun t r w b ht hsent _ => (ht.send hsent.calm r).idle hsent.idle
    · exact fun t r w ht hsent _ => (ht.send hsent.calm r).idle hsent.idle
  exact hkeeps.on .refl

theorem ask_interruptible (c : Client) (method : Http.Method) (path : String) (body : Option String)
    (decode : Http.Response → Client.Decoded α) :
    (ask (c.call method path body decode)).Interruptible where
  evolves := ask_evolves c method path body decode
  shortens s := by
    cases hfired : s.world.isFired with
    | true =>
      rw [on_ask_of_fired _ hfired]
      refine shortened_cancelled hfired ?_
      have hwhole := (ask_evolves c method path body decode s.calm).talk
      rwa [Session.calm, talk_calm] at hwhole
    | false =>
      rw [on_ask _ hfired, on_ask (s := s.calm) _ rfl]
      exact settle_shortened (c.call_shortens method path body decode s.world)

theorem sleep_evolves (s : Session) : s.world.Evolves (a.sleep.on s).2.world := by
  have hkeeps : a.sleep.Keeps fun t => s.world.Evolves t.world := by
    apply sleep_of_idles
    · exact fun t w ht hidle => ht.idle hidle
    · exact fun t w ht hidle => ht.idle (hidle.trans (idles_log _ _ _))
  exact hkeeps.on .refl

theorem sleep_interruptible : a.sleep.Interruptible where
  evolves := sleep_evolves
  shortens s := by
    have hwhole := (sleep_evolves (a := a) s.calm).talk
    cases hfired : s.world.isFired with
    | true =>
      rw [on_sleep_of_fired hfired]
      rw [Session.calm, talk_calm] at hwhole
      exact shortened_cancelled hfired hwhole
    | false =>
      have hwait := wait_shortens (s.world.record (.slept a.polling.intervalMs)) a.polling.intervalMs
      have hrecord : s.calm.world.record (.slept a.polling.intervalMs) =
          (s.world.record (.slept a.polling.intervalMs)).calm := (calm_record rfl _).symm
      rw [on_sleep hfired, on_sleep (s := s.calm) rfl, hrecord]
      revert hwait
      generalize (s.world.record (.slept a.polling.intervalMs)).wait a.polling.intervalMs = out
      generalize (s.world.record (.slept a.polling.intervalMs)).calm.wait a.polling.intervalMs = whole
      intro hwait
      cases hwait with
      | @same arrival w h =>
        cases arrival with
        | value u => exact .same (by simp)
        | interrupted => exact absurd rfl h
        | never => exact .same (by simp)
      | cut hfired htalk =>
        refine shortened_cancelled (s := ⟨s.ticket, _⟩) hfired (htalk.trans ?_)
        rcases whole with ⟨_ | _ | _, w⟩
        · exact List.prefix_rfl
        · exact (idles_log _ _ _).talk
        · exact List.prefix_rfl

/-! ### The steps -/

theorem create_interruptible : a.create.Interruptible := by
  refine Interruptible.bind (expectStage_interruptible _) fun _ => ?_
  apply Interruptible.get (fun _ => rfl)
  intro s
  refine Interruptible.bind (logLine_interruptible _ _) fun _ => ?_
  rw [Client.requestKey_eq]
  apply Interruptible.bind (ask_interruptible _ _ _ _ _)
  intro id
  refine Interruptible.bind ?_ fun _ => moveTo_interruptible _
  exact Interruptible.modify (fun s => .refl _) fun _ => rfl

theorem poll_interruptible : a.poll.Interruptible := by
  apply Interruptible.bind pendingNumber_interruptible
  intro id
  rw [Client.inquire_eq]
  apply Interruptible.bind (ask_interruptible _ _ _ _ _)
  intro stage
  split
  · exact Interruptible.pure _
  · exact Interruptible.bind (moveTo_interruptible _) fun _ => Interruptible.pure _
  · exact Interruptible.bind (moveTo_interruptible _) fun _ => Interruptible.pure _
  · exact giveUp_interruptible nofun

theorem pollFrom_interruptible (id : UInt64) (fuel : Nat) (attempts : UInt32) :
    (a.pollFrom id fuel attempts).Interruptible := by
  induction fuel generalizing attempts with
  | zero => exact Interruptible.throw (by simp)
  | succ fuel ih =>
    rw [pollFrom]
    apply Interruptible.bind poll_interruptible
    intro stage
    dsimp only
    split
    · refine Interruptible.bind (logLine_interruptible _ _) fun _ => ?_
      exact Interruptible.throw (by simp)
    · split
      · refine Interruptible.bind (tell_interruptible _) fun _ => ?_
        exact Interruptible.bind sleep_interruptible fun _ => ih _
      · exact giveUp_interruptible (by simp)
    · exact Interruptible.pure ()

theorem awaitDecision_interruptible : a.awaitDecision.Interruptible := by
  apply Interruptible.bind pendingNumber_interruptible
  intro id
  split
  · refine Interruptible.get (fun s => ?_) fun s => pollFrom_interruptible id _ 0
    have hlength : s.calm.world.script.length = s.world.script.length := List.length_map _
    rw [hlength]
  · exact giveUp_interruptible nofun

theorem fulfill_interruptible : a.fulfill.Interruptible := by
  refine Interruptible.bind (expectStage_interruptible _) fun _ => ?_
  apply Interruptible.get (fun _ => rfl)
  intro s
  split
  · exact giveUp_interruptible nofun
  · rw [Client.collect_eq]
    apply Interruptible.bind (ask_interruptible _ _ _ _ _)
    intro secret
    refine Interruptible.bind (moveTo_interruptible _) fun _ => ?_
    exact Interruptible.bind (logLine_interruptible _ _) fun _ => Interruptible.pure _

theorem run_interruptible : a.run.Interruptible :=
  Interruptible.bind create_interruptible fun _ =>
    Interruptible.bind awaitDecision_interruptible fun _ => fulfill_interruptible

/-! ### Runs -/

/-- A run of a fresh ticket, with the same run in the calm world beside it. What it sends and tells is an
initial part of what the calm run sends and tells, and nothing is sent once the token is fired. It is
cancelled and its ticket is failed, or it ends with the result and the ticket of the calm run. It is
cancelled only by a token that is fired. -/
theorem run_interrupted (a : Applicant) (handle : String) (w : World) :
    let ending := a.run.on (.fresh handle w)
    let whole := a.run.on (.fresh handle w.calm)
    requestsOf ending.2.world.trace <+: requestsOf whole.2.world.trace ∧
      eventsOf ending.2.world.trace <+: eventsOf whole.2.world.trace ∧
      (∀ before after, ending.2.world.trace = before ++ after →
        (w.isFired = true ∨ .interrupted ∈ before) → requestsOf after = []) ∧
      (ending.1 = .error (.error .cancelled) ∧ ending.2.ticket.stage = .failed ∨
        ending.1 = whole.1 ∧ ending.2.ticket = whole.2.ticket) ∧
      (ending.1 = .error (.error .cancelled) →
        w.isFired = true ∨ .interrupted ∈ ending.2.world.trace) := by
  intro ending whole
  have hshort : Shortened ending whole := (run_interruptible (a := a)).shortens (.fresh handle w)
  obtain ⟨added, hadded, hfired, hheeded⟩ :=
    ((run_interruptible (a := a)).evolves (.fresh handle w)).trace
  have htrace : ending.2.world.trace = added := hadded
  refine ⟨?_, ?_, ?_, ?_, ?_⟩
  · rw [← requestsOf_talk, ← requestsOf_talk]
    exact hshort.talk.filterMap _
  · rw [← eventsOf_talk, ← eventsOf_talk]
    exact hshort.talk.filterMap _
  · rw [htrace]
    exact hheeded
  · rcases hshort.ending with ⟨hcancelled, -⟩ | ⟨-, hsame⟩
    · have hfailed : (Stop.error .cancelled).Leaves ending.2.ticket :=
        run_meets.error rfl (Prod.ext hcancelled rfl)
      exact .inl ⟨hcancelled, hfailed⟩
    · exact .inr hsame
  · intro hcancelled
    rcases hshort.ending with ⟨-, hending⟩ | ⟨hother, -⟩
    · rw [htrace]
      exact hfired.mp hending
    · exact absurd hcancelled hother

end Applicant

end KeyApproval
