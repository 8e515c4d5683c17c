import KeyApproval.Proofs.Discipline
import KeyApproval.Proofs.Discretion
import KeyApproval.Proofs.Interruption
import KeyApproval.Proofs.Parallel
import KeyApproval.Proofs.Protocol

/-!
# Concealment

The answer to the collection holds the secret. Two servers that answer the collection with different
secrets, and are the same otherwise, are not told apart by anything but the secrets themselves: the runs
send the same requests, tell the same events, log the same lines and leave the same ticket. So it is with
whole runs, as long as the modules are discreet.
-/

namespace KeyApproval

open World

variable {α : Type}

/-! ### Forked scripts -/

/-- The step with that answer, of the expected status. -/
def ServerStep.answering (step : ServerStep) (headers : Http.Headers) (body : List UInt8) : ServerStep :=
  { step with reply := some (.ok ⟨200, headers, body⟩) }

/-- The same script, or scripts that differ in one step to come. -/
inductive Forks (step step' : ServerStep) (after : List ServerStep) :
    List ServerStep → List ServerStep → Prop where
  | same (script : List ServerStep) : Forks step step' after script script
  | ahead (before : List ServerStep) :
      Forks step step' after (before ++ step :: after) (before ++ step' :: after)

namespace Forks

variable {step step' : ServerStep} {after script script' : List ServerStep}

theorem length_eq (h : Forks step step' after script script') : script.length = script'.length := by
  cases h with
  | same _ => rfl
  | ahead before => rw [List.length_append, List.length_append, List.length_cons, List.length_cons]

theorem heads_same {A : Http.Response → Http.Response → Prop} (hA : ∀ r, A r r) (script : List ServerStep) :
    Heads A (Forks step step' after) script script := by
  cases script with
  | nil => exact .nil (.same [])
  | cons first rest => exact .cons (first.alike_self hA) (.same rest)

/-- Answers that the scripts may differ in stand at the head of both, or the heads are the same. -/
theorem heads {A : Http.Response → Http.Response → Prop} (hA : ∀ r, A r r) (hstep : step.Alike A step')
    (h : Forks step step' after script script') : Heads A (Forks step step' after) script script' := by
  cases h with
  | same script => exact heads_same hA script
  | ahead before =>
    cases before with
    | nil => exact .cons hstep (.same after)
    | cons first rest => exact .cons (first.alike_self hA) (.ahead rest)

theorem heads_or_now (h : Forks step step' after script script') :
    Heads Eq (Forks step step' after) script script' ∨ script = step :: after ∧ script' = step' :: after := by
  cases h with
  | same script => exact .inl (heads_same (fun _ => rfl) script)
  | ahead before =>
    cases before with
    | nil => exact .inr ⟨rfl, rfl⟩
    | cons first rest => exact .inl (.cons (first.alike_self fun _ => rfl) (.ahead rest))

end Forks

/-! ### Until there is a decision -/

variable {step step' : ServerStep} {after : List ServerStep}

/-- Worlds in which the same happened, and which may differ in one step to come. -/
abbrev World.ForkTwins (step step' : ServerStep) (after : List ServerStep) : World → World → Prop :=
  Twins (fun _ => True) (Forks step step' after) Eq

theorem World.eq_of_forkTwins {v w : World} (h : ForkTwins step step' after v w)
    (hscript : w.script = v.script) : w = v := by
  cases h with
  | mk _ _ htrace =>
    cases hscript
    cases htrace
    rfl

/-- The step in which the scripts differ was taken. -/
def World.Past (after : List ServerStep) (w : World) : Prop := w.script.length ≤ after.length

theorem World.Past.of_idles {w w' : World} (h : w.Past after) (hidle : w.Idles w') : w'.Past after := by
  unfold Past
  rwa [hidle.script]

theorem grows_eq : Grows Eq := fun _ _ o h => congrArg (· ++ [o]) h

theorem lockstep_forks : Step.Lockstep (Past after) (Forks step step' after) Eq where
  idle _ _ hidle h := h.of_idles hidle
  grows := grows_eq
  length _ _ h := h.length_eq

namespace Client

/-- A call before the collection leads to the same in both worlds, unless it takes the step in which these
differ. -/
theorem call_forks (c : Client) (method : Http.Method) (path : String) (body : Option String)
    (decode : Http.Response → Decoded α) :
    Abreast (Past after) (ForkTwins step step' after) Eq (c.call method path body decode)
      (c.call method path body decode) where
  keeps w h := by
    have hexchange := c.exchange_call method path body decode w
    revert hexchange
    generalize c.call method path body decode w = out
    intro hexchange
    cases hexchange with
    | unsent hidle => exact h.of_idles hidle
    | sent _ _ hidle _ _ =>
      refine Past.of_idles ?_ hidle
      have htail : w.script.tail.length ≤ w.script.length := by simp
      exact htail.trans h
  runs v w h := by
    rcases h.scripts.heads_or_now with hheads | ⟨hscript, hscript'⟩
    · exact .inr (call_paired_self grows_eq h hheads (decodesAlike_self grows_eq decode))
    · obtain ⟨hnow, hclock⟩ := h.readClock
      rw [call_eq, call_eq, ← hnow]
      cases c.prepare method path body v.readClock.1 with
      | error e => exact .inr ⟨.value (.error e), hclock⟩
      | ok r =>
        dsimp only
        cases hcheck : v.readClock.2.transport.check r with
        | error e =>
          have hcheck' : w.readClock.2.transport.check r = .error e := by rw [← hclock.transport, hcheck]
          rw [send_of_refused hcheck, send_of_refused hcheck']
          exact .inr ⟨.value (.error e), hclock⟩
        | ok _ =>
          left
          have hidle := (receive_spec (v.readClock.2.sending r) step).1.trans
            (finish_spec decode ((v.readClock.2.sending r).receive step)).1
          rw [send_of_script_cons hcheck hscript]
          refine Past.of_idles ?_ hidle
          change v.script.tail.length ≤ after.length
          rw [hscript, List.tail_cons]

end Client

namespace Session

/-- No secret was collected yet. -/
def Uncollected (s : Session) : Prop := ∀ r ∈ s.world.requests, r.method ≠ .patch

theorem Uncollected.of_idles {s : Session} (h : s.Uncollected) {w : World} (hidle : s.world.Idles w)
    (ticket : Ticket) : Uncollected ⟨ticket, w⟩ := by
  unfold Uncollected
  rwa [hidle.requests]

theorem Uncollected.call {s : Session} (h : s.Uncollected) {c : Client} {method : Http.Method}
    (hmethod : method ≠ .patch) (path : String) (body : Option String)
    (decode : Http.Response → Client.Decoded α) :
    Uncollected ⟨s.ticket, (c.call method path body decode s.world).2⟩ := by
  apply (steady_requests fun requests => ∀ r ∈ requests, r.method ≠ .patch).call h
  · intro v r hprepare hv
    refine forall_requests_sending hv ?_
    rw [(Client.prepare_eq_ok hprepare).1]
    exact hmethod
  · intro v r hv
    rwa [(idles_logAll v _).requests]

theorem enduring_uncollected (c : Client) : Enduring c Uncollected where
  log s level text _ h := h.of_idles (idles_log s.world level text) _
  tell s e h := h.of_idles (idles_tell s.world e) _
  sleep s ms h := h.of_idles ((idles_slept s.world ms).trans (idles_wait _ ms)) _
  requestKey s handle _ h := by
    rw [Client.requestKey_eq]
    exact h.call (by decide) _ _ _
  inquire s id _ h := by
    rw [Client.inquire_eq]
    exact h.call (by decide) _ _ _
  fail s h := h.of_idles (.refl s.world) _
  move s _ h := h.of_idles (.refl s.world) _

def SentAtMost (n : Nat) (s : Session) : Prop := s.world.requests.length ≤ n

theorem SentAtMost.of_idles {n : Nat} {s : Session} (h : s.SentAtMost n) {w : World}
    (hidle : s.world.Idles w) (ticket : Ticket) : SentAtMost n ⟨ticket, w⟩ := by
  unfold SentAtMost
  rwa [hidle.requests]

end Session

namespace Applicant

open Step

variable {a : Applicant}

/-- Every request of a fresh ticket takes one step of the script. -/
theorem script_of_upholds {x : Step α} {w : World} (h : x.Upholds w.script none) (handle : String) :
    (x.on (.fresh handle w)).2.world.script =
      w.script.drop (x.on (.fresh handle w)).2.world.requests.length := by
  have hfresh := Session.fresh_sound handle w
  rcases hx : x.on (.fresh handle w) with ⟨e | _, t⟩
  · exact (h.error hfresh hx).1.answered
  · exact (h.ok hfresh hx).1.answered

theorem script_await (a : Applicant) (handle : String) (w : World) :
    (a.await.on (.fresh handle w)).2.world.script =
      w.script.drop (a.await.on (.fresh handle w)).2.world.requests.length :=
  script_of_upholds (Meets.bind create_upholds fun _ => awaitDecision_upholds) handle

theorem script_run (a : Applicant) (handle : String) (w : World) :
    (a.run.on (.fresh handle w)).2.world.script =
      w.script.drop (a.run.on (.fresh handle w)).2.world.requests.length :=
  script_of_upholds run_upholds handle

theorem await_uncollected (a : Applicant) (handle : String) (w : World) :
    (a.await.on (.fresh handle w)).2.Uncollected := by
  have henduring := Session.enduring_uncollected a.client
  have hkeeps : a.await.Keeps Session.Uncollected :=
    Meets.bind (create_keeps henduring fun _ _ h => h) fun _ => awaitDecision_keeps henduring
  exact hkeeps.on fun _ hr => nomatch hr

theorem run_eq (a : Applicant) : a.run = a.await >>= fun _ => a.fulfill := by
  rw [run, await, bind_assoc]

/-! ### The collection -/

/-- A move keeps what holds with any ticket and outlasts idling. -/
theorem moveTo_of_idles {I : Session → Prop} (hI : ∀ s ticket w, I s → s.world.Idles w → I ⟨ticket, w⟩)
    (next : Stage) : (a.moveTo next).Keeps I := by
  intro s hs
  by_cases h : s.ticket.stage.canBecome next = true
  · rw [on_moveTo h]
    exact tell_of_idles _ (fun s w => hI s s.ticket w) _ (hI s _ _ hs (.refl _))
  · rw [on_moveTo_of_not h]
    exact hs

/-- The collection sends one request at most, and the secret is read from the next step of the script. -/
theorem fulfill_collects (s : Session) :
    a.fulfill.Meets (· = s)
      (fun secret t => (∃ step ∈ s.world.script.head?, step.Yields Client.decodeSecret secret) ∧
        t.SentAtMost (s.world.requests.length + 1))
      (fun _ t => t.SentAtMost (s.world.requests.length + 1)) := by
  have hone {path : String} {r : Request} {w : World} (h : s.Sends a.client .patch path r w) :
      Session.SentAtMost (s.world.requests.length + 1) ⟨s.ticket, w⟩ := by
    have hlength : w.requests.length = s.world.requests.length + 1 := by
      rw [h.requests_eq, List.length_append, List.length_singleton]
    exact hlength.le
  have hnone : s.SentAtMost (s.world.requests.length + 1) := Nat.le_succ _
  refine Meets.bind (Q := fun _ t => t = s) ?_ fun _ => ?_
  · rintro t rfl
    by_cases h : t.ticket.stage = .accepted
    · rw [on_expectStage_of_eq h]
    · rw [on_expectStage_of_ne h]
      exact hnone
  refine Meets.get fun t ht => ?_
  subst ht
  split
  · rintro u rfl
    rw [on_giveUp]
    exact hnone.of_idles (idles_log _ _ _) _
  · next id _ =>
    refine Meets.bind (Q := fun secret u =>
      (∃ step ∈ t.world.script.head?, step.Yields Client.decodeSecret secret) ∧
        u.SentAtMost (t.world.requests.length + 1)) ?_ fun secret => ?_
    · rw [Client.collect_eq]
      apply ask_of_sends
      · rintro _ w e rfl hidle
        exact hnone.of_idles (hidle.trans (idles_log _ _ _)) _
      · rintro _ r w e rfl hsent
        exact (hone hsent).of_idles (idles_log _ _ _) _
      · rintro _ r w secret rfl hsent hyields
        exact ⟨hyields, hone hsent⟩
      · rintro _ r w rfl hsent -
        exact hone hsent
    · apply Meets.given
      intro hyields
      refine Meets.bind (moveTo_of_idles (fun _ ticket _ hu hidle => hu.of_idles hidle ticket) _) fun _ => ?_
      refine Meets.bind (Q := fun _ => Session.SentAtMost (t.world.requests.length + 1)) ?_ fun _ => ?_
      · exact Meets.modify fun u hu => hu.of_idles (idles_log _ _ _) _
      · exact Meets.pure fun u hu => ⟨hyields, hu⟩

/-- Where a run has collected at some place, there was a decision before, and nothing was sent since. -/
theorem await_of_collected {handle : String} {w : World} {n : Nat}
    (h : ∃ r ∈ (a.run.on (.fresh handle w)).2.world.requests[n]?, r.method = .patch) :
    ∃ s, a.await.on (.fresh handle w) = (.ok (), s) ∧ a.run.on (.fresh handle w) = a.fulfill.on s ∧
      s.world.requests.length = n ∧ (a.fulfill.on s).2.world.requests.length = n + 1 := by
  obtain ⟨r, hr, hmethod⟩ := h
  have hpending := a.await_uncollected handle w
  rw [run_eq, on_bind] at hr ⊢
  rcases hawait : a.await.on (.fresh handle w) with ⟨e | _, s⟩
  · rw [hawait] at hr hpending
    exact absurd hmethod (hpending r (List.mem_of_getElem? hr))
  · rw [hawait] at hr hpending
    dsimp only at hr ⊢
    refine ⟨s, rfl, rfl, ?_⟩
    obtain ⟨added, hadded, -⟩ := (fulfill_interruptible (a := a)).evolves s |>.trace
    have hlater : n < (a.fulfill.on s).2.world.requests.length := (List.getElem?_eq_some_iff.mp hr).1
    have hone : (a.fulfill.on s).2.world.requests.length ≤ s.world.requests.length + 1 := by
      rcases hend : a.fulfill.on s with ⟨e | secret, t⟩
      · exact (fulfill_collects s).error rfl hend
      · exact ((fulfill_collects s).ok rfl hend).2
    have hbefore : s.world.requests.length ≤ n := by
      by_contra hn
      have hmem : s.world.requests[n]? = some r := by
        rw [← hr, World.requests, World.requests, hadded, requestsOf_append]
        exact (List.getElem?_append_left (Nat.lt_of_not_le hn)).symm
      exact hpending r (List.mem_of_getElem? hmem) hmethod
    omega

end Applicant

/-! ### The answer to the collection -/

section Answer

variable {headers : Http.Headers} {body body' : List UInt8}

/-- The same answer, or answers of the expected status with those two bodies. -/
inductive Http.Response.SameButBody (headers : Http.Headers) (body body' : List UInt8) :
    Http.Response → Http.Response → Prop where
  | same (r : Http.Response) : SameButBody headers body body' r r
  | bodies : SameButBody headers body body' ⟨200, headers, body⟩ ⟨200, headers, body'⟩

namespace Client

theorem handsOver_of_decode {text : List Char} (h : Text.Utf8.decode body = .ok text) :
    Http.Response.HandsOver ⟨200, headers, body⟩ (String.ofList (dropLineFeed text)) :=
  ⟨rfl, text, h, by rw [String.toList_ofList, ← dropLineFeed_eq_iff]⟩

/-- Secrets are read from both answers, and the same is wondered at, since the headers are the same. -/
theorem decodesAlike_secret {text text' : List Char} (hbody : Text.Utf8.decode body = .ok text)
    (hbody' : Text.Utf8.decode body' = .ok text') :
    DecodesAlike (Http.Response.SameButBody headers body body') Eq (fun _ _ => True) decodeSecret
      decodeSecret where
  result r r' h := by
    cases h with
    | same => exact Agree.refl (fun _ => trivial) _
    | bodies =>
      rw [decodeSecret_eq_ok_iff.mpr (handsOver_of_decode hbody),
        decodeSecret_eq_ok_iff.mpr (handsOver_of_decode hbody')]
      exact .ok trivial
  warnings r r' h trace trace' htrace := by
    cases h with
    | same => rw [htrace]
    | bodies =>
      rw [htrace]
      rfl

theorem collect_forks {text text' : List Char} (c : Client) (hbody : Text.Utf8.decode body = .ok text)
    (hbody' : Text.Utf8.decode body' = .ok text') (id : UInt64) :
    Abreast (fun _ => False)
      (ForkTwins (step.answering headers body) (step.answering headers body') after) (fun _ _ => True)
      (c.collect id) (c.collect id) where
  keeps _ h := h
  runs v w h := by
    have halike : (step.answering headers body).Alike (Http.Response.SameButBody headers body body')
        (step.answering headers body') := ⟨rfl, rfl, .some (.ok .bodies)⟩
    have hheads := h.scripts.heads .same halike
    exact .inr (call_paired_self grows_eq h hheads (decodesAlike_secret hbody hbody'))

end Client

end Answer

/-! ### Runs -/

namespace Applicant

open Step

variable {a : Applicant} {headers : Http.Headers} {body body' : List UInt8} {text text' : List Char}

/-- Until the step in which the scripts differ is taken, there is the same decision in both worlds. -/
theorem await_forks {handle : String} {v w : World} {s : Session}
    (h : ForkTwins step step' after (Session.fresh handle v).world (Session.fresh handle w).world)
    (hawait : a.await.on (.fresh handle v) = (.ok (), s)) (hahead : ¬s.world.Past after) :
    ∃ w', a.await.on (.fresh handle w) = (.ok (), ⟨s.ticket, w'⟩) ∧
      ForkTwins step step' after s.world w' := by
  have hlockstep : Lockstep (Past after) (Forks step step' after) Eq := lockstep_forks
  have hcalls : a.client.SideBySide (Past after) (ForkTwins step step' after) a.client :=
    Client.sideBySide_of_call a.client.call_forks
  have hparallel := await_parallel (hlockstep.inStep a a.client) hcalls
  have hruns := hparallel.runs (Ticket.new handle) _ _ h
  change (a.await.on (.fresh handle v)).2.world.Past after ∨
    Matched _ _ (a.await.on (.fresh handle v)) (a.await.on (.fresh handle w)) at hruns
  rw [hawait] at hruns
  obtain ⟨hresult, hticket, hworlds⟩ := hruns.resolve_left hahead
  rcases hawait' : a.await.on (.fresh handle w) with ⟨result, ticket, w'⟩
  rw [hawait'] at hresult hticket hworlds
  obtain rfl := hresult.eq
  dsimp only at hticket
  exact ⟨w', by rw [hticket], hworlds⟩

/-- The collection is the same in both worlds but for the secret. -/
theorem fulfill_forks (hbody : Text.Utf8.decode body = .ok text)
    (hbody' : Text.Utf8.decode body' = .ok text') (ticket : Ticket) {v w : World}
    (h : ForkTwins (step.answering headers body) (step.answering headers body') after v w) :
    Matched (ForkTwins (step.answering headers body) (step.answering headers body') after)
      (fun _ _ => True) (a.fulfill.on ⟨ticket, v⟩) (a.fulfill.on ⟨ticket, w⟩) := by
  have hlockstep : Lockstep (fun _ => False)
      (Forks (step.answering headers body) (step.answering headers body') after) Eq :=
    ⟨fun _ _ _ h => h, grows_eq, fun _ _ h => h.length_eq⟩
  have hparallel := fulfill_parallel (hlockstep.inStep a a.client)
    fun id => a.client.collect_forks hbody hbody' id
  exact (hparallel.runs ticket v w h).resolve_left id

/-- What is collected is handed over by the answer at the head of the script. -/
theorem handsOver_of_fulfill {s t : Session} {secret : String}
    (hscript : s.world.script = step.answering headers body :: after)
    (h : a.fulfill.on s = (.ok secret, t)) : Http.Response.HandsOver ⟨200, headers, body⟩ secret := by
  obtain ⟨⟨first, hfirst, r, hreply, hresult⟩, -⟩ := (fulfill_collects s).ok rfl h
  rw [hscript, List.head?_cons, Option.mem_some_iff] at hfirst
  subst hfirst
  obtain rfl : (⟨200, headers, body⟩ : Http.Response) = r := Except.ok.inj (Option.some.inj hreply)
  exact Client.decodeSecret_eq_ok_iff.mp hresult

/-- When a step of the script answers a collection, the run with another body in that answer has the same
ending, but for the secret that the body hands over. -/
theorem run_conceals {handle : String} {w : World} {before : List ServerStep}
    (hbody : Text.Utf8.decode body = .ok text) (hbody' : Text.Utf8.decode body' = .ok text')
    (hscript : w.script = before ++ step.answering headers body :: after)
    (hcollected : ∃ r ∈ (a.run.on (.fresh handle w)).2.world.requests[before.length]?, r.method = .patch) :
    let w' := { w with script := before ++ step.answering headers body' :: after }
    (a.run.on (.fresh handle w')).2 = (a.run.on (.fresh handle w)).2 ∧
      Agree (fun secret secret' => Http.Response.HandsOver ⟨200, headers, body⟩ secret ∧
        Http.Response.HandsOver ⟨200, headers, body'⟩ secret') (a.run.on (.fresh handle w)).1
        (a.run.on (.fresh handle w')).1 := by
  intro w'
  obtain ⟨s, hawait, hrun, hlength, hend⟩ := await_of_collected hcollected
  have hrest : s.world.script = step.answering headers body :: after := by
    have hdrop := a.script_await handle w
    rwa [hawait, hlength, hscript, List.drop_left] at hdrop
  have htwins : ForkTwins (step.answering headers body) (step.answering headers body') after
      (Session.fresh handle w).world (Session.fresh handle w').world := by
    refine .mk (v := (Session.fresh handle w).world) trivial ?_ rfl
    change Forks _ _ _ w.script _
    rw [hscript]
    exact .ahead before
  have hahead : ¬s.world.Past after := by
    rw [World.Past, hrest, List.length_cons]
    exact Nat.not_succ_le_self _
  obtain ⟨v, hawait', hworlds⟩ := await_forks htwins hawait hahead
  have hrun' : a.run.on (.fresh handle w') = a.fulfill.on ⟨s.ticket, v⟩ := by
    rw [run_eq, on_bind_of_ok hawait']
  have hrest' : v.script = step.answering headers body' :: after := by
    have hdrop := a.script_await handle w'
    have hsame : v.requests.length = before.length := by
      rw [← hlength, World.requests, World.requests, hworlds.traces]
    rwa [hawait', hsame, List.drop_left] at hdrop
  obtain ⟨hresult, hticket, hends⟩ := fulfill_forks (a := a) hbody hbody' s.ticket hworlds
  have hscripts : (a.fulfill.on ⟨s.ticket, v⟩).2.world.script = (a.fulfill.on s).2.world.script := by
    have hdrop := a.script_run handle w
    have hdrop' := a.script_run handle w'
    have hsame : (a.fulfill.on ⟨s.ticket, v⟩).2.world.requests.length = before.length + 1 := by
      rw [← hend, World.requests, World.requests, hends.traces]
    rw [hrun, hend, hscript] at hdrop
    rw [hrun', hsame] at hdrop'
    rw [hdrop, hdrop', List.drop_length_add_append, List.drop_length_add_append, List.drop_one,
      List.drop_one, List.tail_cons, List.tail_cons]
  refine ⟨?_, ?_⟩
  · rw [hrun, hrun']
    exact congrArg₂ Session.mk hticket.symm (World.eq_of_forkTwins hends hscripts)
  · rw [hrun, hrun']
    rcases hcollect : a.fulfill.on s with ⟨result, t⟩
    rcases hcollect' : a.fulfill.on ⟨s.ticket, v⟩ with ⟨result', t'⟩
    rw [hcollect, hcollect'] at hresult
    cases hresult with
    | error e => exact .error e
    | ok _ => exact .ok ⟨handsOver_of_fulfill hrest hcollect, handsOver_of_fulfill hrest' hcollect'⟩

end Applicant

namespace Handover

variable {σ : Type} [Sink σ] {E : σ → σ → Prop} {Q : String → String → Prop} {a : Applicant}
  {handle : String} {registry : Registry σ} {w w' : World}

/-- Where the applicant's runs end alike, discreet modules are called alike, and the reports are alike. -/
theorem run_alike (hE : Sink.Discreet E) (hregistry : registry.Alike E registry)
    (hsession : (a.run.on (.fresh handle w')).2 = (a.run.on (.fresh handle w)).2)
    (hresult : Agree Q (a.run.on (.fresh handle w)).1 (a.run.on (.fresh handle w')).1) :
    (run a handle registry w).Alike E (run a handle registry w') := by
  have hround := hregistry.start hE
  have hbegun := Activity.alike_ofRound hround
  cases hstart : registry.start.error? with
  | some e =>
    rw [run_of_unstarted hstart, run_of_unstarted hstart]
    refine Report.Alike.after (close_alike hE ?_) hbegun
    exact ⟨rfl, .nil, rfl, hround.registry⟩
  | none =>
    rcases hrun : a.run.on (.fresh handle w) with ⟨result, s⟩
    rcases hrun' : a.run.on (.fresh handle w') with ⟨result', s'⟩
    rw [hrun, hrun'] at hsession hresult
    obtain rfl : s' = s := hsession
    have hearlier := List.rel_append hbegun (Activity.alike_happened (E := E) s'.world.trace)
    cases hresult with
    | ok h =>
      rw [run_of_ok hstart hrun, run_of_ok hstart hrun']
      exact Report.Alike.after (close_alike hE (succeed_alike hE hround.registry _ _ _)) hearlier
    | error e =>
      cases e with
      | error e =>
        rw [run_of_error hstart hrun, run_of_error hstart hrun']
        exact Report.Alike.after (close_alike hE (giveUp_alike hE hround.registry _ _)) hearlier
      | hung =>
        rw [run_of_hung hstart hrun, run_of_hung hstart hrun']
        exact ⟨rfl, hearlier, rfl, hround.registry⟩

end Handover

/-- A script in which the body of one answer is left open. The answer is of the expected status. -/
structure OpenScript where
  before : List ServerStep
  step : ServerStep
  headers : Http.Headers
  after : List ServerStep

namespace OpenScript

def answer (o : OpenScript) (body : List UInt8) : Http.Response := ⟨200, o.headers, body⟩

def fill (o : OpenScript) (body : List UInt8) : List ServerStep :=
  o.before ++ o.step.answering o.headers body :: o.after

end OpenScript

/-- Whatever secret the server hands over at the collection, everything else that a run does is the same:
the requests, the events, the lines and the ticket of the applicant's run, and the result, the lines and the
calls to the modules of the whole run, as long as the modules are discreet. -/
theorem secret_concealed (a : Applicant) (handle : String) (world : World) (o : OpenScript)
    {body body' : List UInt8} {text text' : List Char} (hbody : Text.Utf8.decode body = .ok text)
    (hbody' : Text.Utf8.decode body' = .ok text') (hscript : world.script = o.fill body)
    (hcollected : ∃ r ∈ (a.run.on (.fresh handle world)).2.world.requests[o.before.length]?,
      r.method = .patch) :
    let world' := { world with script := o.fill body' }
    let ending := a.run.on (.fresh handle world)
    let ending' := a.run.on (.fresh handle world')
    ending'.2 = ending.2 ∧
      Agree (fun secret secret' => (o.answer body).HandsOver secret ∧ (o.answer body').HandsOver secret')
        ending.1 ending'.1 ∧
      ∀ {σ : Type} [Sink σ] (E : σ → σ → Prop) (registry : Registry σ), Sink.Discreet E →
        (∀ m ∈ registry.members, E m.state m.state) →
        (Handover.run a handle registry world).Alike E (Handover.run a handle registry world') := by
  intro world' ending ending'
  obtain ⟨hsession, hresult⟩ := Applicant.run_conceals hbody hbody' hscript hcollected
  refine ⟨hsession, hresult, fun E registry hE hmembers => ?_⟩
  have hregistry : registry.Alike E registry :=
    ⟨List.forall₂_same.mpr fun m hm => ⟨rfl, hmembers m hm⟩, rfl, rfl⟩
  exact Handover.run_alike hE hregistry hsession hresult

/-- The modules of the program are discreet, so a run ends in the same way with either of two keys. -/
theorem secret_concealed_loopback :
    let reply (status : UInt16) (body : String) : ServerStep :=
      ⟨false, 0, some (.ok ⟨status, .empty, Text.Utf8.encodeString body⟩)⟩
    let o : OpenScript := ⟨[reply 201 (Text.braced "\"id\": 7"), reply 200 (Text.braced "\"state\": \"ACCEPTED\"")],
      ⟨false, 0, none⟩, .empty, []⟩
    let world : World := ⟨⟨fun _ => .ok (), .network none⟩, fun _ => default, 0,
      o.fill (Text.Utf8.encodeString "sesame\n"), 0, ⟨false, none, none⟩, 0, []⟩
    let world' := { world with script := o.fill (Text.Utf8.encodeString "mellon") }
    let a : Applicant := ⟨Client.loopback, ⟨1000, none⟩, true⟩
    let registry : Registry (WriterSink ⊕ SocketSink) :=
      ⟨[⟨0, .inl {}⟩, ⟨1, .inr ({ preset := some .given : SocketSink }.fix true)⟩], 2, false⟩
    (∃ r ∈ (a.run.on (.fresh "disk" world)).2.world.requests[o.before.length]?, r.method = .patch) ∧
      (∀ m ∈ registry.members, Sum.LiftRel WriterSink.Alike SocketSink.Alike m.state m.state) ∧
      (a.run.on (.fresh "disk" world)).1.toOption = some "sesame" ∧
      (a.run.on (.fresh "disk" world')).1.toOption = some "mellon" ∧
      (Handover.run a "disk" registry world).result = (Handover.run a "disk" registry world').result := by
  intro reply o world world' a registry
  have hsesame : Text.Utf8.decode (Text.Utf8.encodeString "sesame\n") = .ok "sesame\n".toList := by
    decide +kernel
  have hmellon : Text.Utf8.decode (Text.Utf8.encodeString "mellon") = .ok "mellon".toList := by
    decide +kernel
  have hcollected :
      ∃ r ∈ (a.run.on (.fresh "disk" world)).2.world.requests[o.before.length]?, r.method = .patch := by
    have hmethod : ((a.run.on (.fresh "disk" world)).2.world.requests[o.before.length]?).map (·.method) =
        some .patch := by decide +kernel
    exact Option.map_eq_some_iff.mp hmethod
  have hmembers : ∀ m ∈ registry.members, Sum.LiftRel WriterSink.Alike SocketSink.Alike m.state m.state := by
    intro m hm
    rcases List.mem_pair.mp hm with rfl | rfl
    · exact .inl ⟨rfl, ⟨rfl, rfl⟩, ⟨rfl, rfl⟩, rfl⟩
    · exact .inr ⟨rfl, rfl⟩
  have hfirst : (a.run.on (.fresh "disk" world)).1.toOption = some "sesame" := by decide +kernel
  have hsecond : (a.run.on (.fresh "disk" world')).1.toOption = some "mellon" := by decide +kernel
  obtain ⟨-, -, hreports⟩ := secret_concealed a "disk" world o hsesame hmellon rfl hcollected
  have hdiscreet := WriterSink.discreet.sum SocketSink.discreet
  exact ⟨hcollected, hmembers, hfirst, hsecond, (hreports _ registry hdiscreet hmembers).result⟩

end KeyApproval
