import KeyApproval.Proofs.Traffic

/-!
# Calm worlds

A calm world is one in which nobody fires the token. What a call comes to is compared with what it comes to
in the calm world: it is the same, or the token cuts the call short, and then no more was sent than there.
-/

namespace KeyApproval

variable {α β : Type}

/-! ### Calm worlds -/

/-- What the server and the observer notice. -/
def Occurrence.isTalk : Occurrence → Bool
  | .sent _ | .emitted _ => true
  | .logged _ | .slept _ | .interrupted => false

def Occurrence.isInterrupted : Occurrence → Bool
  | .interrupted => true
  | .sent _ | .emitted _ | .logged _ | .slept _ => false

def ServerStep.calm (step : ServerStep) : ServerStep := { step with firesToken := false }

namespace World

/-- The requests and the events so far, in order. -/
def talk (w : World) : List Occurrence := w.trace.filter Occurrence.isTalk

/-- The same world, but nobody fires the token. -/
def calm (w : World) : World :=
  { w with
    script := w.script.map .calm
    token := ⟨false, none, none⟩
    trace := w.trace.filter (!·.isInterrupted) }

variable {w w' : World}

theorem talk_calm (w : World) : w.calm.talk = w.talk := by
  rw [talk, calm, List.filter_filter]
  refine List.filter_congr fun o _ => ?_
  cases o <;> rfl

theorem talk_prefix_calm (w : World) : w.talk <+: w.calm.talk :=
  (talk_calm w).symm ▸ List.prefix_rfl

theorem requestsOf_talk (w : World) : requestsOf w.talk = requestsOf w.trace := by
  rw [talk, requestsOf, requestsOf, List.filterMap_filter]
  refine congrArg (List.filterMap · w.trace) (funext fun o => ?_)
  cases o <;> rfl

theorem eventsOf_talk (w : World) : eventsOf w.talk = eventsOf w.trace := by
  rw [talk, eventsOf, eventsOf, List.filterMap_filter]
  refine congrArg (List.filterMap · w.trace) (funext fun o => ?_)
  cases o <;> rfl

theorem calm_record {o : Occurrence} (h : o.isInterrupted = false) (w : World) :
    (w.record o).calm = w.calm.record o := by
  simp [record, calm, List.filter_append, h]

theorem calm_logAll (w : World) (lines : List LogLine) : (w.logAll lines).calm = w.calm.logAll lines := by
  have hkept : (lines.map Occurrence.logged).filter (!·.isInterrupted) = lines.map .logged := by
    apply List.filter_eq_self.mpr
    intro o ho
    obtain ⟨line, -, rfl⟩ := List.mem_map.mp ho
    rfl
  simp only [logAll, calm, List.filter_append, hkept]

theorem calm_fire (w : World) : w.fire.calm = w.calm := by
  unfold fire
  split
  · rfl
  · simp [record, calm, List.filter_append, Occurrence.isInterrupted]

theorem calm_tell (w : World) (e : Event) : (w.tell e).calm = w.calm.tell e := by
  have htold : World.calm { w.record (.emitted e) with events := w.events + 1 } = w.calm.tell e := by
    simp [tell, calm, record, List.filter_append, Occurrence.isInterrupted]
  unfold tell
  dsimp only
  split
  · exact (calm_fire _).trans htold
  · exact htold

theorem calm_sending (w : World) (r : Request) : (w.sending r).calm = w.calm.sending r := by
  simp [sending, calm, record, List.filter_append, Occurrence.isInterrupted]

theorem talk_append {added : List Occurrence} (h : w'.trace = w.trace ++ added) : w.talk <+: w'.talk := by
  rw [talk, talk, h, List.filter_append]
  exact List.prefix_append _ _

theorem talk_log (w : World) (level : Level) (text : String) : (w.log level text).talk = w.talk := by
  simp [talk, log, record, Occurrence.isTalk]

theorem talk_logAll (w : World) (lines : List LogLine) : (w.logAll lines).talk = w.talk := by
  have hnone : (lines.map Occurrence.logged).filter Occurrence.isTalk = [] := by
    apply List.filter_eq_nil_iff.mpr
    intro o ho
    obtain ⟨line, -, rfl⟩ := List.mem_map.mp ho
    exact Bool.false_ne_true
  simp only [talk, logAll, List.filter_append, hnone, List.append_nil]

theorem talk_fire (w : World) : w.fire.talk = w.talk := by
  rw [← talk_calm, calm_fire, talk_calm]

theorem talk_fireAt (w : World) (time : Nat) : (w.fireAt time).talk = w.talk := talk_fire w

theorem Idles.talk (h : w.Idles w') : w.talk <+: w'.talk := by
  obtain ⟨added, hadded, -⟩ := h.trace
  exact talk_append hadded

/-! ### How a world evolves -/

/-- From `w` nothing but idling leads to the other world, and requests that are sent before the token is
fired. -/
inductive Evolves (w : World) : World → Prop where
  | refl : Evolves w w
  | idle {a b : World} (h : Evolves w a) (idle : a.Idles b) : Evolves w b
  | send {a : World} (h : Evolves w a) (calm : a.isFired = false) (r : Request) :
      Evolves w (a.sending r)

namespace Evolves

theorem trans {a b c : World} (hab : a.Evolves b) (hbc : b.Evolves c) : a.Evolves c := by
  induction hbc with
  | refl => exact hab
  | idle _ hidle ih => exact ih.idle hidle
  | send _ hcalm r ih => exact ih.send hcalm r

/-- Nothing is sent once the token is fired. -/
theorem trace (h : w.Evolves w') :
    ∃ added, w'.trace = w.trace ++ added ∧
      (w'.isFired = true ↔ w.isFired = true ∨ .interrupted ∈ added) ∧
      ∀ before after, added = before ++ after → (w.isFired = true ∨ .interrupted ∈ before) →
        requestsOf after = [] := by
  induction h with
  | refl =>
    refine ⟨[], (List.append_nil _).symm, (or_iff_left List.not_mem_nil).symm, ?_⟩
    intro before after hsplit _
    rw [(List.append_eq_nil_iff.mp hsplit.symm).2]
    rfl
  | @idle a b _ hidle ih =>
    obtain ⟨added, hadded, hfired, hheeded⟩ := ih
    obtain ⟨later, hlater, hnone, hfired'⟩ := hidle.trace
    refine ⟨added ++ later, ?_, ?_, ?_⟩
    · rw [hlater, hadded, List.append_assoc]
    · rw [hfired', hfired, List.mem_append, or_assoc]
    · intro before after hsplit hbefore
      rcases List.append_eq_append_iff.mp hsplit with ⟨mid, rfl, rfl⟩ | ⟨mid, rfl, rfl⟩
      · exact (List.append_eq_nil_iff.mp ((requestsOf_append mid after).symm.trans hnone)).2
      · rw [requestsOf_append, hheeded before mid rfl hbefore, hnone, List.append_nil]
  | @send a _ hcalm r ih =>
    obtain ⟨added, hadded, hfired, hheeded⟩ := ih
    refine ⟨added ++ [.sent r], ?_, ?_, ?_⟩
    · change a.trace ++ [.sent r] = _
      rw [hadded, List.append_assoc]
    · rw [List.mem_append, ← or_assoc, ← hfired]
      exact (or_iff_left (by simp)).symm
    · -- the token is not fired yet, so it did not fire before
      intro before after hsplit hbefore
      have hmem : w.isFired = true ∨ .interrupted ∈ added := by
        apply hbefore.imp_right
        intro hmem
        have hin : .interrupted ∈ added ++ [.sent r] := by
          rw [hsplit]
          exact List.mem_append_left _ hmem
        simpa using hin
      rw [hfired.mpr hmem] at hcalm
      contradiction

theorem talk (h : w.Evolves w') : w.talk <+: w'.talk := by
  obtain ⟨added, hadded, -⟩ := h.trace
  exact talk_append hadded

end Evolves

/-! ### Arrivals -/

/-- What an action comes to and what it comes to in the calm world: the same, or the token cuts it
short. -/
inductive Shortens : Arrival β × World → Arrival β × World → Prop where
  | same {arrival : Arrival β} {w : World} (h : arrival ≠ .interrupted) :
      Shortens (arrival, w) (arrival, w.calm)
  | cut {w : World} {whole : Arrival β × World} (fired : w.isFired = true)
      (talk : w.talk <+: whole.2.talk) : Shortens (.interrupted, w) whole

theorem wait_shortens (w : World) (ms : Nat) : Shortens (w.wait ms) (w.calm.wait ms) := by
  have hcalm : w.calm.wait ms = (.value (), { w.calm with nowMs := w.nowMs + ms }) := by
    unfold wait
    split
    · next h =>
        subst h
        rfl
    · rfl
  have hidle : w.talk <+: { w.calm with nowMs := w.nowMs + ms }.talk := talk_prefix_calm w
  rw [hcalm]
  unfold wait
  split
  · next h =>
      subst h
      exact .same nofun
  · split
    · next hfired => exact .cut hfired hidle
    · split
      · split
        · next time _ _ =>
            refine .cut (isFired_fire w) ?_
            rwa [talk_fireAt]
        · exact .same nofun
      · exact .same nofun

theorem waitForToken_shortens (w : World) :
    Shortens (w.waitForToken (α := β)) w.calm.waitForToken := by
  have hcalm : w.calm.waitForToken (α := β) = (.never, w.calm) := rfl
  have htalk := talk_prefix_calm w
  rw [hcalm]
  unfold waitForToken
  split
  · next hfired => exact .cut hfired htalk
  · split
    · refine .cut (isFired_fire w) ?_
      rwa [talk_fireAt]
    · exact .same nofun

theorem receive_shortens (w : World) (step : ServerStep) :
    Shortens (w.receive step) (w.calm.receive step.calm) := by
  have hstart : (if step.firesToken then w.fire else w).calm = w.calm := by
    split
    · exact calm_fire w
    · rfl
  have hwait := wait_shortens (if step.firesToken then w.fire else w) step.delayMs
  rw [hstart] at hwait
  unfold receive
  simp only [ServerStep.calm, Bool.false_eq_true, if_false]
  revert hwait
  generalize (if step.firesToken then w.fire else w).wait step.delayMs = out
  generalize w.calm.wait step.delayMs = whole
  intro hwait
  cases hwait with
  | @same arrival v h =>
    cases arrival with
    | value a =>
      cases step.reply with
      | some reply => exact .same nofun
      | none => exact waitForToken_shortens v
    | interrupted => exact absurd rfl h
    | never => exact .same nofun
  | cut hfired htalk =>
    refine .cut hfired (htalk.trans ?_)
    rcases whole with ⟨_ | _ | _, v⟩
    · cases step.reply with
      | some reply => exact List.prefix_rfl
      | none => exact (idles_waitForToken v).talk
    · exact List.prefix_rfl
    · exact List.prefix_rfl

theorem send_shortens (w : World) (r : Request) : Shortens (w.send r) (w.calm.send r) := by
  cases hcheck : w.transport.check r with
  | error e =>
    have hcalm : w.calm.transport.check r = .error e := hcheck
    rw [send_of_refused hcheck, send_of_refused hcalm]
    exact .same nofun
  | ok _ =>
    have hcalm : w.calm.transport.check r = .ok () := hcheck
    cases hscript : w.script with
    | nil =>
      have hcalmScript : w.calm.script = [] := by rw [calm, hscript]; rfl
      rw [send_of_script_nil hcheck hscript, send_of_script_nil hcalm hcalmScript, ← calm_sending]
      exact .same nofun
    | cons step rest =>
      have hcalmScript : w.calm.script = step.calm :: rest.map .calm := by rw [calm, hscript]; rfl
      rw [send_of_script_cons hcheck hscript, send_of_script_cons hcalm hcalmScript, ← calm_sending]
      exact receive_shortens _ step

end World

open World

namespace Client

theorem talk_finish (decode : Http.Response → Decoded α)
    (answer : Arrival (Except ClientError Http.Response) × World) :
    (finish decode answer).2.talk = answer.2.talk := by
  rcases answer with ⟨(_ | _) | _ | _, w⟩
  · rfl
  · exact talk_logAll w _
  · rfl
  · rfl

theorem call_shortens (c : Client) (method : Http.Method) (path : String) (body : Option String)
    (decode : Http.Response → Decoded α) (w : World) :
    Shortens (c.call method path body decode w) (c.call method path body decode w.calm) := by
  have hclock : w.calm.readClock = (w.readClock.1, w.readClock.2.calm) := rfl
  rw [call_eq, call_eq, hclock]
  cases c.prepare method path body w.readClock.1 with
  | error e => exact .same (by simp)
  | ok r =>
    have hsend := send_shortens w.readClock.2 r
    dsimp only
    revert hsend
    generalize w.readClock.2.send r = out
    generalize w.readClock.2.calm.send r = whole
    intro hsend
    cases hsend with
    | @same arrival v h =>
      rcases arrival with (e | answer) | _ | _
      · exact .same (by simp)
      · simp only [finish, ← calm_logAll]
        exact .same (by simp)
      · exact absurd rfl h
      · exact .same (by simp)
    | cut hfired htalk =>
      refine .cut hfired ?_
      rwa [talk_finish]

end Client

end KeyApproval
