import KeyApproval.Proofs.Traffic

/-!
# Veils over the world

A part of the world that nobody looks at has no influence. A veil changes such a part: the token, the time and the
server are the same behind it, and whatever is done may be done before or after the world is veiled. So waiting,
sending and calling come to the same behind a veil.
-/

namespace KeyApproval

variable {α : Type}

namespace World

/-- A change of the world that no action notices. What the transport checks is not said here. -/
structure IsVeil (f : World → World) : Prop where
  token : ∀ w, (f w).token = w.token
  nowMs : ∀ w, (f w).nowMs = w.nowMs
  script : ∀ w, (f w).script = w.script
  exhausted : ∀ w, (f w).transport.exhausted = w.transport.exhausted
  fire : ∀ w, f w.fire = (f w).fire
  advance : ∀ w time, f { w with nowMs := time } = { f w with nowMs := time }
  sending : ∀ w r, f (w.sending r) = (f w).sending r
  logAll : ∀ w lines, f (w.logAll lines) = (f w).logAll lines
  readClock : ∀ w, (f w).readClock = (w.readClock.1, f w.readClock.2)

/-- The action comes to the same, behind the veil or not. -/
def Ignores (f : World → World) (action : World → Arrival α × World) : Prop :=
  ∀ w, action (f w) = ((action w).1, f (action w).2)

namespace IsVeil

variable {f : World → World} (hf : IsVeil f)
include hf

theorem isFired (w : World) : (f w).isFired = w.isFired := congrArg Token.fired (hf.token w)

theorem fireAt (w : World) (time : Nat) : f (w.fireAt time) = (f w).fireAt time := by
  rw [World.fireAt, hf.advance, hf.fire, World.fireAt, hf.nowMs]

theorem fireAtMs (w : World) : (f w).token.fireAtMs = w.token.fireAtMs := congrArg Token.fireAtMs (hf.token w)

theorem wait (ms : Nat) : Ignores f (World.wait · ms) := by
  intro w
  dsimp only
  by_cases hms : ms = 0
  · simp only [World.wait, if_pos hms]
  by_cases hfired : w.isFired = true
  · have hfired' : (f w).isFired = true := (hf.isFired w).trans hfired
    simp only [World.wait, if_neg hms, if_pos hfired, if_pos hfired']
  have hfired' : ¬(f w).isFired = true := (hf.isFired w).symm ▸ hfired
  have hlater : { f w with nowMs := (f w).nowMs + ms } = f { w with nowMs := w.nowMs + ms } :=
    (congrArg (fun time => { f w with nowMs := time + ms }) (hf.nowMs w)).trans (hf.advance w _).symm
  simp only [World.wait, if_neg hms, if_neg hfired, if_neg hfired', hlater]
  cases htime : w.token.fireAtMs with
  | none =>
    rw [(hf.fireAtMs w).trans htime]
  | some time =>
    rw [(hf.fireAtMs w).trans htime]
    dsimp only
    rw [hf.nowMs]
    split
    · rw [hf.fireAt]
    · rfl

theorem waitForToken : Ignores f (World.waitForToken (α := α)) := by
  intro w
  by_cases hfired : w.isFired = true
  · have hfired' : (f w).isFired = true := (hf.isFired w).trans hfired
    simp only [World.waitForToken, if_pos hfired, if_pos hfired']
  have hfired' : ¬(f w).isFired = true := (hf.isFired w).symm ▸ hfired
  simp only [World.waitForToken, if_neg hfired, if_neg hfired']
  cases htime : w.token.fireAtMs with
  | none =>
    rw [(hf.fireAtMs w).trans htime]
  | some time =>
    rw [(hf.fireAtMs w).trans htime, hf.fireAt]

theorem receive (step : ServerStep) : Ignores f (World.receive · step) := by
  intro w
  have hstart : (if step.firesToken then (f w).fire else f w) = f (if step.firesToken then w.fire else w) := by
    split
    · exact (hf.fire w).symm
    · rfl
  have hwait := hf.wait step.delayMs (if step.firesToken then w.fire else w)
  dsimp only at hwait
  dsimp only [World.receive]
  rw [hstart, hwait]
  rcases (if step.firesToken then w.fire else w).wait step.delayMs with ⟨_ | _ | _, v⟩
  · cases step.reply with
    | some reply => rfl
    | none => exact hf.waitForToken v
  · rfl
  · rfl

/-- A request comes to the same when the transport says the same of it. -/
theorem send {w : World} {r : Request} (hcheck : (f w).transport.check r = w.transport.check r) :
    (f w).send r = ((w.send r).1, f (w.send r).2) := by
  cases hresult : w.transport.check r with
  | error e =>
    rw [send_of_refused hresult, send_of_refused (hcheck.trans hresult)]
  | ok _ =>
    have hscript := hf.script w
    cases hown : w.script with
    | nil =>
      rw [send_of_script_nil hresult hown, send_of_script_nil (hcheck.trans hresult) (hscript.trans hown),
        hf.exhausted, ← hf.sending]
    | cons step rest =>
      rw [send_of_script_cons hresult hown, send_of_script_cons (hcheck.trans hresult) (hscript.trans hown),
        ← hf.sending]
      exact hf.receive step (w.sending r)

theorem call {c : Client} {method : Http.Method} {path : String} {body : Option String}
    {decode : Http.Response → Client.Decoded α} {w : World}
    (hcheck : ∀ r, c.prepare method path body w.readClock.1 = .ok r →
      (f w.readClock.2).transport.check r = w.readClock.2.transport.check r) :
    c.call method path body decode (f w) =
      ((c.call method path body decode w).1, f (c.call method path body decode w).2) := by
  rw [Client.call_eq, Client.call_eq, hf.readClock]
  cases hprepare : c.prepare method path body w.readClock.1 with
  | error e => rfl
  | ok r =>
    dsimp only
    rw [hf.send (hcheck r hprepare)]
    rcases w.readClock.2.send r with ⟨(e | answer) | _ | _, v⟩
    · rfl
    · simp only [Client.finish, hf.logAll]
    · rfl
    · rfl

end IsVeil

end World

end KeyApproval
