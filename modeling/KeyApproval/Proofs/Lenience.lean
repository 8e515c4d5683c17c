import KeyApproval.Proofs.Parallel
import KeyApproval.Proofs.Veils
import KeyApproval.Proofs.WireSafety
import KeyApproval.Run.Handover

/-!
# Lenient transports

A check before sending that lets all requests of a client pass has no influence on a run of the client: the same
comes of it where nothing is checked. The check of the program is of this kind for every user name without control
characters.
-/

namespace KeyApproval

open Step World

/-- The transport lets every request of the client pass. -/
def Transport.Lets (t : Transport) (c : Client) : Prop :=
  ∀ method url body now, t.check (c.requestTo method url body now) = .ok ()

theorem Transport.lets_of_check {t : Transport} {c : Client} (ht : t.check = Request.check)
    (h : ¬HasControl c.credentials.username) : t.Lets c := by
  intro method url body now
  rw [ht, Client.check_requestTo_eq_ok_iff]
  exact h

namespace World

/-- The same world where every request may leave. -/
def lenient (w : World) : World := { w with transport := ⟨fun _ => .ok (), w.transport.exhausted⟩ }

theorem lenient_fire (w : World) : w.fire.lenient = w.lenient.fire := by
  unfold fire
  have hfired : w.lenient.isFired = w.isFired := rfl
  rw [hfired]
  split <;> rfl

/-- What is checked is looked at by nothing but the check. -/
theorem isVeil_lenient : IsVeil lenient where
  token _ := rfl
  nowMs _ := rfl
  script _ := rfl
  exhausted _ := rfl
  fire := lenient_fire
  advance _ _ := rfl
  sending _ _ := rfl
  logAll _ _ := rfl
  readClock _ := rfl

theorem lenient_tell (w : World) (e : Event) : (w.tell e).lenient = w.lenient.tell e := by
  unfold tell
  have htoken : w.lenient.token = w.token := rfl
  have hevents : w.lenient.events = w.events := rfl
  rw [htoken, hevents]
  dsimp only
  split
  · exact lenient_fire _
  · rfl

/-- The first world lets the client send whatever it likes, and the second one everybody. -/
structure Frees (c : Client) (v w : World) : Prop where
  lets : v.transport.Lets c
  same : w = v.lenient

variable {c : Client} {v w : World}

theorem steady_lets (c : Client) : Steady (·.transport.Lets c) where
  emitted _ _ h := h
  slept _ _ h := h
  fire w h := by
    unfold fire
    split <;> exact h
  advance _ _ h := h
  readClock _ h := h

end World

theorem Client.sideBySide_frees (c : Client) : c.SideBySide (fun _ => False) (Frees c) c := by
  apply sideBySide_of_call
  intro α method path body decode
  refine ⟨fun _ h => h, fun v w h => .inr ?_⟩
  obtain ⟨hlets, rfl⟩ := h
  have hkept : (c.call method path body decode v).2.transport.Lets c :=
    (steady_lets c).call hlets (fun _ _ _ hv => hv) fun _ _ hv => hv
  have hcall : c.call method path body decode v.lenient =
      ((c.call method path body decode v).1, (c.call method path body decode v).2.lenient) := by
    refine isVeil_lenient.call fun r hprepare => ?_
    obtain ⟨url, -, rfl⟩ := prepare_eq_ok_iff.mp hprepare
    exact (hlets method url body _).symm
  rw [hcall]
  exact ⟨.refl (Agree.refl fun _ => rfl) _, hkept, rfl⟩

namespace Applicant

/-- An applicant keeps in step with itself in a lenient world. -/
theorem inStep_frees (a : Applicant) : a.InStep (fun _ => False) (Frees a.client) a where
  idle _ _ _ h := h
  length _ _ h := by
    rw [h.same]
    rfl
  isFired _ _ h := by
    rw [h.same]
    rfl
  log _ _ _ _ h := ⟨h.lets, by rw [h.same]; rfl⟩
  rest v w ms h := by
    obtain ⟨hlets, rfl⟩ := h
    have hwait := isVeil_lenient.wait ms (v.record (.slept ms))
    have hkept := (steady_lets a.client).wait (w := v.record (.slept ms)) hlets ms
    refine ⟨?_, hkept, congrArg Prod.snd hwait⟩
    rw [show (v.lenient.record (.slept ms)).wait ms = _ from hwait]
    exact .refl (fun _ => rfl) _
  tell e := {
    keeps := fun _ h => h.elim
    runs := by
      intro ticket v w h
      obtain ⟨hlets, rfl⟩ := h
      right
      unfold tell
      split
      · exact ⟨.ok rfl, rfl, (steady_lets a.client).tell hlets e, (lenient_tell v e).symm⟩
      · exact ⟨.ok rfl, rfl, hlets, rfl⟩ }
  polling := rfl

/-- A check that lets all requests of the client pass has no influence on its run. -/
theorem run_lenient (a : Applicant) (ticket : Ticket) {w : World} (h : w.transport.Lets a.client) :
    Matched (Frees a.client) Eq (a.run.on ⟨ticket, w⟩) (a.run.on ⟨ticket, w.lenient⟩) :=
  ((run_parallel a.inStep_frees a.client.sideBySide_frees).runs ticket w w.lenient ⟨h, rfl⟩).resolve_left id

end Applicant

namespace Handover

variable {σ : Type} [Sink σ]

/-- The result is a matter of the result so far and of the modules. -/
theorem result_close_congr {o o' : Outcome σ} (hresult : o.result = o'.result)
    (hregistry : o.registry = o'.registry) : (close o).result = (close o').result := by
  unfold close
  rw [hresult, hregistry]
  dsimp only
  split <;> rfl

theorem result_run_lenient {a : Applicant} (handle : String) (registry : Registry σ) {w : World}
    (h : w.transport.Lets a.client) : (run a handle registry w).result = (run a handle registry w.lenient).result := by
  have hmatched := a.run_lenient (Ticket.new handle) (w := { w with trace := [] }) h
  have hsame : { w.lenient with trace := [] } = ({ w with trace := [] } : World).lenient := rfl
  unfold run
  dsimp only
  rw [hsame]
  cases registry.start.error? with
  | some e => exact result_close_congr rfl rfl
  | none =>
    revert hmatched
    generalize a.run.on ⟨Ticket.new handle, { w with trace := [] }⟩ = out
    generalize a.run.on ⟨Ticket.new handle, ({ w with trace := [] } : World).lenient⟩ = out'
    obtain ⟨result, ticket, v⟩ := out
    obtain ⟨result', ticket', v'⟩ := out'
    rintro ⟨hresult, hticket, -⟩
    dsimp only at hresult hticket ⊢
    subst hticket
    obtain rfl := hresult.eq
    cases result with
    | ok secret => exact result_close_congr rfl rfl
    | error e =>
      cases e with
      | error e => exact result_close_congr rfl rfl
      | hung => rfl

end Handover

end KeyApproval
