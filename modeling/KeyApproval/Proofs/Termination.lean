import KeyApproval.Proofs.Steps

/-!
# Runs that end

A run hangs only where the server never replies. Every poll that tells of a stage takes a step of the
script, so the loop over the polls never comes to its bound.
-/

namespace KeyApproval

open Step

variable {α : Type} {n : Nat}

/-- Fewer than `n` steps of the script are left, and each of them has a reply. -/
structure Session.Prompt (n : Nat) (s : Session) : Prop where
  replies : ∀ step ∈ s.world.script, step.reply ≠ none
  few : s.world.script.length < n

/-- The step comes to an end with a value or an error. -/
def Step.Ends (P : Session → Prop) (x : Step α) (Q : α → Session → Prop) : Prop :=
  x.Meets P Q fun e _ => e ≠ .hung

namespace Session

variable {s : Session} {w : World}

theorem Prompt.of_idles (h : s.Prompt n) (hw : s.world.Idles w) : Prompt n ⟨s.ticket, w⟩ where
  replies := hw.script ▸ h.replies
  few := hw.script ▸ h.few

theorem Prompt.mono {m : Nat} (h : s.Prompt n) (hle : n ≤ m) : s.Prompt m :=
  ⟨h.replies, Nat.lt_of_lt_of_le h.few hle⟩

end Session

open Session

namespace Applicant

variable {a : Applicant}

/-! ### Building blocks -/

theorem giveUp_ends {e : RunError} {P : Session → Prop} {Q : α → Session → Prop} :
    (giveUp e : Step α).Ends P Q :=
  fun _ _ => nofun

theorem logLine_ends (level : Level) (text : String) :
    (logLine level text).Ends (Prompt n) fun _ => Prompt n :=
  Meets.modify fun _ hs => hs.of_idles (World.idles_log _ _ _)

theorem tell_ends (e : Event) : (a.tell e).Ends (Prompt n) fun _ => Prompt n :=
  tell_of_idles e fun _ _ hs hw => hs.of_idles hw

theorem expectStage_ends (stage : Stage) : (expectStage stage).Ends (Prompt n) fun _ => Prompt n := by
  intro s hs
  by_cases h : s.ticket.stage = stage
  · rw [on_expectStage_of_eq h]
    exact hs
  · rw [on_expectStage_of_ne h]
    exact nofun

theorem pendingNumber_ends : pendingNumber.Ends (Prompt n) fun _ => Prompt n := by
  refine Meets.bind (expectStage_ends _) fun _ => ?_
  apply Meets.get
  intro s hs
  split
  · exact Meets.pure (by rintro _ rfl; exact hs)
  · exact Meets.throw fun _ _ => nofun

theorem moveTo_ends (next : Stage) : (a.moveTo next).Ends (Prompt n) fun _ => Prompt n := by
  apply Meets.get
  intro s hs
  dsimp only
  split
  · exact Meets.throw fun _ _ => nofun
  · refine Meets.bind (Q := fun _ => Prompt n) (Meets.modify ?_) fun _ => tell_ends _
    rintro _ rfl
    exact ⟨hs.replies, hs.few⟩

theorem sleep_ends : a.sleep.Ends (Prompt n) fun _ => Prompt n := by
  apply sleep_of_idles
  · exact fun s w hs hidle => hs.of_idles hidle
  · exact fun s w _ _ => nofun

/-- A call that gives a value has taken a step of the script. -/
theorem ask_ends (c : Client) (method : Http.Method) (path : String) (body : Option String)
    (decode : Http.Response → Client.Decoded α) :
    (ask (c.call method path body decode)).Ends (Prompt (n + 1)) fun _ => Prompt n := by
  apply ask_of_sends
  · exact fun s w e _ _ => nofun
  · exact fun s r w e _ _ => nofun
  · rintro s r w b hs hsent ⟨step, hstep, -⟩
    have hscript : w.script = s.world.script.tail := hsent.idle.script
    have hpos := List.length_pos_of_mem (List.mem_of_mem_head? hstep)
    have hfew := hs.few
    refine ⟨fun step hmem => hs.replies step ?_, ?_⟩
    · exact List.mem_of_mem_tail (hscript ▸ hmem)
    · change w.script.length < n
      rw [hscript, List.length_tail]
      omega
  · rintro s r w hs hsent ⟨step, hstep, hnone⟩
    exact absurd hnone (hs.replies step (List.mem_of_mem_head? hstep))

/-! ### The steps -/

theorem create_ends : a.create.Ends (Prompt (n + 1)) fun _ => Prompt n := by
  refine Meets.bind (expectStage_ends _) fun _ => ?_
  apply Meets.get
  intro s hs
  refine Meets.bind ((logLine_ends _ _).pre (by rintro _ rfl; exact hs)) fun _ => ?_
  rw [Client.requestKey_eq]
  apply Meets.bind (ask_ends _ _ _ _ _)
  intro id
  refine Meets.bind (Q := fun _ => Prompt n) (Meets.modify ?_) fun _ => moveTo_ends _
  exact fun t ht => ⟨ht.replies, ht.few⟩

theorem poll_ends : a.poll.Ends (Prompt (n + 1)) fun _ => Prompt n := by
  apply Meets.bind pendingNumber_ends
  intro id
  rw [Client.inquire_eq]
  apply Meets.bind (ask_ends _ _ _ _ _)
  intro stage
  split
  · exact Meets.pure fun _ h => h
  · exact Meets.bind (moveTo_ends _) fun _ => Meets.pure fun _ h => h
  · exact Meets.bind (moveTo_ends _) fun _ => Meets.pure fun _ h => h
  · exact giveUp_ends

/-- The bound on the polls is never reached. -/
theorem pollFrom_ends (id : UInt64) (fuel : Nat) (attempts : UInt32) :
    (a.pollFrom id fuel attempts).Ends (Prompt fuel) fun _ => Prompt fuel := by
  -- a poll that goes on takes a step of the script, as the loop takes one from its fuel
  induction fuel generalizing attempts with
  | zero => exact fun s hs => absurd hs.few (Nat.not_lt_zero _)
  | succ fuel ih =>
    have hmore (s : Session) (hs : s.Prompt fuel) : s.Prompt (fuel + 1) := hs.mono (Nat.le_succ fuel)
    rw [pollFrom]
    apply Meets.bind poll_ends
    intro stage
    dsimp only
    split
    · exact Meets.bind (logLine_ends _ _) fun _ => Meets.throw fun _ _ => nofun
    · split
      · refine Meets.bind (tell_ends _) fun _ => ?_
        refine Meets.bind sleep_ends fun _ => ?_
        exact (ih _).post fun _ => hmore
      · exact giveUp_ends
    · exact Meets.pure hmore

theorem awaitDecision_ends : a.awaitDecision.Ends (Prompt n) fun _ => Prompt n := by
  apply Meets.bind pendingNumber_ends
  intro id
  split
  · apply Meets.get
    intro s hs
    refine (pollFrom_ends id _ 0).mono ?_ (fun _ _ ht => ht.mono hs.few) fun _ _ h => h
    rintro _ rfl
    exact ⟨hs.replies, Nat.lt_succ_self _⟩
  · exact giveUp_ends

theorem fulfill_ends : a.fulfill.Ends (Prompt (n + 1)) fun _ => Prompt n := by
  refine Meets.bind (expectStage_ends _) fun _ => ?_
  apply Meets.get
  intro s hs
  split
  · exact giveUp_ends
  · rw [Client.collect_eq]
    apply Meets.bind ((ask_ends _ _ _ _ _).pre (by rintro _ rfl; exact hs))
    intro secret
    refine Meets.bind (moveTo_ends _) fun _ => ?_
    exact Meets.bind (logLine_ends _ _) fun _ => Meets.pure fun _ h => h

theorem run_ends : a.run.Ends (Prompt (n + 2)) fun _ => Prompt n :=
  Meets.bind create_ends fun _ => Meets.bind awaitDecision_ends fun _ => fulfill_ends

/-- A run ends where every step of the script has a reply, whenever the token fires. -/
theorem run_ne_hung (a : Applicant) {s : Session} (h : ∀ step ∈ s.world.script, step.reply ≠ none) :
    (a.run.on s).1 ≠ .error .hung := by
  have hprompt : s.Prompt (s.world.script.length + 2) := ⟨h, by omega⟩
  intro hhung
  exact run_ends.error hprompt (Prod.ext hhung rfl) rfl

end Applicant

end KeyApproval
