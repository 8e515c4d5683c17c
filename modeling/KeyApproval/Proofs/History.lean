import KeyApproval.Proofs.Answers
import KeyApproval.Proofs.ResourcePath
import KeyApproval.Proofs.Steps
import KeyApproval.Proofs.Traffic

/-!
# Histories of requests

What a ticket says about the requests that were sent for it. Every request took one step of the script, so
the answer to a request stands at its place in the script. The history of a ticket is one application, then
questions about the number that was granted, then one collection after an acceptance was told.
-/

namespace KeyApproval

variable {α : Type} {script : List ServerStep} {known : Option UInt64}

/-- One application, whose answer grants the number, and then questions about that number. -/
inductive Inquired (script : List ServerStep) (id : UInt64) : List Request → Prop where
  | granted {r : Request} {step : ServerStep} (method_eq : r.method = .post)
      (head : script.head? = some step) (grant : step.Yields Client.decodeId id) :
      Inquired script id [r]
  | asked {rs : List Request} {r : Request} (earlier : Inquired script id rs)
      (method_eq : r.method = .get) (named : r.url.NamesRequest id) : Inquired script id (rs ++ [r])

/-- The latest request is a question, and the answer to it tells of the stage. -/
def ToldLast (script : List ServerStep) (rs : List Request) (stage : Stage) : Prop :=
  ∃ front r, rs = front ++ [r] ∧ r.method = .get ∧
    ∃ step ∈ script[front.length]?, step.Yields Client.decodeState stage

/-- The requests that may have been sent for a ticket of that number. -/
inductive Lawful (script : List ServerStep) : Option UInt64 → List Request → Prop where
  | silent : Lawful script none []
  | applied {r : Request} (method_eq : r.method = .post) : Lawful script none [r]
  | inquired {id : UInt64} {rs : List Request} (h : Inquired script id rs) : Lawful script (some id) rs
  | collected {id : UInt64} {rs : List Request} {r : Request} (h : Inquired script id rs)
      (told : ToldLast script rs .accepted) (method_eq : r.method = .patch)
      (named : r.url.NamesRequest id) : Lawful script (some id) (rs ++ [r])

namespace Inquired

variable {id : UInt64} {rs : List Request}

theorem map_method (h : Inquired script id rs) :
    ∃ polls, rs.map (·.method) = .post :: List.replicate polls .get := by
  induction h with
  | granted hmethod => exact ⟨0, by simp [hmethod]⟩
  | asked _ hmethod _ ih =>
    obtain ⟨polls, hpolls⟩ := ih
    refine ⟨polls + 1, ?_⟩
    rw [List.map_append, hpolls, List.replicate_succ', List.cons_append, List.map_singleton, hmethod]

theorem head (h : Inquired script id rs) :
    (∃ r ∈ rs.head?, r.method = .post) ∧ ∃ step ∈ script.head?, step.Yields Client.decodeId id := by
  induction h with
  | granted hmethod hhead hgrant => exact ⟨⟨_, rfl, hmethod⟩, _, hhead, hgrant⟩
  | asked _ _ _ ih =>
    obtain ⟨⟨r, hr, hpost⟩, hgrant⟩ := ih
    exact ⟨⟨r, by rw [List.head?_append, hr]; rfl, hpost⟩, hgrant⟩

theorem named (h : Inquired script id rs) : ∀ r ∈ rs, r.method ≠ .post → r.url.NamesRequest id := by
  induction h with
  | granted hmethod =>
    intro r hr hne
    exact absurd (List.mem_singleton.mp hr ▸ hmethod) hne
  | asked _ _ hnamed ih =>
    intro r hr hne
    rcases List.mem_append.mp hr with hr | hr
    · exact ih r hr hne
    · exact List.mem_singleton.mp hr ▸ hnamed

theorem method_ne_patch (h : Inquired script id rs) : ∀ r ∈ rs, r.method ≠ .patch := by
  obtain ⟨polls, hpolls⟩ := h.map_method
  intro r hr hpatch
  have hmem : r.method ∈ rs.map (·.method) := List.mem_map_of_mem hr
  rw [hpolls, hpatch] at hmem
  simp at hmem

end Inquired

namespace Lawful

variable {id : Option UInt64} {rs : List Request}

theorem map_method (h : Lawful script id rs) :
    ∃ polls, rs.map (·.method) <+: .post :: (List.replicate polls .get ++ [.patch]) := by
  cases h with
  | silent => exact ⟨0, List.nil_prefix⟩
  | applied hmethod => exact ⟨0, by simp [hmethod]⟩
  | inquired h =>
    obtain ⟨polls, hpolls⟩ := h.map_method
    exact ⟨polls, by rw [hpolls]; exact List.prefix_append _ _⟩
  | collected h _ hmethod _ =>
    obtain ⟨polls, hpolls⟩ := h.map_method
    refine ⟨polls, ?_⟩
    rw [List.map_append, hpolls, List.map_singleton, hmethod]
    exact List.prefix_rfl

theorem head {n : UInt64} (h : Lawful script (some n) rs) :
    (∃ r ∈ rs.head?, r.method = .post) ∧ ∃ step ∈ script.head?, step.Yields Client.decodeId n := by
  cases h with
  | inquired h => exact h.head
  | collected h =>
    obtain ⟨⟨r, hr, hpost⟩, hgrant⟩ := h.head
    exact ⟨⟨r, by rw [List.head?_append, hr]; rfl, hpost⟩, hgrant⟩

/-- Every request but the application is about the number of the ticket. -/
theorem named (h : Lawful script id rs) :
    ∀ r ∈ rs, r.method ≠ .post → ∃ n, id = some n ∧ r.url.NamesRequest n := by
  intro r hr hne
  cases h with
  | silent => contradiction
  | applied hmethod => exact absurd (List.mem_singleton.mp hr ▸ hmethod) hne
  | inquired h => exact ⟨_, rfl, h.named r hr hne⟩
  | collected h _ _ hnamed =>
    rcases List.mem_append.mp hr with hr | hr
    · exact ⟨_, rfl, h.named r hr hne⟩
    · exact ⟨_, rfl, List.mem_singleton.mp hr ▸ hnamed⟩

/-- A collection comes right after a question whose answer tells of the acceptance. -/
theorem told (h : Lawful script id rs) {i : Nat} {r : Request} (hr : rs[i]? = some r)
    (hpatch : r.method = .patch) : ToldLast script (rs.take i) .accepted := by
  cases h with
  | silent => contradiction
  | applied hmethod =>
    have hmem := List.mem_singleton.mp (List.mem_of_getElem? hr)
    rw [hmem, hmethod] at hpatch
    contradiction
  | inquired h => exact absurd hpatch (h.method_ne_patch r (List.mem_of_getElem? hr))
  | @collected _ rs _ h htold _ _ =>
    rcases Nat.lt_trichotomy i rs.length with hlt | rfl | hgt
    · rw [List.getElem?_append_left hlt] at hr
      exact absurd hpatch (h.method_ne_patch r (List.mem_of_getElem? hr))
    · rwa [List.take_left]
    · rw [List.getElem?_eq_none] at hr
      · contradiction
      · rwa [List.length_append, List.length_singleton, Nat.succ_le_iff]

end Lawful

namespace Session

/-- The requests, the answers and the ticket fit together. A number that was known before is still that
of the ticket. -/
structure Orderly (script : List ServerStep) (known : Option UInt64) (s : Session) : Prop where
  answered : s.world.script = script.drop s.world.requests.length
  lawful : Lawful script s.ticket.id s.world.requests
  unnumbered : s.ticket.stage = .created → s.ticket.id = none
  numbered : s.ticket.stage.IsServed → ∃ id, s.ticket.id = some id
  kept : ∀ id, known = some id → s.ticket.id = some id

/-- The history is far enough for the stage of the ticket, and no further. -/
def Ready (script : List ServerStep) (s : Session) : Prop :=
  match s.ticket.stage with
  | .created => s.world.requests = []
  | .pending => ∃ id, s.ticket.id = some id ∧ Inquired script id s.world.requests
  | .accepted => ∃ id, s.ticket.id = some id ∧ Inquired script id s.world.requests ∧
      ToldLast script s.world.requests .accepted
  | .denied | .fulfilled | .failed => True

/-- A session in which the next step may be made. -/
def Sound (script : List ServerStep) (known : Option UInt64) (s : Session) : Prop :=
  s.Orderly script known ∧ s.Ready script

/-- A session in which a step has stopped. When the step never ends, its request stays without an answer. -/
def Halted (script : List ServerStep) (known : Option UInt64) (e : Stop) (s : Session) : Prop :=
  s.Orderly script known ∧ (e ≠ .hung → s.Ready script)

variable {s : Session} {w : World}

theorem Orderly.of_idles (h : s.Orderly script known) (hw : s.world.Idles w) :
    Orderly script known ⟨s.ticket, w⟩ where
  answered := by
    rw [hw.requests, hw.script]
    exact h.answered
  lawful := by
    rw [hw.requests]
    exact h.lawful
  unnumbered := h.unnumbered
  numbered := h.numbered
  kept := h.kept

theorem Orderly.of_sends {c : Client} {method : Http.Method} {path : String} {r : Request}
    (h : s.Orderly script known) (hsent : s.Sends c method path r w)
    (hlawful : Lawful script s.ticket.id (s.world.requests ++ [r])) :
    Orderly script known ⟨s.ticket, w⟩ where
  answered := by
    rw [hsent.idle.script, hsent.requests_eq, List.length_append, List.length_singleton,
      ← List.tail_drop, ← h.answered]
    rfl
  lawful := by
    rw [hsent.requests_eq]
    exact hlawful
  unnumbered := h.unnumbered
  numbered := h.numbered
  kept := h.kept

theorem Ready.of_idles (h : s.Ready script) (hw : s.world.Idles w) : Ready script ⟨s.ticket, w⟩ := by
  unfold Ready at h ⊢
  rw [hw.requests]
  exact h

theorem Sound.of_idles (h : s.Sound script known) (hw : s.world.Idles w) :
    Sound script known ⟨s.ticket, w⟩ :=
  ⟨h.1.of_idles hw, h.2.of_idles hw⟩

theorem Sound.halted {e : Stop} (h : s.Sound script known) : s.Halted script known e :=
  ⟨h.1, fun _ => h.2⟩

theorem ready_of_isTerminal (h : s.ticket.stage.isTerminal = true) : s.Ready script := by
  unfold Ready
  cases hstage : s.ticket.stage <;> simp_all [Stage.isTerminal]

theorem Orderly.givenUp (h : s.Orderly script known) (e : RunError) :
    (s.givenUp e).Sound script known := by
  refine ⟨Orderly.of_idles (s := ⟨s.ticket.fail, s.world⟩) ?_ (World.idles_log _ _ _),
    ready_of_isTerminal s.ticket.isTerminal_stage_fail⟩
  have hid : s.ticket.fail.id = s.ticket.id := by
    unfold Ticket.fail
    split <;> rfl
  refine ⟨h.answered, by rw [hid]; exact h.lawful, ?_, ?_, by rw [hid]; exact h.kept⟩
  · intro hcreated
    have hterminal := s.ticket.isTerminal_stage_fail
    rw [hcreated] at hterminal
    contradiction
  · intro hserved
    rw [hid]
    apply h.numbered
    unfold Ticket.fail at hserved
    split at hserved
    · exact hserved
    · exact absurd rfl hserved.2

end Session

end KeyApproval
