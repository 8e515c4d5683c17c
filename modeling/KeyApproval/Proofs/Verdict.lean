import KeyApproval.Proofs.Answers
import KeyApproval.Proofs.BaseUrl
import KeyApproval.Proofs.Steps
import KeyApproval.Proofs.Traffic

/-!
# The verdict of an undisturbed run

A server that answers at once and a token that never fires leave nothing to chance: the answers alone say
how a run ends. They begin with a grant and some answers that tell of a pending request; the first answer
that is none of these decides, unless the limit of the polls comes before it.
-/

namespace KeyApproval

open Http Step

/-! ### Answers in a row -/

/-- The answers that come back one after the other. -/
abbrev Replies := Nat → Except ClientError Response

/-- The answers of a list, and after them the same error for ever. -/
def Replies.ofList (answers : List (Except ClientError Response)) (lapse : ClientError) : Replies :=
  fun i => answers.getD i (.error lapse)

namespace Replies

/-- The answer at that place is a response of that kind. -/
def Says (replies : Replies) (i : Nat) (kind : Response → Prop) : Prop :=
  ∃ r, replies i = .ok r ∧ kind r

/-- The first answer grants the number, and the next ones tell that the request is pending. -/
structure Begin (replies : Replies) (id : UInt64) (polls : Nat) : Prop where
  granted : replies.Says 0 fun r => r.Grants id
  pending : ∀ i < polls, replies.Says (i + 1) fun r => r.Tells .pending

/-- How a run ends that polled so many times in vain and may poll once more, and after how many
requests. -/
inductive Decide (replies : Replies) (id : UInt64) (polls : Nat) :
    Except RunError String → Nat → Prop where
  | fulfilled {secret : String} (told : replies.Says (polls + 1) fun r => r.Tells .accepted)
      (handed : replies.Says (polls + 2) fun r => r.HandsOver secret) :
      Decide replies id polls (.ok secret) (polls + 3)
  | denied (told : replies.Says (polls + 1) fun r => r.Tells .denied) :
      Decide replies id polls (.error (.denied id)) (polls + 2)
  | unexpected (told : replies.Says (polls + 1) fun r => r.Tells .fulfilled) :
      Decide replies id polls (.error (.unexpectedState id .fulfilled)) (polls + 2)
  | unpolled {e : ClientError} (fault : Client.Faults 200 Client.readState (replies (polls + 1)) e) :
      Decide replies id polls (.error (.client e)) (polls + 2)
  | uncollected {e : ClientError} (told : replies.Says (polls + 1) fun r => r.Tells .accepted)
      (fault : Client.Faults 200 Client.readSecret (replies (polls + 2)) e) :
      Decide replies id polls (.error (.client e)) (polls + 3)

end Replies

def Polling.Permits (p : Polling) (polls : Nat) : Prop :=
  ∀ limit, p.maxAttempts = some limit → polls ≤ limit.toNat

/-- What the answers say about a run: how it ends, and after how many requests. -/
inductive Verdict (p : Polling) (replies : Replies) : Except RunError String → Nat → Prop where
  | ungranted {e : ClientError} (fault : Client.Faults 201 Client.readId (replies 0) e) :
      Verdict p replies (.error (.client e)) 1
  | exceeded {id : UInt64} {limit : UInt32} (start : replies.Begin id limit.toNat)
      (limited : p.maxAttempts = some limit) :
      Verdict p replies (.error (.pollLimitExceeded id limit)) (limit.toNat + 1)
  | decided {id : UInt64} {polls n : Nat} {result : Except RunError String}
      (start : replies.Begin id polls) (permitted : p.Permits (polls + 1))
      (decision : replies.Decide id polls result n) : Verdict p replies result n

/-! ### No answers have two verdicts -/

namespace Replies

open Client

variable {replies : Replies} {i polls polls' : Nat} {id id' : UInt64}

theorem says_grants_iff : replies.Says i (·.Grants id) ↔ consult decodeId (replies i) = .ok id := by
  rw [consult_eq_ok_iff]
  exact exists_congr fun r => and_congr_right fun _ => decodeId_eq_ok_iff.symm

theorem consult_of_told {stage : Stage} (told : replies.Says i (·.Tells stage)) (h : stage.IsServed) :
    consult decodeState (replies i) = .ok stage := by
  obtain ⟨r, hr, htold⟩ := told
  exact consult_eq_ok_iff.mpr ⟨r, hr, decodeState_eq_ok_iff.mpr ⟨htold, h⟩⟩

theorem says_of_consult {stage : Stage} (h : consult decodeState (replies i) = .ok stage) :
    replies.Says i (·.Tells stage) := by
  obtain ⟨r, hr, htold⟩ := consult_eq_ok_iff.mp h
  exact ⟨r, hr, (decodeState_eq_ok_iff.mp htold).1⟩

theorem says_handsOver_iff {secret : String} :
    replies.Says i (·.HandsOver secret) ↔ consult decodeSecret (replies i) = .ok secret := by
  rw [consult_eq_ok_iff]
  exact exists_congr fun r => and_congr_right fun _ => decodeSecret_eq_ok_iff.symm

theorem isServed_of_consult {stage : Stage} (h : consult decodeState (replies i) = .ok stage) :
    stage.IsServed := by
  obtain ⟨r, -, hr⟩ := consult_eq_ok_iff.mp h
  exact (decodeState_eq_ok_iff.mp hr).2

/-- The decision is read from two answers. -/
def decision (id : UInt64) (polls : Nat) (told : Except ClientError Stage)
    (collected : Except ClientError String) : Except RunError String × Nat :=
  match told with
  | .error e => (.error (.client e), polls + 2)
  | .ok .accepted => (collected.mapError .client, polls + 3)
  | .ok .denied => (.error (.denied id), polls + 2)
  | .ok stage => (.error (.unexpectedState id stage), polls + 2)

theorem Decide.eq_decision {result : Except RunError String} {n : Nat}
    (h : replies.Decide id polls result n) :
    (result, n) = decision id polls (consult decodeState (replies (polls + 1)))
      (consult decodeSecret (replies (polls + 2))) := by
  cases h with
  | fulfilled told handed =>
    rw [consult_of_told told ⟨nofun, nofun⟩, says_handsOver_iff.mp handed]
    rfl
  | denied told =>
    rw [consult_of_told told ⟨nofun, nofun⟩]
    rfl
  | unexpected told =>
    rw [consult_of_told told ⟨nofun, nofun⟩]
    rfl
  | unpolled fault =>
    rw [decodeState, consult_eq_error_iff.mpr fault]
    rfl
  | uncollected told fault =>
    rw [consult_of_told told ⟨nofun, nofun⟩, decodeSecret, consult_eq_error_iff.mpr fault]
    rfl

/-- An answer that decides tells of no pending request. -/
theorem Decide.not_pending {result : Except RunError String} {n : Nat}
    (h : replies.Decide id polls result n) : ¬replies.Says (polls + 1) (·.Tells .pending) := by
  have hserved {stage : Stage} (told : replies.Says (polls + 1) (·.Tells stage)) (hne : stage.IsServed)
      (hstage : stage ≠ .pending) : ¬replies.Says (polls + 1) (·.Tells .pending) := by
    intro hpending
    have htold := consult_of_told told hne
    rw [consult_of_told hpending ⟨nofun, nofun⟩] at htold
    exact hstage (Except.ok.inj htold).symm
  cases h with
  | fulfilled told => exact hserved told ⟨nofun, nofun⟩ nofun
  | denied told => exact hserved told ⟨nofun, nofun⟩ nofun
  | unexpected told => exact hserved told ⟨nofun, nofun⟩ nofun
  | unpolled fault =>
    intro hpending
    have htold := consult_of_told hpending ⟨nofun, nofun⟩
    rw [decodeState, consult_eq_error_iff.mpr fault] at htold
    contradiction
  | uncollected told => exact hserved told ⟨nofun, nofun⟩ nofun

theorem Begin.id_unique (h : replies.Begin id polls) (h' : replies.Begin id' polls') : id = id' := by
  have hid := says_grants_iff.mp h.granted
  rw [says_grants_iff.mp h'.granted] at hid
  exact (Except.ok.inj hid).symm

theorem Begin.lt_length {answers : List (Except ClientError Response)} {lapse : ClientError}
    (h : (ofList answers lapse).Begin id polls) : polls < answers.length := by
  by_contra hle
  have hlapse : ofList answers lapse polls = .error lapse := by
    rw [ofList, List.getD_eq_getElem?_getD, List.getElem?_eq_none (by omega)]
    rfl
  have hspoken : ∃ kind, (ofList answers lapse).Says polls kind := by
    cases polls with
    | zero => exact ⟨_, h.granted⟩
    | succ i => exact ⟨_, h.pending i (Nat.lt_succ_self i)⟩
  obtain ⟨kind, r, hr, -⟩ := hspoken
  rw [hlapse] at hr
  contradiction

/-- Where an answer decides, no more polls were in vain. -/
theorem Begin.le_of_decide {result : Except RunError String} {n : Nat}
    (h : replies.Begin id polls) (hdecide : replies.Decide id' polls' result n) : polls ≤ polls' := by
  by_contra hlt
  exact hdecide.not_pending (h.pending polls' (by omega))

end Replies

theorem Verdict.unique {p : Polling} {replies : Replies} {result result' : Except RunError String}
    {n n' : Nat} (h : Verdict p replies result n) (h' : Verdict p replies result' n') :
    result = result' ∧ n = n' := by
  have hungranted {e : ClientError} {id : UInt64} {polls : Nat}
      (fault : Client.Faults 201 Client.readId (replies 0) e) (start : replies.Begin id polls) :
      False := by
    have hgranted := Replies.says_grants_iff.mp start.granted
    rw [Client.decodeId, Client.consult_eq_error_iff.mpr fault] at hgranted
    contradiction
  have hexceeded {id id' : UInt64} {limit : UInt32} {polls n : Nat} {result : Except RunError String}
      (start : replies.Begin id limit.toNat) (limited : p.maxAttempts = some limit)
      (permitted : p.Permits (polls + 1)) (decision : replies.Decide id' polls result n) : False := by
    have hle := start.le_of_decide decision
    have hpermitted := permitted limit limited
    omega
  cases h with
  | ungranted fault =>
    cases h' with
    | ungranted fault' =>
      have hfault : Client.consult Client.decodeId (replies 0) = .error _ :=
        Client.consult_eq_error_iff.mpr fault
      rw [Client.decodeId, Client.consult_eq_error_iff.mpr fault'] at hfault
      cases hfault
      exact ⟨rfl, rfl⟩
    | exceeded start => exact (hungranted fault start).elim
    | decided start => exact (hungranted fault start).elim
  | exceeded start limited =>
    cases h' with
    | ungranted fault => exact (hungranted fault start).elim
    | exceeded start' limited' =>
      cases start.id_unique start'
      cases limited.symm.trans limited'
      exact ⟨rfl, rfl⟩
    | decided start' permitted decision => exact (hexceeded start limited permitted decision).elim
  | decided start permitted decision =>
    cases h' with
    | ungranted fault => exact (hungranted fault start).elim
    | exceeded start' limited => exact (hexceeded start' limited permitted decision).elim
    | decided start' permitted' decision' =>
      cases start.id_unique start'
      cases Nat.le_antisymm (start.le_of_decide decision') (start'.le_of_decide decision)
      exact Prod.mk.inj (decision.eq_decision.trans decision'.eq_decision.symm)

namespace Verdict

variable {p : Polling} {replies : Replies} {id : UInt64}

theorem exists_ok_iff {secret : String} :
    (∃ n, Verdict p replies (.ok secret) n) ↔
      ∃ id polls, replies.Begin id polls ∧ p.Permits (polls + 1) ∧
        replies.Says (polls + 1) (·.Tells .accepted) ∧
        replies.Says (polls + 2) (·.HandsOver secret) := by
  constructor
  · rintro ⟨n, h⟩
    cases h with
    | decided start permitted decision =>
      cases decision with
      | fulfilled told handed => exact ⟨_, _, start, permitted, told, handed⟩
  · rintro ⟨id, polls, start, permitted, told, handed⟩
    exact ⟨_, .decided start permitted (.fulfilled told handed)⟩

theorem exists_denied_iff :
    (∃ n, Verdict p replies (.error (.denied id)) n) ↔
      ∃ polls, replies.Begin id polls ∧ p.Permits (polls + 1) ∧
        replies.Says (polls + 1) (·.Tells .denied) := by
  constructor
  · rintro ⟨n, h⟩
    cases h with
    | decided start permitted decision =>
      cases decision with
      | denied told => exact ⟨_, start, permitted, told⟩
  · rintro ⟨polls, start, permitted, told⟩
    exact ⟨_, .decided start permitted (.denied told)⟩

theorem exists_limit_iff {limit : UInt32} :
    (∃ n, Verdict p replies (.error (.pollLimitExceeded id limit)) n) ↔
      p.maxAttempts = some limit ∧ replies.Begin id limit.toNat := by
  constructor
  · rintro ⟨n, h⟩
    cases h with
    | exceeded start limited => exact ⟨limited, start⟩
    | decided _ _ decision => cases decision
  · rintro ⟨limited, start⟩
    exact ⟨_, .exceeded start limited⟩

end Verdict

end KeyApproval
