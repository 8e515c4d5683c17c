import KeyApproval.Client.Call

/-!
# What an answer says

The three things that the server may say, told by status and body alone: it grants a number, it tells the
state of a request, or it hands over a secret. A call gives a result exactly when the answer says it.
-/

namespace KeyApproval

def Stage.IsServed (stage : Stage) : Prop := stage ≠ .created ∧ stage ≠ .failed

namespace Http.Response

/-- The body is JSON, and the last member of that name has this value. -/
def HasMember (r : Response) (name : String) (v : Json.Value) : Prop :=
  ∃ whole, Json.read r.body = .ok whole ∧ whole.member? name = some v

/-- A 201 whose member `id` is an integer of 64 bits. -/
def Grants (r : Response) (id : UInt64) : Prop :=
  r.status = 201 ∧ ∃ v, r.HasMember "id" v ∧ v.natural? = some id

/-- A 200 whose member `state` is the name of the stage. -/
def Tells (r : Response) (stage : Stage) : Prop :=
  r.status = 200 ∧ ∃ v, r.HasMember "state" v ∧ v.text? = some stage.text

/-- A 200 whose body is the secret in UTF-8, with at most one line feed after it. -/
def HandsOver (r : Response) (secret : String) : Prop :=
  r.status = 200 ∧ ∃ text, Text.Utf8.decode r.body = .ok text ∧
    (text = secret.toList ++ ['\n'] ∨ text = secret.toList ∧ text.getLast? ≠ some '\n')

end Http.Response

namespace Client

open Http

variable {α : Type} {r : Response}

theorem statusFault?_eq_none_iff {status : UInt16} :
    statusFault? r status = none ↔ r.status = status := by
  unfold statusFault?
  split
  next h => exact iff_of_true rfl h
  next h =>
    refine iff_of_false ?_ h
    split <;> exact Option.some_ne_none _

theorem decodeWith_eq_ok_iff {status : UInt16} {contentType : String}
    {body : Response → Except ClientError α} {a : α} :
    (decodeWith status contentType body r).result = .ok a ↔ r.status = status ∧ body r = .ok a := by
  rw [← statusFault?_eq_none_iff]
  unfold decodeWith
  cases statusFault? r status <;> simp

theorem readMember_bind_eq_ok_iff {name : String} {f : Json.Value → Except ClientError α} {a : α} :
    (do let v ← readMember name (← readJson r); f v) = .ok a ↔
      ∃ v, r.HasMember name v ∧ f v = .ok a := by
  unfold readJson Response.HasMember
  cases hread : Json.read r.body with
  | error e => simp [bind, Except.bind]
  | ok whole =>
    unfold readMember
    cases hmember : whole.member? name with
    | none => simp [bind, Except.bind, hmember]
    | some v => simp [bind, Except.bind, hmember]

theorem readId_eq_ok_iff {id : UInt64} :
    readId r = .ok id ↔ ∃ v, r.HasMember "id" v ∧ v.natural? = some id := by
  refine readMember_bind_eq_ok_iff.trans (exists_congr fun v => and_congr_right fun _ => ?_)
  cases v.natural? <;> simp [pure, Except.pure, throw, throwThe, MonadExceptOf.throw]

theorem ofServer?_eq_some_iff {text : String} {stage : Stage} :
    Stage.ofServer? text = some stage ↔ text = stage.text ∧ stage.IsServed := by
  constructor
  · intro h
    have hmem := List.mem_of_find?_eq_some h
    have htext := List.find?_some h
    refine ⟨(eq_of_beq htext).symm, ?_⟩
    rw [Stage.IsServed]
    revert hmem
    cases stage <;> simp
  · rintro ⟨rfl, hcreated, hfailed⟩
    cases stage
    · exact absurd rfl hcreated
    · rfl
    · rfl
    · rfl
    · rfl
    · exact absurd rfl hfailed

theorem readState_eq_ok_iff {stage : Stage} :
    readState r = .ok stage ↔
      (∃ v, r.HasMember "state" v ∧ v.text? = some stage.text) ∧ stage.IsServed := by
  rw [← exists_and_right]
  refine readMember_bind_eq_ok_iff.trans (exists_congr fun v => ?_)
  rw [and_assoc]
  refine and_congr_right fun _ => ?_
  cases htext : v.text? with
  | none => simp [throw, throwThe, MonadExceptOf.throw]
  | some text =>
    rw [Option.some.injEq, ← ofServer?_eq_some_iff]
    cases hstage : Stage.ofServer? text with
    | none => simp [hstage, throw, throwThe, MonadExceptOf.throw]
    | some told => simp [hstage, pure, Except.pure]

theorem dropLineFeed_eq_iff {text s : List Char} :
    dropLineFeed text = s ↔ text = s ++ ['\n'] ∨ text = s ∧ text.getLast? ≠ some '\n' := by
  unfold dropLineFeed
  split
  next h =>
    obtain ⟨front, rfl⟩ := List.getLast?_eq_some_iff.mp h
    simp
  next h =>
    constructor
    · rintro rfl
      exact .inr ⟨rfl, h⟩
    · rintro (rfl | ⟨rfl, -⟩)
      · simp at h
      · rfl

theorem readSecret_eq_ok_iff {secret : String} :
    readSecret r = .ok secret ↔ ∃ text, Text.Utf8.decode r.body = .ok text ∧
      (text = secret.toList ++ ['\n'] ∨ text = secret.toList ∧ text.getLast? ≠ some '\n') := by
  unfold readSecret Response.text
  cases hdecode : Text.Utf8.decode r.body with
  | error d => simp [Except.map]
  | ok text =>
    simp only [Except.map, Except.ok.injEq, String.toList_ofList, exists_eq_left',
      ← dropLineFeed_eq_iff]
    rw [← String.toList_inj, String.toList_ofList]

theorem decodeId_eq_ok_iff {id : UInt64} : (decodeId r).result = .ok id ↔ r.Grants id :=
  decodeWith_eq_ok_iff.trans (and_congr_right fun _ => readId_eq_ok_iff)

theorem decodeState_eq_ok_iff {stage : Stage} :
    (decodeState r).result = .ok stage ↔ r.Tells stage ∧ stage.IsServed := by
  apply decodeWith_eq_ok_iff.trans
  rw [readState_eq_ok_iff, ← and_assoc]
  rfl

theorem decodeSecret_eq_ok_iff {secret : String} :
    (decodeSecret r).result = .ok secret ↔ r.HandsOver secret :=
  decodeWith_eq_ok_iff.trans (and_congr_right fun _ => readSecret_eq_ok_iff)

/-! ### Faults -/

/-- Why what came back for a request is no answer that the request asks for. -/
inductive Faults (status : UInt16) (read : Response → Except ClientError α) :
    Except ClientError Response → ClientError → Prop where
  | transport (e : ClientError) : Faults status read (.error e) e
  | unauthorized {r : Response} (other : r.status ≠ status) (h : r.status = 401) :
      Faults status read (.ok r) (.authentication 401)
  | refused {r : Response} (other : r.status ≠ status) (h : r.status ≠ 401) :
      Faults status read (.ok r) (.unexpectedStatus r.status r.lossyText)
  | unreadable {r : Response} {e : ClientError} (expected : r.status = status)
      (h : read r = .error e) : Faults status read (.ok r) e

/-- What a call makes of what came back. -/
def consult (decode : Response → Decoded α) (reply : Except ClientError Response) :
    Except ClientError α :=
  reply.bind fun r => (decode r).result

theorem consult_eq_error_iff {status : UInt16} {contentType : String}
    {read : Response → Except ClientError α} {reply : Except ClientError Response}
    {e : ClientError} :
    consult (decodeWith status contentType read) reply = .error e ↔ Faults status read reply e := by
  constructor
  · intro h
    cases reply with
    | error f =>
      cases h
      exact .transport e
    | ok r =>
      have hresult : (decodeWith status contentType read r).result = .error e := h
      unfold decodeWith statusFault? at hresult
      by_cases hstatus : r.status = status
      · rw [if_pos hstatus] at hresult
        exact .unreadable hstatus hresult
      · rw [if_neg hstatus] at hresult
        by_cases h401 : r.status = 401
        · rw [if_pos h401] at hresult
          cases hresult
          exact .unauthorized hstatus h401
        · rw [if_neg h401] at hresult
          cases hresult
          exact .refused hstatus h401
  · intro h
    cases h with
    | transport => rfl
    | unauthorized hstatus h401 =>
      simp only [consult, Except.bind, decodeWith, statusFault?, if_neg hstatus, if_pos h401]
    | refused hstatus h401 =>
      simp only [consult, Except.bind, decodeWith, statusFault?, if_neg hstatus, if_neg h401]
    | unreadable hstatus hread =>
      simp only [consult, Except.bind, decodeWith, statusFault?, if_pos hstatus, hread]

theorem consult_eq_ok_iff {decode : Response → Decoded α} {reply : Except ClientError Response}
    {b : α} : consult decode reply = .ok b ↔ ∃ r, reply = .ok r ∧ (decode r).result = .ok b := by
  cases reply with
  | error e => simp [consult, Except.bind]
  | ok r => simp [consult, Except.bind]

/-! ### Calls that are answered -/

/-- The request is built and sent, and `r` comes back for it. -/
def Hears (c : Client) (method : Method) (path : String) (body : Option String) (w : World)
    (r : Response) : Prop :=
  ∃ request, c.prepare method path body w.readClock.1 = .ok request ∧
    (w.readClock.2.send request).1 = .value (.ok r)

theorem call_of_hears {c : Client} {method : Method} {path : String} {body : Option String} {w : World}
    (h : c.Hears method path body w r) (decode : Response → Decoded α) :
    (c.call method path body decode w).1 = .value (decode r).result := by
  obtain ⟨request, hprepare, hsend⟩ := h
  unfold call
  simp only [hprepare]
  rcases hsent : w.readClock.2.send request with ⟨arrival, w'⟩
  rw [hsent] at hsend
  subst hsend
  rfl

end Client

end KeyApproval
