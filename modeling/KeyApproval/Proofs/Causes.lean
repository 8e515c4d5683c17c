import KeyApproval.Client.Transmission
import KeyApproval.Proofs.Authorization
import KeyApproval.Proofs.Conclusion
import KeyApproval.Proofs.Exchanges

/-!
# Why a run ends with its error

On a network everything that goes wrong has one cause. A request is barred, its reply is lost, the credentials
are refused, or the answer strays from the protocol; else the answers were all in order, and the decision, the
limit of the polls or the token ends the run. Which of these it was can be told from the last reply.
-/

namespace KeyApproval

open Http Step

variable {α : Type}

/-! ### Answers in order and astray -/

/-- The status of the answer that a method asks for. -/
def Http.Method.goodStatus : Method → UInt16
  | .post => 201
  | .get | .patch => 200

/-- The member of the answer that a method asks for, if that is JSON. -/
def Http.Method.member? : Method → Option String
  | .post => some "id"
  | .get => some "state"
  | .patch => none

theorem Http.Method.goodStatus_ne_unauthorized (method : Method) : method.goodStatus ≠ 401 := by
  cases method <;> decide

namespace Http.Response

/-- The answer says what a request of that method asks for. To be told of a fulfilment nobody asks. -/
def Obeys (r : Response) : Method → Prop
  | .post => ∃ id, r.Grants id
  | .get => r.Tells .pending ∨ r.Tells .accepted ∨ r.Tells .denied
  | .patch => ∃ secret, r.HandsOver secret

/-- The ways in which an answer leaves the protocol. A refusal of the credentials does not. -/
inductive Strays (r : Response) : Method → Prop where
  | refused {method : Method} (other : r.status ≠ method.goodStatus) (known : r.status ≠ 401) :
      Strays r method
  | garbled {method : Method} {name : String} {e : Json.Error} (good : r.status = method.goodStatus)
      (asked : method.member? = some name) (h : Json.read r.body = .error e) : Strays r method
  | memberless {method : Method} {name : String} {whole : Json.Value} (good : r.status = method.goodStatus)
      (asked : method.member? = some name) (h : Json.read r.body = .ok whole)
      (missing : whole.member? name = none) : Strays r method
  | numberless {v : Json.Value} (good : r.status = 201) (h : r.HasMember "id" v)
      (mistyped : v.natural? = none) : Strays r .post
  | textless {v : Json.Value} (good : r.status = 200) (h : r.HasMember "state" v)
      (mistyped : v.text? = none) : Strays r .get
  | unknown {v : Json.Value} {text : String} (good : r.status = 200) (h : r.HasMember "state" v)
      (told : v.text? = some text) (unknown : ∀ stage : Stage, stage.IsServed → text ≠ stage.text) : Strays r .get
  | fulfilled (h : r.Tells .fulfilled) : Strays r .get
  | undecodable {d : Text.Utf8.Damage} (good : r.status = 200) (h : Text.Utf8.decode r.body = .error d) :
      Strays r .patch

variable {r : Response} {method : Method} {name : String} {v v' : Json.Value}

theorem HasMember.unique (h : r.HasMember name v) (h' : r.HasMember name v') : v = v' := by
  obtain ⟨whole, hwhole, hv⟩ := h
  obtain ⟨whole', hwhole', hv'⟩ := h'
  obtain rfl : whole = whole' := Except.ok.inj (hwhole.symm.trans hwhole')
  exact Option.some.inj (hv.symm.trans hv')

theorem Obeys.status_eq (h : r.Obeys method) : r.status = method.goodStatus := by
  cases method with
  | get => exact h.elim And.left (·.elim And.left And.left)
  | post => exact h.elim fun _ hid => hid.1
  | patch => exact h.elim fun _ hsecret => hsecret.1

theorem Obeys.hasMember (h : r.Obeys method) (hname : method.member? = some name) :
    ∃ v, r.HasMember name v := by
  cases method with
  | get =>
    cases hname
    rcases h with ⟨-, v, hv, -⟩ | ⟨-, v, hv, -⟩ | ⟨-, v, hv, -⟩ <;> exact ⟨v, hv⟩
  | post =>
    cases hname
    obtain ⟨_, -, v, hv, -⟩ := h
    exact ⟨v, hv⟩
  | patch => cases hname

/-- The text of the state in an answer to a question. -/
theorem Obeys.text?_eq (h : r.Obeys .get) (hv : r.HasMember "state" v) :
    ∃ stage : Stage, v.text? = some stage.text ∧ stage.IsServed ∧ stage ≠ .fulfilled := by
  rcases h with ⟨-, _, hv', htext⟩ | ⟨-, _, hv', htext⟩ | ⟨-, _, hv', htext⟩ <;>
    rw [hv'.unique hv] at htext
  · exact ⟨.pending, htext, ⟨nofun, nofun⟩, nofun⟩
  · exact ⟨.accepted, htext, ⟨nofun, nofun⟩, nofun⟩
  · exact ⟨.denied, htext, ⟨nofun, nofun⟩, nofun⟩

theorem Strays.status_ne (h : r.Strays method) : r.status ≠ 401 := by
  have hgood (method : Method) (h : r.status = method.goodStatus) : r.status ≠ 401 :=
    h ▸ method.goodStatus_ne_unauthorized
  cases h with
  | refused _ hknown => exact hknown
  | garbled hstatus => exact hgood _ hstatus
  | memberless hstatus => exact hgood _ hstatus
  | numberless hstatus => exact hgood .post hstatus
  | textless hstatus => exact hgood .get hstatus
  | unknown hstatus => exact hgood .get hstatus
  | fulfilled htold => exact hgood .get htold.1
  | undecodable hstatus => exact hgood .patch hstatus

theorem Strays.not_obeys (h : r.Strays method) : ¬r.Obeys method := by
  intro hobeys
  cases h with
  | refused hother => exact hother hobeys.status_eq
  | garbled _ hname hgarbled =>
    obtain ⟨v, whole, hwhole, -⟩ := hobeys.hasMember hname
    exact nomatch hgarbled.symm.trans hwhole
  | memberless _ hname hread hmissing =>
    obtain ⟨v, whole, hwhole, hv⟩ := hobeys.hasMember hname
    obtain rfl := Except.ok.inj (hread.symm.trans hwhole)
    exact nomatch hmissing.symm.trans hv
  | numberless _ hv hmistyped =>
    obtain ⟨id, -, v', hv', hid⟩ := hobeys
    rw [hv'.unique hv, hmistyped] at hid
    exact nomatch hid
  | textless _ hv hmistyped =>
    obtain ⟨stage, htext, -⟩ := hobeys.text?_eq hv
    exact nomatch hmistyped.symm.trans htext
  | unknown _ hv htold hunknown =>
    obtain ⟨stage, htext, hserved, -⟩ := hobeys.text?_eq hv
    exact hunknown stage hserved (Option.some.inj (htold.symm.trans htext))
  | fulfilled htold =>
    obtain ⟨-, v, hv, htext⟩ := htold
    obtain ⟨stage, htext', -, hstage⟩ := hobeys.text?_eq hv
    have hsame := Option.some.inj (htext.symm.trans htext')
    cases stage <;> first | exact hstage rfl | exact absurd hsame (by decide)
  | undecodable _ hdamage =>
    obtain ⟨secret, -, text, htext, -⟩ := hobeys
    exact nomatch hdamage.symm.trans htext

theorem exists_member_or_strays (hname : method.member? = some name)
    (hstatus : r.status = method.goodStatus) : (∃ v, r.HasMember name v) ∨ r.Strays method := by
  cases hread : Json.read r.body with
  | error e => exact .inr (.garbled hstatus hname hread)
  | ok whole =>
    cases hv : whole.member? name with
    | none => exact .inr (.memberless hstatus hname hread hv)
    | some v => exact .inl ⟨v, whole, hread, hv⟩

/-- An answer of a good status says what was asked for, or it leaves the protocol in one of the ways. -/
theorem obeys_or_strays (hstatus : r.status = method.goodStatus) : r.Obeys method ∨ r.Strays method := by
  cases method with
  | get =>
    refine (exists_member_or_strays rfl hstatus).elim (fun ⟨v, hv⟩ => ?_) .inr
    cases htext : v.text? with
    | none => exact .inr (.textless hstatus hv htext)
    | some text =>
      cases hserved : Stage.ofServer? text with
      | none =>
        refine .inr (.unknown hstatus hv htext fun stage hstage hsame => ?_)
        exact nomatch hserved.symm.trans (Client.ofServer?_eq_some_iff.mpr ⟨hsame, hstage⟩)
      | some stage =>
        obtain ⟨rfl, hcreated, hfailed⟩ := Client.ofServer?_eq_some_iff.mp hserved
        have htells : r.Tells stage := ⟨hstatus, v, hv, htext⟩
        cases stage with
        | created => exact absurd rfl hcreated
        | pending => exact .inl (.inl htells)
        | accepted => exact .inl (.inr (.inl htells))
        | denied => exact .inl (.inr (.inr htells))
        | fulfilled => exact .inr (.fulfilled htells)
        | failed => exact absurd rfl hfailed
  | post =>
    refine (exists_member_or_strays rfl hstatus).elim (fun ⟨v, hv⟩ => ?_) .inr
    cases hid : v.natural? with
    | none => exact .inr (.numberless hstatus hv hid)
    | some id => exact .inl ⟨id, hstatus, v, hv, hid⟩
  | patch =>
    cases hdecode : Text.Utf8.decode r.body with
    | error d => exact .inr (.undecodable hstatus hdecode)
    | ok text =>
      refine .inl ⟨String.ofList (Client.dropLineFeed text), hstatus, text, hdecode, ?_⟩
      rw [String.toList_ofList]
      exact Client.dropLineFeed_eq_iff.mp rfl

/-- The ways to leave the protocol are all there are. -/
theorem strays_iff : r.Strays method ↔ r.status ≠ 401 ∧ ¬r.Obeys method := by
  refine ⟨fun h => ⟨h.status_ne, h.not_obeys⟩, fun ⟨hknown, hobeys⟩ => ?_⟩
  by_cases hstatus : r.status = method.goodStatus
  · exact (obeys_or_strays hstatus).resolve_left hobeys
  · exact .refused hstatus hknown

end Http.Response

/-! ### Causes of failed calls -/

namespace Client

/-- What goes wrong with this is told as an error of the protocol. -/
def Blames (x : Except ClientError α) : Prop := ∀ e, x = .error e → e.isProtocol = true

theorem Blames.bind {β : Type} {x : Except ClientError α} {f : α → Except ClientError β} (hx : Blames x)
    (hf : ∀ a, Blames (f a)) : Blames (x >>= f) := by
  cases x with
  | error e =>
    rintro _ ⟨⟩
    exact hx e rfl
  | ok a => exact hf a

theorem blames_readMember_bind {name : String} {r : Response} {f : Json.Value → Except ClientError α}
    (hf : ∀ v, Blames (f v)) : Blames (do let v ← readMember name (← readJson r); f v) := by
  refine .bind ?_ fun whole => .bind ?_ hf
  · unfold readJson
    cases Json.read r.body with
    | ok v => exact nofun
    | error e =>
      rintro _ ⟨⟩
      rfl
  · unfold readMember
    cases whole.member? name with
    | some m => exact nofun
    | none =>
      rintro _ ⟨⟩
      rfl

theorem blames_readId (r : Response) : Blames (readId r) := by
  refine blames_readMember_bind fun v => ?_
  cases v.natural? with
  | some n => exact nofun
  | none =>
    rintro _ ⟨⟩
    rfl

theorem blames_readState (r : Response) : Blames (readState r) := by
  refine blames_readMember_bind fun v => ?_
  cases v.text? with
  | none =>
    rintro _ ⟨⟩
    rfl
  | some text =>
    dsimp only
    cases Stage.ofServer? text with
    | some stage => exact nofun
    | none =>
      rintro _ ⟨⟩
      rfl

theorem blames_readSecret (r : Response) : Blames (readSecret r) := by
  unfold readSecret
  cases r.text with
  | ok text => exact nofun
  | error d =>
    rintro _ ⟨⟩
    rfl

/-- An answer that does not do is a refusal of the credentials or blamed on the protocol. -/
theorem Faults.unauthorized_or_isProtocol {status : UInt16} {read : Response → Except ClientError α}
    {r : Response} {e : ClientError} (h : Faults status read (.ok r) e) (hstatus : status ≠ 401)
    (hread : ∀ r, Blames (read r)) :
    r.status = 401 ∧ e = .authentication 401 ∨ r.status ≠ 401 ∧ e.isProtocol = true := by
  cases h with
  | unauthorized _ hunauthorized => exact .inl ⟨hunauthorized, rfl⟩
  | refused _ hknown => exact .inr ⟨hknown, rfl⟩
  | unreadable hexpected herror => exact .inr ⟨hexpected ▸ hstatus, hread r e herror⟩

end Client

/-- The transport is that of the program, and everything that comes to nothing on the way is a failure of the
network. -/
structure World.Networked (w : World) : Prop where
  check : w.transport.check = Request.check
  exhausted : ∃ status, w.transport.exhausted = .network status
  failures : ∀ step ∈ w.script, ∀ e, step.reply = some (.error e) → ∃ status, e = .network status

theorem Client.Bars.exists_invalidRequest {c : Client} {t : Transport} {method : Method} {path : String}
    {body : Option String} {e : ClientError} (h : c.Bars t method path body e) (ht : t.check = Request.check) :
    ∃ reason, e = .invalidRequest reason := by
  obtain ⟨now, herror | ⟨r, -, herror⟩⟩ := h
  · rw [prepare_eq] at herror
    cases hjoin : c.baseUrl.join path with
    | error f =>
      rw [hjoin] at herror
      cases herror
      exact ⟨_, rfl⟩
    | ok url =>
      rw [hjoin] at herror
      cases herror
  · rw [ht, Request.check] at herror
    split at herror
    · cases herror
      exact ⟨_, rfl⟩
    · cases herror

/-! ### The last reply -/

namespace World

variable {w : World} {rs : List Request}

/-- The reply to a request in its place. -/
def replyAt (w : World) (n : Nat) : Option (Except ClientError Response) :=
  match w.script[n]? with
  | some step => step.reply
  | none => some (.error w.transport.exhausted)

/-- The reply to the last of the requests is of that kind. -/
def LastReply (w : World) (rs : List Request) (kind : Method → Except ClientError Response → Prop) : Prop :=
  ∃ earlier r reply, rs = earlier ++ [r] ∧ w.replyAt earlier.length = some reply ∧ kind r.method reply

/-- The reply to the last of the requests is an answer of that kind. -/
def LastAnswer (w : World) (rs : List Request) (kind : Method → Response → Prop) : Prop :=
  w.LastReply rs fun method reply => ∃ answer, reply = .ok answer ∧ kind method answer

/-- Nothing was asked for in vain. -/
def Satisfied (w : World) (rs : List Request) : Prop :=
  rs = [] ∨ w.LastAnswer rs fun method answer => answer.Obeys method

theorem LastReply.clash {kind kind' : Method → Except ClientError Response → Prop}
    (h : w.LastReply rs kind) (h' : w.LastReply rs kind') :
    ∃ method reply, kind method reply ∧ kind' method reply := by
  obtain ⟨earlier, r, reply, rfl, hreply, hkind⟩ := h
  obtain ⟨earlier', r', reply', hsame, hreply', hkind'⟩ := h'
  obtain ⟨rfl, hr⟩ := List.append_inj' hsame rfl
  obtain rfl := List.singleton_inj.mp hr
  obtain rfl := Option.some.inj (hreply.symm.trans hreply')
  exact ⟨_, _, hkind, hkind'⟩

theorem LastAnswer.clash {kind kind' : Method → Response → Prop} (h : w.LastAnswer rs kind)
    (h' : w.LastAnswer rs kind') : ∃ method answer, kind method answer ∧ kind' method answer := by
  obtain ⟨method, _, ⟨answer, rfl, hkind⟩, answer', hsame, hkind'⟩ := LastReply.clash h h'
  obtain rfl := Except.ok.inj hsame
  exact ⟨method, _, hkind, hkind'⟩

theorem LastReply.not_lastAnswer {kind : Method → Response → Prop} {e : ClientError}
    (h : w.LastReply rs fun _ reply => reply = .error e) : ¬w.LastAnswer rs kind := by
  intro hlast
  obtain ⟨_, _, rfl, answer, hanswer, -⟩ := LastReply.clash h hlast
  cases hanswer

/-- After a satisfying answer nothing can be wrong with the last one. -/
theorem Satisfied.not_lastAnswer {kind : Method → Response → Prop} (h : w.Satisfied rs)
    (hkind : ∀ method answer, answer.Obeys method → ¬kind method answer) : ¬w.LastAnswer rs kind := by
  intro hlast
  rcases h with rfl | hobeys
  · obtain ⟨earlier, r, _, hnil, -⟩ := hlast
    exact List.append_ne_nil_of_right_ne_nil earlier (List.cons_ne_nil r []) hnil.symm
  · obtain ⟨method, answer, hanswer, hother⟩ := hobeys.clash hlast
    exact hkind method answer hanswer hother

theorem Networked.network_of_replyAt {n : Nat} {e : ClientError} (h : w.Networked)
    (hreply : w.replyAt n = some (.error e)) : ∃ status, e = .network status := by
  unfold replyAt at hreply
  split at hreply
  next step hstep => exact h.failures step (List.mem_of_getElem? hstep) e hreply
  next =>
    cases hreply
    exact h.exhausted

end World

/-! ### Fates -/

/-- Why what sent these requests ends with an error. -/
inductive Fate (w : World) (rs : List Request) : RunError → Prop where
  | cancelled : Fate w rs .cancelled
  | denied (h : w.Satisfied rs) (id : UInt64) : Fate w rs (.denied id)
  | exceeded (h : w.Satisfied rs) (id : UInt64) (attempts : UInt32) :
      Fate w rs (.pollLimitExceeded id attempts)
  | barred (h : w.Satisfied rs) (reason : String) : Fate w rs (.client (.invalidRequest reason))
  | lost {status : Option UInt16} (h : w.LastReply rs fun _ reply => reply = .error (.network status)) :
      Fate w rs (.client (.network status))
  | unauthorized (h : w.LastAnswer rs fun _ answer => answer.status = 401) :
      Fate w rs (.client (.authentication 401))
  | strayed {e : ClientError} (h : w.LastAnswer rs fun method answer => answer.Strays method)
      (blamed : e.isProtocol = true) : Fate w rs (.client e)
  | unexpected (h : w.LastAnswer rs fun method answer => answer.Strays method) (id : UInt64) :
      Fate w rs (.unexpectedState id .fulfilled)

theorem RunError.category_of_isProtocol {e : ClientError} (h : e.isProtocol = true) :
    (RunError.client e).category = .protocol := by
  cases e <;> first | rfl | cases h

namespace Fate

variable {w : World} {rs : List Request} {e : RunError}

/-- The credentials are to blame exactly when the last answer said so in time. -/
theorem authentication_iff (h : Fate w rs e) : e.category = .authentication ↔
    e ≠ .cancelled ∧ w.LastAnswer rs fun _ answer => answer.status = 401 := by
  have hsatisfied (hs : w.Satisfied rs) : ¬w.LastAnswer rs fun _ answer => answer.status = 401 :=
    hs.not_lastAnswer fun method _ hobeys h401 =>
      method.goodStatus_ne_unauthorized (hobeys.status_eq.symm.trans h401)
  have hstrays (hs : w.LastAnswer rs fun method answer => answer.Strays method) :
      ¬w.LastAnswer rs fun _ answer => answer.status = 401 := by
    intro hlast
    obtain ⟨method, answer, hstrays, h401⟩ := hs.clash hlast
    exact hstrays.status_ne h401
  cases h with
  | cancelled => exact iff_of_false nofun fun h => h.1 rfl
  | denied hs | exceeded hs | barred hs => exact iff_of_false nofun fun h => hsatisfied hs h.2
  | lost hlost => exact iff_of_false nofun fun h => hlost.not_lastAnswer h.2
  | unauthorized hlast => exact iff_of_true rfl ⟨nofun, hlast⟩
  | strayed hlast hblamed =>
    rw [RunError.category_of_isProtocol hblamed]
    exact iff_of_false nofun fun h => hstrays hlast h.2
  | unexpected hlast => exact iff_of_false nofun fun h => hstrays hlast h.2

/-- The protocol was left exactly when the last answer left it in time. -/
theorem protocol_iff (h : Fate w rs e) : e.category = .protocol ↔
    e ≠ .cancelled ∧ w.LastAnswer rs fun method answer => answer.Strays method := by
  have hsatisfied (hs : w.Satisfied rs) : ¬w.LastAnswer rs fun method answer => answer.Strays method :=
    hs.not_lastAnswer fun _ _ hobeys hstrays => hstrays.not_obeys hobeys
  cases h with
  | cancelled => exact iff_of_false nofun fun h => h.1 rfl
  | denied hs | exceeded hs | barred hs => exact iff_of_false nofun fun h => hsatisfied hs h.2
  | lost hlost => exact iff_of_false nofun fun h => hlost.not_lastAnswer h.2
  | unauthorized hlast =>
    refine iff_of_false nofun fun h => ?_
    obtain ⟨method, answer, h401, hstrays⟩ := hlast.clash h.2
    exact hstrays.status_ne h401
  | strayed hlast hblamed =>
    refine iff_of_true (RunError.category_of_isProtocol hblamed) ⟨?_, hlast⟩
    exact nofun
  | unexpected hlast => exact iff_of_true rfl ⟨nofun, hlast⟩

/-- A request that could not be sent is all that is told as a matter of form. -/
theorem formatting_iff (h : Fate w rs e) : e.category = .formatting ↔
    ∃ reason, e = .client (.invalidRequest reason) ∨ e = .client (.signing reason) := by
  constructor
  · intro hformatting
    cases h with
    | barred _ reason => exact ⟨reason, .inl rfl⟩
    | strayed _ hblamed => exact nomatch (RunError.category_of_isProtocol hblamed).symm.trans hformatting
    | cancelled | denied | exceeded | lost | unauthorized | unexpected => exact nomatch hformatting
  · rintro ⟨reason, rfl | rfl⟩ <;> rfl

end Fate

/-! ### Steps -/

/-- The session goes on where its requests have left the world. -/
structure Session.Trails (w : World) (s : Session) : Prop where
  transport : s.world.transport = w.transport
  script : s.world.script = w.script.drop s.world.requests.length

/-- The session goes on there, and nothing was asked for in vain so far. -/
structure Session.Follows (w : World) (s : Session) : Prop extends Session.Trails w s where
  satisfied : w.Satisfied s.world.requests

namespace Session

variable {w v : World} {s : Session} {t : Ticket}

/-- Only the requests count, what is left of the script, and the transport. -/
theorem Follows.of_eq (h : s.Follows w) (htransport : v.transport = s.world.transport)
    (hscript : v.script = s.world.script) (hrequests : v.requests = s.world.requests) :
    Follows w ⟨t, v⟩ where
  transport := htransport.trans h.transport
  script := by rw [hscript, hrequests, h.script]
  satisfied := hrequests.symm ▸ h.satisfied

theorem Follows.of_lulls (h : s.Follows w) (hv : s.world.Lulls v) : Follows w ⟨t, v⟩ :=
  h.of_eq hv.transport hv.script hv.requests

/-- Of what was recorded before a lull, only a request would count. -/
theorem Follows.of_record {o : Occurrence} (h : s.Follows w) (ho : World.requestsOf [o] = [])
    (hv : (s.world.record o).Lulls v) : Follows w ⟨t, v⟩ := by
  refine h.of_eq hv.transport hv.script (hv.requests.trans ?_)
  rw [World.requests, World.record, World.requestsOf_append, ho, List.append_nil]
  rfl

theorem Trails.of_transmits {c : Client} {method : Method} {path : String} {body : Option String}
    {r : Request} (h : s.Trails w) (hsent : c.Transmits method path body s.world r v) :
    Trails w ⟨t, v⟩ where
  transport := hsent.transport.trans h.transport
  script := by
    rw [hsent.script, hsent.requests, h.script, List.length_append, List.length_singleton, List.tail_drop]

theorem Trails.reply?_eq (h : s.Trails w) : s.world.reply? = w.replyAt s.world.requests.length := by
  rw [World.reply?, World.replyAt, h.script, h.transport]
  cases hstep : w.script[s.world.requests.length]? with
  | none => rw [List.drop_eq_nil_of_le (List.getElem?_eq_none_iff.mp hstep)]
  | some step =>
    obtain ⟨hlt, rfl⟩ := List.getElem?_eq_some_iff.mp hstep
    rw [List.drop_eq_getElem_cons hlt]

/-- The reply that a request meets is the last one. -/
theorem Trails.lastReply {c : Client} {method : Method} {path : String} {body : Option String}
    {r : Request} {reply : Except ClientError Response}
    {kind : Method → Except ClientError Response → Prop} (h : s.Trails w)
    (hsent : c.Transmits method path body s.world r v) (hreply : s.world.reply? = some reply)
    (hkind : kind method reply) : w.LastReply v.requests kind :=
  ⟨s.world.requests, r, reply, hsent.requests, h.reply?_eq.symm.trans hreply, hsent.method_eq.symm ▸ hkind⟩

/-- The last answer was made that of. -/
structure Consulted (w : World) (method : Method) (decode : Response → Client.Decoded α) (b : α)
    (s : Session) : Prop extends Trails w s where
  lastAnswer : w.LastAnswer s.world.requests fun method' answer =>
    method' = method ∧ (decode answer).result = .ok b

theorem Consulted.lastAnswer_of {method : Method} {decode : Response → Client.Decoded α} {b : α}
    {kind : Method → Response → Prop} (h : s.Consulted w method decode b)
    (hkind : ∀ answer, (decode answer).result = .ok b → kind method answer) :
    w.LastAnswer s.world.requests kind := by
  obtain ⟨earlier, r, reply, hrequests, hreply, answer, hanswer, rfl, hresult⟩ := h.lastAnswer
  exact ⟨earlier, r, reply, hrequests, hreply, answer, hanswer, hkind answer hresult⟩

theorem Consulted.follows {method : Method} {decode : Response → Client.Decoded α} {b : α}
    (h : s.Consulted w method decode b)
    (hobeys : ∀ answer, (decode answer).result = .ok b → answer.Obeys method) : s.Follows w where
  toTrails := h.toTrails
  satisfied := .inr (h.lastAnswer_of hobeys)

theorem follows_fresh (handle : String) (w : World) : (fresh handle w).Follows w where
  transport := rfl
  script := rfl
  satisfied := .inl rfl

end Session

namespace Stop

variable {w : World} {e : RunError} {s : Session}

/-- A step that was in its turn had a cause to end with an error. -/
def Fated (w : World) (stop : Stop) (s : Session) : Prop :=
  ∀ e, stop = .error e → e.isOutOfTurn = true ∨ Fate w s.world.requests e

theorem fated_of_isOutOfTurn (h : e.isOutOfTurn = true) : (error e).Fated w s := by
  rintro _ ⟨⟩
  exact .inl h

theorem fated_givenUp (h : Fate w s.world.requests e) : (error e).Fated w (s.givenUp e) := by
  rintro _ ⟨⟩
  exact .inr ((s.lulls_givenUp e).requests.symm ▸ h)

end Stop

/-- The step goes on without anything asked for in vain, or it ends with a cause. -/
def Step.Caused (w : World) (x : Step α) : Prop :=
  x.Meets (Session.Follows w) (fun _ => Session.Follows w) (Stop.Fated w)

namespace Applicant

variable {a : Applicant} {w : World}

theorem logLine_caused (level : Level) (text : String) : (logLine level text).Caused w :=
  Meets.modify fun s hs => hs.of_lulls (World.lulls_log s.world level text)

theorem fail_caused {e : RunError} (h : e.isOutOfTurn = true) : (fail e : Step α).Caused w :=
  Meets.throw fun _ _ => Stop.fated_of_isOutOfTurn h

theorem get_caused {g : Session → Step α} (h : ∀ s, (g s).Caused w) : (get >>= g).Caused w :=
  Meets.get fun s hs => (h s).pre fun _ ht => ht ▸ hs

theorem tell_caused (e : Event) : (a.tell e).Caused w := by
  apply tell_meets_lulls
  · exact fun _ s v hs hv => hs.of_record rfl hv
  · exact fun _ s hs => hs

theorem moveTo_caused (next : Stage) : (a.moveTo next).Caused w := by
  unfold moveTo
  refine get_caused fun s => ?_
  dsimp only
  split
  · exact fail_caused rfl
  · refine Meets.bind (Meets.modify fun t ht => ?_) fun _ => tell_caused _
    exact ht.of_eq rfl rfl rfl

theorem expectStage_caused (stage : Stage) : (expectStage stage).Caused w := by
  unfold expectStage
  refine get_caused fun s => ?_
  dsimp only
  split
  · exact Meets.pure fun _ h => h
  · split
    · exact fail_caused rfl
    · exact fail_caused rfl

theorem pendingNumber_caused : pendingNumber.Caused w := by
  refine Meets.bind (expectStage_caused .pending) fun _ => get_caused fun s => ?_
  split
  · exact Meets.pure fun _ h => h
  · exact fail_caused rfl

theorem giveUp_fated {e : RunError} {P : Session → Prop} {Q : α → Session → Prop}
    (h : ∀ s, P s → Fate w s.world.requests e) : (giveUp e : Step α).Meets P Q (Stop.Fated w) := by
  intro s hs
  rw [on_giveUp]
  exact Stop.fated_givenUp (h s hs)

theorem sleep_caused : a.sleep.Caused w := by
  apply sleep_meets_lulls
  · exact fun s _ => Stop.fated_givenUp .cancelled
  · exact fun s v hs hv => hs.of_record rfl hv
  · exact fun s v _ _ => Stop.fated_givenUp .cancelled

/-- A call that gives nothing has its cause, which shows in the last reply if there is one. -/
theorem ask_fated (hw : w.Networked) {c : Client} {method : Method} {path : String} {body : Option String}
    {contentType : String} {read : Response → Except ClientError α}
    (hread : ∀ r, Client.Blames (read r))
    (hobeys : ∀ r : Response, r.Obeys method →
      ∃ b, (Client.decodeWith method.goodStatus contentType read r).result = .ok b) :
    (ask (c.call method path body (Client.decodeWith method.goodStatus contentType read))).Meets
      (Session.Follows w)
      (Session.Consulted w method (Client.decodeWith method.goodStatus contentType read))
      (Stop.Fated w) := by
  apply ask_meets_attempts
  · exact fun s _ => Stop.fated_givenUp .cancelled
  · intro s v e hs hv hbars
    obtain ⟨reason, rfl⟩ := hbars.exists_invalidRequest (by rw [hs.transport, hw.check])
    exact Stop.fated_givenUp (.barred (hs.of_lulls (t := s.ticket) hv).satisfied reason)
  · intro s r v reply b hs hsent hreply hb
    obtain ⟨answer, rfl, hresult⟩ := Client.consult_eq_ok_iff.mp hb
    exact ⟨hs.of_transmits hsent, hs.lastReply hsent hreply ⟨answer, rfl, rfl, hresult⟩⟩
  · intro s r v reply e hs hsent hreply herror
    refine Stop.fated_givenUp ?_
    cases reply with
    | error f =>
      cases herror
      obtain ⟨status, rfl⟩ := hw.network_of_replyAt (hs.reply?_eq.symm.trans hreply)
      exact .lost (hs.lastReply hsent hreply rfl)
    | ok answer =>
      have hfaults := Client.consult_eq_error_iff.mp herror
      rcases hfaults.unauthorized_or_isProtocol method.goodStatus_ne_unauthorized hread with
        ⟨h401, rfl⟩ | ⟨hknown, hblamed⟩
      · exact .unauthorized (hs.lastReply hsent hreply ⟨answer, rfl, h401⟩)
      · refine .strayed (hs.lastReply hsent hreply ⟨answer, rfl, ?_⟩) hblamed
        refine Response.strays_iff.mpr ⟨hknown, fun h => ?_⟩
        obtain ⟨b, hb⟩ := hobeys answer h
        exact nomatch herror.symm.trans hb
  · exact fun s r v _ _ => Stop.fated_givenUp .cancelled
  · exact fun s r v _ _ _ => nofun

theorem create_caused (hw : w.Networked) : a.create.Caused w := by
  refine Meets.bind (expectStage_caused .created) fun _ => get_caused fun s => ?_
  refine Meets.bind (logLine_caused _ _) fun _ => ?_
  rw [Client.requestKey_eq]
  refine Meets.bind (ask_fated hw Client.blames_readId fun r ⟨id, h⟩ =>
    ⟨id, Client.decodeId_eq_ok_iff.mpr h⟩) fun id => ?_
  refine Meets.bind (Q := fun _ => Session.Follows w) (Meets.modify fun t ht => ?_) fun _ =>
    moveTo_caused _
  exact (ht.follows fun r h => ⟨id, Client.decodeId_eq_ok_iff.mp h⟩).of_eq rfl rfl rfl

theorem exists_decodeState {r : Response} (h : r.Obeys .get) :
    ∃ stage, (Client.decodeState r).result = .ok stage := by
  rcases h with h | h | h
  · exact ⟨_, Client.decodeState_eq_ok_iff.mpr ⟨h, nofun, nofun⟩⟩
  · exact ⟨_, Client.decodeState_eq_ok_iff.mpr ⟨h, nofun, nofun⟩⟩
  · exact ⟨_, Client.decodeState_eq_ok_iff.mpr ⟨h, nofun, nofun⟩⟩

/-- What is answered to a poll decides how it goes on. -/
theorem poll_caused (hw : w.Networked) : a.poll.Caused w := by
  refine Meets.bind pendingNumber_caused fun id => ?_
  rw [Client.inquire_eq]
  refine Meets.bind (ask_fated hw Client.blames_readState fun r => exists_decodeState) fun stage => ?_
  have htold {r : Response} (h : (Client.decodeState r).result = .ok stage) : r.Tells stage :=
    (Client.decodeState_eq_ok_iff.mp h).1
  have hserved {r : Response} (h : (Client.decodeState r).result = .ok stage) : stage.IsServed :=
    (Client.decodeState_eq_ok_iff.mp h).2
  cases stage with
  | pending => exact Meets.pure fun s hs => hs.follows fun r h => .inl (htold h)
  | accepted =>
    refine Meets.bind ((moveTo_caused _).pre fun s hs => ?_) fun _ => Meets.pure fun _ h => h
    exact hs.follows fun r h => .inr (.inl (htold h))
  | denied =>
    refine Meets.bind ((moveTo_caused _).pre fun s hs => ?_) fun _ => Meets.pure fun _ h => h
    exact hs.follows fun r h => .inr (.inr (htold h))
  | fulfilled =>
    exact giveUp_fated fun s hs => .unexpected (hs.lastAnswer_of fun r h => .fulfilled (htold h)) id
  | created =>
    refine giveUp_fated fun s hs => ?_
    obtain ⟨-, -, -, -, -, answer, -, -, h⟩ := hs.lastAnswer
    exact absurd rfl (hserved h).1
  | failed =>
    refine giveUp_fated fun s hs => ?_
    obtain ⟨-, -, -, -, -, answer, -, -, h⟩ := hs.lastAnswer
    exact absurd rfl (hserved h).2

theorem pollFrom_caused (hw : w.Networked) (id : UInt64) (answers : Nat) (attempts : UInt32) :
    (a.pollFrom id answers attempts).Caused w := by
  induction answers generalizing attempts with
  | zero => exact Meets.throw fun _ _ => nofun
  | succ answers ih =>
    rw [pollFrom]
    refine Meets.bind (poll_caused hw) fun stage => ?_
    cases stage with
    | denied =>
      refine Meets.bind (logLine_caused _ _) fun _ => Meets.throw fun s hs => ?_
      rintro _ ⟨⟩
      exact .inr (.denied hs.satisfied id)
    | pending =>
      dsimp only
      split
      · refine Meets.bind (tell_caused _) fun _ => ?_
        exact Meets.bind sleep_caused fun _ => ih _
      · exact giveUp_fated fun s hs => .exceeded hs.satisfied id _
    | accepted | created | fulfilled | failed => exact Meets.pure fun _ h => h

theorem awaitDecision_caused (hw : w.Networked) : a.awaitDecision.Caused w := by
  refine Meets.bind pendingNumber_caused fun id => ?_
  split
  · exact get_caused fun s => pollFrom_caused hw id _ 0
  · exact giveUp_fated fun s hs => .exceeded hs.satisfied id 0

theorem fulfill_caused (hw : w.Networked) : a.fulfill.Caused w := by
  refine Meets.bind (expectStage_caused .accepted) fun _ => get_caused fun s => ?_
  split
  next =>
    intro t ht
    rw [on_giveUp]
    exact Stop.fated_of_isOutOfTurn rfl
  next id _ =>
    rw [Client.collect_eq]
    refine Meets.bind (ask_fated hw Client.blames_readSecret fun r ⟨secret, h⟩ =>
      ⟨secret, Client.decodeSecret_eq_ok_iff.mpr h⟩) fun secret => ?_
    refine Meets.bind ((moveTo_caused .fulfilled).pre fun s hs => ?_) fun _ => ?_
    · exact hs.follows fun r h => ⟨secret, Client.decodeSecret_eq_ok_iff.mp h⟩
    · exact Meets.bind (logLine_caused _ _) fun _ => Meets.pure fun _ h => h

theorem run_caused (hw : w.Networked) : a.run.Caused w :=
  Meets.bind (create_caused hw) fun _ => Meets.bind (awaitDecision_caused hw) fun _ => fulfill_caused hw

/-- A run of a new request that ends with an error had a cause to. -/
theorem fate_of_run (hw : w.Networked) {handle : String} {e : RunError} {s : Session}
    (h : a.run.on (.fresh handle w) = (.error (.error e), s)) : Fate w s.world.requests e := by
  have hturn := (run_meets.error rfl h).agrees.inTurn e rfl
  rcases (run_caused hw).error (Session.follows_fresh handle w) h e rfl with hout | hfate
  · exact nomatch hturn.symm.trans hout
  · exact hfate

end Applicant

end KeyApproval
