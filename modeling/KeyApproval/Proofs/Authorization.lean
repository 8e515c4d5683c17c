import KeyApproval.Proofs.Discipline
import KeyApproval.Proofs.Lasting
import KeyApproval.Proofs.Protocol
import KeyApproval.Proofs.SignedText

/-!
# Verified requests

A server that shares the secret needs nothing but the request to verify it. It reads the authorization from
the right, because a user name may hold quotes and what stands behind it may not; it looks up the headers
that are named there, builds the signed text again and compares the codes. Every request of a client is
verified so, whatever the user name, the secret, the body and the date are.
-/

namespace KeyApproval

/-! ### Reading from the right -/

namespace Text

/-- The text before `back`, when it ends so. -/
def before? (back s : List Char) : Option (List Char) := (after? back.reverse s.reverse).map List.reverse

/-- The last field of that name at the end of a text, and what stands before it. The value of a field stands
between quotes and holds none. -/
def lastField? (name s : List Char) : Option (List Char × List Char) := do
  let inner ← before? ['"'] s
  let (front, value) ← splitLast '"' inner
  let front ← before? (name ++ ['=']) front
  return (front, value)

theorem before?_append (front back : List Char) : before? back (front ++ back) = some front := by
  rw [before?, List.reverse_append, after?_append, Option.map_some, List.reverse_reverse]

theorem lastField?_append {value : List Char} (h : '"' ∉ value) (front name : List Char) :
    lastField? name (front ++ (name ++ ['=']) ++ '"' :: value ++ ['"']) = some (front, value) := by
  simp only [lastField?, before?_append, splitLast_append h, Option.bind_eq_bind, Option.bind_some,
    Option.pure_def]

end Text

/-- The fields of an Authorization value. -/
structure Authorization where
  username : String
  algorithm : String
  headers : String
  signature : String
  deriving DecidableEq

namespace Authorization

def text (a : Authorization) : String :=
  "hmac username=\"" ++ a.username ++ "\", algorithm=\"" ++ a.algorithm ++ "\", headers=\"" ++ a.headers ++
    "\", signature=\"" ++ a.signature ++ "\""

/-- Reads the fields from the last to the first. What is left in the end is the user name, whatever stands
in it. -/
def read? (value : String) : Option Authorization := do
  let (s, signature) ← Text.lastField? "signature".toList value.toList
  let (s, headers) ← Text.lastField? "headers".toList (← Text.before? ", ".toList s)
  let (s, algorithm) ← Text.lastField? "algorithm".toList (← Text.before? ", ".toList s)
  let username ← Text.after? "hmac username=\"".toList (← Text.before? "\", ".toList s)
  return ⟨.ofList username, .ofList algorithm, .ofList headers, .ofList signature⟩

theorem toList_text (a : Authorization) :
    a.text.toList = "hmac username=\"".toList ++ a.username.toList ++ "\", ".toList ++
      ("algorithm".toList ++ ['=']) ++ '"' :: a.algorithm.toList ++ ['"'] ++ ", ".toList ++
      ("headers".toList ++ ['=']) ++ '"' :: a.headers.toList ++ ['"'] ++ ", ".toList ++
      ("signature".toList ++ ['=']) ++ '"' :: a.signature.toList ++ ['"'] := by
  have halgorithm : "\", algorithm=\"" = "\", " ++ "algorithm" ++ "=\"" := by decide
  have hheaders : "\", headers=\"" = "\", " ++ "headers" ++ "=\"" := by decide
  have hsignature : "\", signature=\"" = "\", " ++ "signature" ++ "=\"" := by decide
  have hquote : "\", ".toList = ['"'] ++ ", ".toList := by decide
  have hopen : "=\"".toList = ['=', '"'] := by decide
  have hclose : "\"".toList = ['"'] := by decide
  unfold text
  rw [halgorithm, hheaders, hsignature]
  simp only [String.toList_append, hquote, hopen, hclose, List.append_assoc, List.cons_append,
    List.nil_append]

/-- What is written is read back, whatever the user name is. -/
theorem read?_text (a : Authorization) (halgorithm : '"' ∉ a.algorithm.toList)
    (hheaders : '"' ∉ a.headers.toList) (hsignature : '"' ∉ a.signature.toList) :
    read? a.text = some a := by
  simp only [read?, toList_text, Text.lastField?_append hsignature, Text.before?_append,
    Text.lastField?_append hheaders, Text.lastField?_append halgorithm, Text.after?_append,
    Option.bind_eq_bind, Option.bind_some, Option.pure_def, String.ofList_toList]

/-- A user name may look like more fields. -/
example :
    read? "hmac username=\"a\", headers=\"b\", algorithm=\"sha512\", headers=\"date\", signature=\"0F\"" =
    some ⟨"a\", headers=\"b", "sha512", "date", "0F"⟩ := by
  decide +kernel

end Authorization

/-! ### The code -/

namespace Signing

open Http

/-- The form of every signature: 128 digits of base sixteen. -/
structure IsCode (code : String) : Prop where
  length : code.length = 128
  digits : ∀ c ∈ code.toList, c ∈ Text.Hex.upperDigits

theorem isCode_signature (key message : List UInt8) : IsCode (signature key message) where
  length := by
    rw [signature, String.length_ofList, Text.Hex.length_encodeUpper, Digest.Hmac.length_code]
  digits c hc := by
    rw [signature, String.toList_ofList] at hc
    exact Text.Hex.mem_upperDigits hc

theorem IsCode.quote_notMem {code : String} (h : IsCode code) : '"' ∉ code.toList := by
  intro hmem
  have hdigit := h.digits _ hmem
  revert hdigit
  decide

theorem quote_notMem_algorithm : '"' ∉ algorithm.toList := by decide

/-- The code over what a list and a body say. -/
def codeOf (l : Headers) (secret : String) (body : Option String) : String :=
  signature (Text.Utf8.encodeString secret) (Text.Utf8.encodeString (signedText l body))

/-- Every list of headers but the empty one is signed, with every secret. -/
theorem sign_eq {l : Headers} (h : l.isEmpty = false) (c : Credentials) (body : Option String) :
    sign l c body =
      .ok (Authorization.text ⟨c.username, algorithm, canonicalNames l, codeOf l c.secret body⟩) := by
  rw [sign, h]
  rfl

end Signing

/-! ### The verifier -/

open Http

/-- The first header of a name that is given in lower case. -/
def findHeader? (l : List Header) (name : List Char) : Option Header :=
  l.find? fun h => Text.lower h.name.toList == name

/-- The user that a request is from, when the request holds a code that only who knows the secret can
tell. -/
def Request.verify (secret : String) (r : Request) : Option String := do
  let a ← Authorization.read? (← r.headers.get? "Authorization")
  let signed ← (Text.split ' ' a.headers.toList).mapM (findHeader? r.headers.toList)
  let text := signed.foldr (fun h rest => h.name ++ ": " ++ h.value ++ "\n" ++ rest) (r.body.getD "")
  let code := Signing.signature (Text.Utf8.encodeString secret) (Text.Utf8.encodeString text)
  if a.algorithm = "sha512" ∧ a.signature = code then some a.username else none

/-- Each of the headers in front is found by its own name, when no name stands there twice. -/
theorem findHeader?_of_mem {front : List Header} {h : Header} (hmem : h ∈ front)
    (hdistinct : (front.map fun h => Text.lower h.name.toList).Nodup) (later : List Header) :
    findHeader? (front ++ later) (Text.lower h.name.toList) = some h := by
  induction front with
  | nil => contradiction
  | cons k rest ih =>
    rw [List.map_cons, List.nodup_cons] at hdistinct
    rw [findHeader?, List.cons_append, List.find?_cons]
    rcases List.mem_cons.mp hmem with rfl | hrest
    · rw [beq_self_eq_true]
    · have hother : (Text.lower k.name.toList == Text.lower h.name.toList) = false := by
        apply beq_false_of_ne
        intro heq
        exact hdistinct.1 (heq ▸ List.mem_map_of_mem hrest)
      rw [hother]
      exact ih hrest hdistinct.2

theorem mapM_findHeader? {front : List Header}
    (hdistinct : (front.map fun h => Text.lower h.name.toList).Nodup) (later : List Header) :
    (front.map fun h => Text.lower h.name.toList).mapM (findHeader? (front ++ later)) = some front := by
  have hfound : ∀ h ∈ front, findHeader? (front ++ later) (Text.lower h.name.toList) = some h :=
    fun h hmem => findHeader?_of_mem hmem hdistinct later
  clear hdistinct
  generalize front ++ later = all at hfound
  induction front with
  | nil => rfl
  | cons h rest ih =>
    obtain ⟨hfirst, hrest⟩ := List.forall_mem_cons.mp hfound
    simp only [List.map_cons, List.mapM_cons, hfirst, ih hrest, Option.bind_eq_bind, Option.bind_some,
      Option.pure_def]

/-- A request is verified when it begins with the headers that are signed and their authorization, whatever
headers follow. -/
theorem Request.verify_of_signed {l : Headers} {c : Credentials} {body : Option String} {value : String}
    (hsign : Signing.sign l c body = .ok value) (hdistinct : (Signing.announced l).Nodup)
    (hother : Text.lower "Authorization".toList ∉ Signing.announced l)
    (hplain : '"' ∉ (Signing.canonicalNames l).toList) {r : Request} {later : List Header}
    (hheaders : r.headers.toList = l.toList ++ ⟨"Authorization", value⟩ :: later)
    (hbody : r.body = body) : r.verify c.secret = some c.username := by
  have hnonempty : l.isEmpty = false := by
    cases hempty : l.isEmpty with
    | false => rfl
    | true => simp [Signing.sign, hempty] at hsign
  have hfound : r.headers.get? "Authorization" = some value := by
    have hnone :
        l.toList.find? (fun h => Text.sameIgnoringCase h.name.toList "Authorization".toList) = none := by
      apply List.find?_eq_none.mpr
      intro h hh hsame
      apply hother
      rw [← Text.sameIgnoringCase_iff.mp hsame]
      exact List.mem_map_of_mem hh
    have hself : Text.sameIgnoringCase "Authorization".toList "Authorization".toList = true :=
      Text.sameIgnoringCase_iff.mpr rfl
    rw [Headers.get?, hheaders, List.find?_append, hnone, Option.none_or, List.find?_cons, hself]
    rfl
  have hread : Authorization.read? value =
      some ⟨c.username, Signing.algorithm, Signing.canonicalNames l, Signing.codeOf l c.secret body⟩ := by
    rw [Signing.sign_eq hnonempty] at hsign
    obtain rfl := Except.ok.inj hsign
    apply Authorization.read?_text
    · exact Signing.quote_notMem_algorithm
    · exact hplain
    · exact (Signing.isCode_signature _ _).quote_notMem
  have hnames : Text.split ' ' (Signing.canonicalNames l).toList = Signing.announced l := by
    rw [Signing.canonicalNames, String.toList_ofList]
    refine Text.split_join ?_ fun part hpart => (Signing.announced_spec l part hpart).2
    intro hnil
    rw [Headers.isEmpty, List.map_eq_nil_iff.mp hnil] at hnonempty
    contradiction
  have hsigned : (Signing.announced l).mapM (findHeader? r.headers.toList) = some l.toList := by
    rw [hheaders]
    exact mapM_findHeader? hdistinct _
  have htext : l.toList.foldr (fun h rest => h.name ++ ": " ++ h.value ++ "\n" ++ rest) (r.body.getD "") =
      Signing.signedText l body := by
    rw [hbody]
    rfl
  simp only [verify, hfound, hread, hnames, hsigned, htext, Option.bind_eq_bind, Option.bind_some]
  exact if_pos ⟨rfl, rfl⟩

/-! ### The requests of a client -/

namespace Client

variable {c : Client} {method : Method} {path : String} {body : Option String} {now : Calendar.Instant}
  {r : Request}

/-- The names of the headers of a request, in their order. -/
def headerNames : Method → List String
  | .get => ["Date", "Authorization", "Accept"]
  | .post | .patch => ["Date", "Authorization", "Accept", "Content-Type"]

/-- A request with the right headers, from which a server that knows the secret can tell the user, and
could so if other headers followed the authorization. -/
structure Vouches (c : Client) (r : Request) : Prop where
  names : r.headers.toList.map Header.name = headerNames r.method
  verified : r.verify c.credentials.secret = some c.credentials.username
  covered : ∀ headers : Headers, headers.toList.take 2 = r.headers.toList.take 2 →
    Request.verify c.credentials.secret { r with headers } = some c.credentials.username

/-- What stands in the Authorization header of a request. -/
def authorization (c : Client) (body : Option String) (now : Calendar.Instant) : Authorization where
  username := c.credentials.username
  algorithm := Signing.algorithm
  headers := Signing.canonicalNames (signedHeaders now)
  signature := Signing.codeOf (signedHeaders now) c.credentials.secret body

theorem sign_signedHeaders (c : Client) (body : Option String) (now : Calendar.Instant) :
    Signing.sign (signedHeaders now) c.credentials body = .ok (c.authorization body now).text :=
  Signing.sign_eq rfl c.credentials body

/-- The request to a URL. -/
def requestTo (c : Client) (method : Method) (url : Url) (body : Option String) (now : Calendar.Instant) :
    Request where
  method := method
  url := url
  headers := describeContent method ((signedHeaders now).append
    ⟨"Authorization", (c.authorization body now).text⟩ Signing.isName_authorization)
  body := body

/-- A request is made whenever its path can be joined to the base URL. -/
theorem prepare_eq (c : Client) (method : Method) (path : String) (body : Option String)
    (now : Calendar.Instant) :
    c.prepare method path body now = match c.baseUrl.join path with
      | .error e => .error (.invalidRequest ("Invalid path '" ++ path ++ "': " ++ e.message))
      | .ok url => .ok (c.requestTo method url body now) := by
  unfold prepare
  cases c.baseUrl.join path <;> rfl

/-- The headers after the authorization. -/
def contentHeaders (method : Method) : List Header :=
  ⟨"Accept", accepted method⟩ :: match method with
    | .get => []
    | .post | .patch => [⟨"Content-Type", "application/json; charsets: utf-8"⟩]

theorem toList_requestTo (c : Client) (method : Method) (url : Url) (body : Option String)
    (now : Calendar.Instant) : (c.requestTo method url body now).headers.toList =
      Signing.dateHeader now :: ⟨"Authorization", (c.authorization body now).text⟩ ::
        contentHeaders method := by
  cases method <;> rfl

theorem announced_signedHeaders (now : Calendar.Instant) :
    Signing.announced (signedHeaders now) = ["date".toList] := by
  have hdate : Text.lower "Date".toList = "date".toList := by decide
  exact congrArg ([·]) hdate

theorem canonicalNames_signedHeaders (now : Calendar.Instant) :
    Signing.canonicalNames (signedHeaders now) = String.ofList (Text.join ' ' ["date".toList]) :=
  congrArg (fun names => String.ofList (Text.join ' ' names)) (announced_signedHeaders now)

/-- Every request is verified, whatever stands behind its authorization. -/
theorem vouches_requestTo (c : Client) (method : Method) (url : Url) (body : Option String)
    (now : Calendar.Instant) : c.Vouches (c.requestTo method url body now) := by
  have hother : Text.lower "Authorization".toList ∉ Signing.announced (signedHeaders now) := by
    rw [announced_signedHeaders]
    decide
  have hplain : '"' ∉ (Signing.canonicalNames (signedHeaders now)).toList := by
    rw [canonicalNames_signedHeaders]
    decide
  have hverified (headers : Headers)
      (hfront : headers.toList.take 2 = (c.requestTo method url body now).headers.toList.take 2) :
      Request.verify c.credentials.secret { c.requestTo method url body now with headers } =
        some c.credentials.username := by
    apply Request.verify_of_signed (c.sign_signedHeaders body now)
    · rw [announced_signedHeaders]
      exact List.pairwise_singleton _ _
    · exact hother
    · exact hplain
    · change headers.toList = [Signing.dateHeader now] ++ ⟨"Authorization", _⟩ :: headers.toList.drop 2
      calc headers.toList = headers.toList.take 2 ++ headers.toList.drop 2 :=
            (List.take_append_drop 2 _).symm
        _ = _ := by
            rw [hfront, toList_requestTo]
            rfl
    · rfl
  refine ⟨?_, hverified _ rfl, hverified⟩
  rw [toList_requestTo]
  cases method <;> rfl

theorem prepare_eq_ok_iff :
    c.prepare method path body now = .ok r ↔
      ∃ url, c.baseUrl.join path = .ok url ∧ c.requestTo method url body now = r := by
  rw [prepare_eq]
  cases c.baseUrl.join path <;> simp

theorem exists_error_prepare_iff :
    (∃ e, c.prepare method path body now = .error e) ↔ ∃ e, c.baseUrl.join path = .error e := by
  rw [prepare_eq]
  cases c.baseUrl.join path with
  | error e => exact iff_of_true ⟨_, rfl⟩ ⟨_, rfl⟩
  | ok url => exact iff_of_false nofun nofun

end Client

/-! ### The requests of runs -/

/-- All requests so far are verified. -/
def World.Vouched (c : Client) (w : World) : Prop := ∀ r ∈ w.requests, c.Vouches r

theorem World.steady_vouched (c : Client) : Steady (Vouched c) :=
  steady_requests fun requests => ∀ r ∈ requests, c.Vouches r

theorem Session.lasting_vouched (c : Client) : Lasting c (·.world.Vouched c) := by
  apply lasting_world (World.steady_vouched c)
  · intro w method path body now r hr hw
    obtain ⟨url, -, rfl⟩ := Client.prepare_eq_ok_iff.mp hr
    exact World.forall_requests_sending hw (c.vouches_requestTo method url body now)
  · intro w lines _ hw
    unfold World.Vouched
    rwa [(World.idles_logAll w lines).requests]

namespace Applicant

open Step

variable {a : Applicant} {I : World → Prop}

/-- What outlasts all steps outlasts all moves. -/
theorem performAll_keeps (hI : World.Steady I) (hlasting : Session.Lasting a.client (I ·.world))
    (moves : List Move) : (a.performAll moves).Keeps (I ·.world) := by
  have hmove (m : Move) : (a.perform m).Keeps (I ·.world) := by
    cases m with
    | create => exact create_keeps hlasting.toEnduring fun _ _ h => h
    | poll => exact Meets.bind (poll_keeps hlasting.toEnduring) fun _ => Meets.pure fun _ h => h
    | awaitDecision => exact awaitDecision_keeps hlasting.toEnduring
    | fulfill => exact Meets.bind (fulfill_keeps hlasting) fun _ => Meets.pure fun _ h => h
    | run => exact Meets.bind (run_keeps hlasting fun _ _ h => h) fun _ => Meets.pure fun _ h => h
    | cancel => exact Meets.modify fun s h => hI.fire s.world h
    | pause ms => exact Meets.modify fun s h => hI.wait h ms
  exact performAll_meets moves fun m => (hmove m).mono (fun _ h => h) (fun _ _ h => h) fun _ _ h =>
    ⟨h, fun _ => h⟩

theorem performAll_vouched (a : Applicant) (handle : String) (w : World) (moves : List Move) :
    ((a.performAll moves).on (.fresh handle w)).2.world.Vouched a.client :=
  (performAll_keeps (World.steady_vouched a.client) (Session.lasting_vouched a.client) moves).on
    fun _ hr => nomatch hr

theorem run_vouched (a : Applicant) (handle : String) (w : World) :
    (a.run.on (.fresh handle w)).2.world.Vouched a.client :=
  (run_keeps (Session.lasting_vouched a.client) fun _ _ h => h).on fun _ hr => nomatch hr

end Applicant

namespace Handover

open Activity

variable {σ : Type} [Sink σ] {a : Applicant} {handle : String} {registry : Registry σ} {w : World}

omit [Sink σ] in
theorem sent_notMem_ofRound (r : Request) (round : Round σ) : .sent r ∉ deedsOf (ofRound round) := by
  rw [deedsOf_ofRound]
  simp

/-- Once the applicant is done nothing is sent. -/
theorem mem_requests_of_close {o : Outcome σ} {earlier : Round σ} {trace : List Occurrence} {r : Request}
    (ho : .sent r ∉ deedsOf o.activity)
    (h : .sent r ∈ deedsOf ((close o).after (ofRound earlier ++ trace.map happened)).activity) :
    r ∈ World.requestsOf trace := by
  have hclean : .sent r ∉ o.registry.cleanUps := by simp [Registry.cleanUps, tasked]
  rw [Report.after, deedsOf_append, deedsOf_append, deedsOf_close, deedsOf_happened] at h
  simp only [List.mem_append, sent_notMem_ofRound, ho, hclean, false_or, or_false] at h
  obtain ⟨q, hq, hsame⟩ := List.mem_map.mp h
  cases hsame
  exact hq

/-- The requests of a run are those of its applicant. -/
theorem mem_requests_of_run {r : Request} (h : .happened (.sent r) ∈ (run a handle registry w).activity) :
    r ∈ (a.run.on (.fresh handle w)).2.world.requests := by
  have hdeed : .sent r ∈ deedsOf (run a handle registry w).activity := List.mem_filterMap.mpr ⟨_, h, rfl⟩
  cases hstart : registry.start.error? with
  | some e =>
    rw [run_of_unstarted hstart] at hdeed
    have hnone : r ∈ World.requestsOf [] :=
      mem_requests_of_close List.not_mem_nil (by simpa using hdeed)
    contradiction
  | none =>
    rcases hrun : a.run.on (.fresh handle w) with ⟨(e | _) | secret, s⟩
    · rw [run_of_error hstart hrun] at hdeed
      refine mem_requests_of_close ?_ hdeed
      rw [giveUp, deedsOf_append, List.mem_append, not_or]
      refine ⟨sent_notMem_ofRound r _, ?_⟩
      split <;> simp [deedsOf, log]
    · rw [run_of_hung hstart hrun, deedsOf_append, deedsOf_happened] at hdeed
      have hsent := (List.mem_append.mp hdeed).resolve_left (sent_notMem_ofRound r _)
      obtain ⟨q, hq, hsame⟩ := List.mem_map.mp hsent
      cases hsame
      exact hq
    · rw [run_of_ok hstart hrun] at hdeed
      exact mem_requests_of_close (sent_notMem_ofRound r _) hdeed

end Handover

/-- A client makes a request unless its path cannot be joined to the base URL, and a server that knows the
secret can verify it: the headers are there in their order, the signature is over the date and the body
alone, and the request tells its user, whatever headers follow the authorization. So it is with all that is
sent in whatever is done with a ticket, and in whole runs. -/
theorem requests_vouched {σ : Type} [Sink σ] (a : Applicant) (handle : String) (w : World)
    (moves : List Move) (registry : Registry σ) :
    (∀ method path body now, (∃ e, a.client.prepare method path body now = .error e) ↔
      ∃ e, a.client.baseUrl.join path = .error e) ∧
    (∀ method path body now r, a.client.prepare method path body now = .ok r →
      r.method = method ∧ a.client.baseUrl.join path = .ok r.url ∧ r.body = body ∧
      (∃ value, Signing.sign (Client.signedHeaders now) a.client.credentials body = .ok value ∧
        r.headers.toList[1]? = some ⟨"Authorization", value⟩) ∧
      a.client.Vouches r) ∧
    (∀ r ∈ ((a.performAll moves).on (.fresh handle w)).2.world.requests, a.client.Vouches r) ∧
    ∀ r, .happened (.sent r) ∈ (Handover.run a handle registry w).activity → a.client.Vouches r := by
  refine ⟨fun _ _ _ _ => Client.exists_error_prepare_iff, ?_, a.performAll_vouched handle w moves, ?_⟩
  · intro method path body now r hr
    obtain ⟨url, hurl, rfl⟩ := Client.prepare_eq_ok_iff.mp hr
    refine ⟨rfl, hurl, rfl, ⟨_, a.client.sign_signedHeaders body now, ?_⟩, a.client.vouches_requestTo _ _ _ _⟩
    rw [Client.toList_requestTo]
    rfl
  · exact fun r hr => a.run_vouched handle w r (Handover.mem_requests_of_run hr)

end KeyApproval
