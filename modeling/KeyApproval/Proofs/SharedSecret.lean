import KeyApproval.Client.Transmission
import KeyApproval.Proofs.Authorization
import KeyApproval.Proofs.Parallel
import Mathlib.Data.List.Forall2

/-!
# The shared secret

The secret that a client shares with the server goes into the codes of its signatures and nowhere else. Two
clients that differ in their secrets alone make the same requests but for the digits of these codes, and
whatever they are used for, the same comes of it: the same answers, the same lines of the log, the same
events, the same calls to modules, the same result.
-/

namespace KeyApproval

open Http

/-! ### Requests with other signatures -/

/-- The same header, or Authorization headers that differ in the digits of the signature at their end. -/
inductive Http.Header.SameButSignature : Header → Header → Prop where
  | same (h : Header) : SameButSignature h h
  | signed {front code code' : String} (hcode : Signing.IsCode code) (hcode' : Signing.IsCode code') :
      SameButSignature ⟨"Authorization", front ++ "signature=\"" ++ code ++ "\""⟩
        ⟨"Authorization", front ++ "signature=\"" ++ code' ++ "\""⟩

structure Request.SameButSignature (r r' : Request) : Prop where
  method : r.method = r'.method
  url : r.url = r'.url
  headers : List.Forall₂ Header.SameButSignature r.headers.toList r'.headers.toList
  body : r.body = r'.body

inductive Occurrence.SameButSignature : Occurrence → Occurrence → Prop where
  | same (o : Occurrence) : SameButSignature o o
  | sent {r r' : Request} (h : r.SameButSignature r') : SameButSignature (.sent r) (.sent r')

/-- The same calls to modules, and the same occurrences among them. -/
inductive Activity.SameButSignature {σ : Type} : Activity σ → Activity σ → Prop where
  | called (call : Call σ) : SameButSignature (.called call) (.called call)
  | happened {o o' : Occurrence} (h : o.SameButSignature o') : SameButSignature (.happened o) (.happened o')

/-- A transport that takes requests without regard to the digits of their signatures. -/
def Transport.IsBlind (t : Transport) : Prop := ∀ r r', r.SameButSignature r' → t.check r = t.check r'

theorem Signing.IsCode.isValueChar {code : String} (h : Signing.IsCode code) :
    code.toList.all isValueChar = true := by
  have hdigits : Text.Hex.upperDigits.all Http.isValueChar = true := by decide
  exact List.all_eq_true.mpr fun c hc => List.all_eq_true.mp hdigits c (h.digits c hc)

theorem Http.Header.SameButSignature.name {h h' : Header} (hsame : h.SameButSignature h') :
    h.name = h'.name := by
  cases hsame <;> rfl

theorem Http.Header.SameButSignature.wireFault? {h h' : Header} (hsame : h.SameButSignature h') :
    h.wireFault? = h'.wireFault? := by
  cases hsame with
  | same h => rfl
  | signed hcode hcode' =>
    simp only [Header.wireFault?, String.toList_append, List.all_append, hcode.isValueChar,
      hcode'.isValueChar]

/-- The check before sending does not tell signatures apart. -/
theorem Request.check_blind {r r' : Request} (h : r.SameButSignature r') : r.check = r'.check := by
  have hheaders := h.headers
  unfold Request.check Headers.wireFault?
  generalize r.headers.toList = l at hheaders
  generalize r'.headers.toList = l' at hheaders
  induction hheaders with
  | nil => rfl
  | @cons k k' rest rest' hk _ ih =>
    have hname := hk.name
    have hfault := hk.wireFault?
    rw [List.findSome?_cons, List.findSome?_cons, ← hfault]
    cases k.wireFault? with
    | none => exact ih
    | some reason =>
      dsimp only [Option.map_some]
      rw [hname]

/-! ### Clients with other secrets -/

theorem Authorization.text_eq (a : Authorization) :
    a.text = "hmac username=\"" ++ a.username ++ "\", algorithm=\"" ++ a.algorithm ++ "\", headers=\"" ++
      a.headers ++ "\", " ++ "signature=\"" ++ a.signature ++ "\"" := by
  have hsignature : "\", signature=\"" = "\", " ++ "signature=\"" := by decide
  unfold text
  rw [hsignature]
  simp only [String.append_assoc]

namespace Client

/-- The same client, sharing another secret with the server. -/
def withSecret (c : Client) (secret : String) : Client :=
  { c with credentials := { c.credentials with secret } }

theorem new_withSecret (endpoint : Endpoint) (credentials : Credentials) (secret : String) :
    new endpoint { credentials with secret } = (new endpoint credentials).map (·.withSecret secret) := by
  unfold new
  cases endpoint.baseUrl <;> rfl

theorem rebase_withSecret (c : Client) (text secret : String) :
    (c.withSecret secret).rebase text = (c.rebase text).map (·.withSecret secret) := by
  unfold rebase
  cases Url.parse text <;> rfl

theorem requestTo_withSecret (c : Client) (secret : String) (method : Method) (url : Url)
    (body : Option String) (now : Calendar.Instant) :
    (c.requestTo method url body now).SameButSignature
      ((c.withSecret secret).requestTo method url body now) where
  method := rfl
  url := rfl
  headers := by
    rw [toList_requestTo, toList_requestTo]
    refine .cons (.same _) (.cons ?_ (List.forall₂_same.mpr fun h _ => .same h))
    rw [Authorization.text_eq, Authorization.text_eq]
    exact .signed (Signing.isCode_signature _ _) (Signing.isCode_signature _ _)
  body := rfl

end Client

/-! ### Two runs -/

open World

/-- Traces in which the same happens, but for the digits of signatures. -/
def SameButSignatures : List Occurrence → List Occurrence → Prop :=
  List.Forall₂ Occurrence.SameButSignature

theorem SameButSignatures.refl (trace : List Occurrence) : SameButSignatures trace trace :=
  List.forall₂_same.mpr fun o _ => .same o

theorem SameButSignatures.append {trace trace' added added' : List Occurrence}
    (h : SameButSignatures trace trace') (hadded : SameButSignatures added added') :
    SameButSignatures (trace ++ added) (trace' ++ added') :=
  List.rel_append h hadded

theorem grows_sameButSignatures : Grows SameButSignatures :=
  fun _ _ o h => h.append (.refl [o])

/-- Worlds in which the same happened and will happen, but for the digits of signatures. -/
structure World.SameButSignature (w w' : World) : Prop where
  trace : SameButSignatures w.trace w'.trace
  rest : { w with trace := [] } = { w' with trace := [] }

abbrev World.SecretTwins : World → World → Prop := Twins Transport.IsBlind Eq SameButSignatures

theorem World.Twins.sameButSignature {w w' : World} (h : w.SecretTwins w') : w.SameButSignature w' := by
  cases h with
  | mk _ hscript htrace =>
    cases hscript
    exact ⟨htrace, rfl⟩

theorem heads_of_eq {script script' : List ServerStep} (h : script = script') :
    Heads Eq Eq script script' := by
  subst h
  cases script with
  | nil => exact .nil rfl
  | cons step rest => exact .cons (step.alike_self fun _ => rfl) rfl

namespace Client

variable {α : Type}

/-- A call leads to the same, whichever secret the client shares. -/
theorem call_secretTwins (c : Client) (secret : String) (method : Method) (path : String)
    (body : Option String) (decode : Response → Decoded α) :
    Abreast (fun _ => False) SecretTwins Eq (c.call method path body decode)
      ((c.withSecret secret).call method path body decode) where
  keeps _ h := h
  runs v w h := by
    refine .inr (call_paired grows_sameButSignatures h (fun now => ?_) (heads_of_eq h.scripts)
      (decodesAlike_self grows_sameButSignatures decode))
    have hbase : (c.withSecret secret).baseUrl = c.baseUrl := rfl
    rw [prepare_eq, prepare_eq, hbase]
    cases c.baseUrl.join path with
    | error e => exact .error _
    | ok url =>
      have hsame := c.requestTo_withSecret secret method url body now
      exact .ok ⟨h.kind _ _ hsame, h.traces.append (.cons (.sent hsame) .nil)⟩

theorem sideBySide_withSecret (c : Client) (secret : String) :
    c.SideBySide (fun _ => False) SecretTwins (c.withSecret secret) :=
  sideBySide_of_call (c.call_secretTwins secret)

end Client

theorem lockstep_sameButSignatures : Step.Lockstep (fun _ => False) Eq SameButSignatures where
  idle _ _ _ h := h
  grows := grows_sameButSignatures
  length _ _ h := congrArg List.length h

/-- The same applicant, sharing another secret with the server. -/
def Applicant.withSecret (a : Applicant) (secret : String) : Applicant :=
  { a with client := a.client.withSecret secret }

/-- The runs of two applicants who share different secrets go side by side. -/
theorem Applicant.run_secretTwins (a : Applicant) (secret handle : String) {w : World}
    (hblind : w.transport.IsBlind) :
    Step.Matched SecretTwins Eq (a.run.on (.fresh handle w))
      ((a.withSecret secret).run.on (.fresh handle w)) := by
  have hparallel := run_parallel (lockstep_sameButSignatures.inStep a (a.client.withSecret secret))
    (a.client.sideBySide_withSecret secret)
  have htwins : SecretTwins { w with trace := [] } { w with trace := [] } := .mk hblind rfl .nil
  exact (hparallel.runs (.new handle) _ _ htwins).resolve_left id

/-! ### Calls in a row -/

/-- A call that a client may be asked to make. -/
inductive Errand where
  | requestKey (handle : String)
  | inquire (id : UInt64)
  | collect (id : UInt64)

/-- What came of a call. -/
inductive Finding where
  | number (found : Arrival (Except ClientError UInt64))
  | stage (found : Arrival (Except ClientError Stage))
  | secret (found : Arrival (Except ClientError String))

namespace Client

def perform (c : Client) (w : World) : Errand → Finding × World
  | .requestKey handle => (.number (c.requestKey handle w).1, (c.requestKey handle w).2)
  | .inquire id => (.stage (c.inquire id w).1, (c.inquire id w).2)
  | .collect id => (.secret (c.collect id w).1, (c.collect id w).2)

/-- Makes calls in their order, whatever comes of them. -/
def performAll (c : Client) (w : World) : List Errand → List Finding × World
  | [] => ([], w)
  | errand :: rest =>
    let later := c.performAll (c.perform w errand).2 rest
    ((c.perform w errand).1 :: later.1, later.2)

variable {c : Client} {w w' : World}

theorem perform_secretTwins (h : w.SecretTwins w') (secret : String) (errand : Errand) :
    (c.perform w errand).1 = ((c.withSecret secret).perform w' errand).1 ∧
      (c.perform w errand).2.SecretTwins ((c.withSecret secret).perform w' errand).2 := by
  have hcalls := c.sideBySide_withSecret secret
  cases errand with
  | requestKey handle =>
    have hcall := ((hcalls.requestKey handle).runs w w' h).resolve_left False.elim
    simp only [perform]
    exact ⟨congrArg Finding.number hcall.arrival.eq, hcall.worlds⟩
  | inquire id =>
    have hcall := ((hcalls.inquire id).runs w w' h).resolve_left False.elim
    simp only [perform]
    exact ⟨congrArg Finding.stage hcall.arrival.eq, hcall.worlds⟩
  | collect id =>
    have hcall := ((hcalls.collect id).runs w w' h).resolve_left False.elim
    simp only [perform]
    exact ⟨congrArg Finding.secret hcall.arrival.eq, hcall.worlds⟩

theorem performAll_secretTwins (h : w.SecretTwins w') (secret : String) (errands : List Errand) :
    (c.performAll w errands).1 = ((c.withSecret secret).performAll w' errands).1 ∧
      (c.performAll w errands).2.SecretTwins ((c.withSecret secret).performAll w' errands).2 := by
  induction errands generalizing w w' with
  | nil => exact ⟨rfl, h⟩
  | cons errand rest ih =>
    obtain ⟨hfound, hworlds⟩ := perform_secretTwins (c := c) h secret errand
    obtain ⟨hlater, hend⟩ := ih hworlds
    rw [performAll, performAll, hfound]
    exact ⟨congrArg (_ :: ·) hlater, hend⟩

end Client

/-! ### Whole runs -/

variable {σ : Type}

/-- Reports of runs in which the same happened, but for the digits of signatures. -/
structure Report.SameButSignature (r r' : Report σ) : Prop where
  result : r.result = r'.result
  activity : List.Forall₂ Activity.SameButSignature r.activity r'.activity
  ticket : r.ticket = r'.ticket
  registry : r.registry = r'.registry
  world : r.world = r'.world

theorem Activity.SameButSignature.refl (x : Activity σ) : x.SameButSignature x := by
  cases x with
  | called call => exact .called call
  | happened o => exact .happened (.same o)

theorem SameButSignatures.happened {trace trace' : List Occurrence} (h : SameButSignatures trace trace') :
    List.Forall₂ (Activity.SameButSignature (σ := σ)) (trace.map .happened) (trace'.map .happened) := by
  rw [List.forall₂_map_left_iff, List.forall₂_map_right_iff]
  exact h.imp fun _ _ ho => .happened ho

/-- What follows a trace may be the same where the trace is the same but for signatures. -/
theorem Report.SameButSignature.after {trace trace' : List Occurrence} (h : SameButSignatures trace trace')
    (r : Report σ) (before : List (Activity σ)) :
    (r.after (before ++ trace.map .happened)).SameButSignature
      (r.after (before ++ trace'.map .happened)) where
  result := rfl
  activity := by
    have hsame (l : List (Activity σ)) : List.Forall₂ Activity.SameButSignature l l :=
      List.forall₂_same.mpr fun x _ => .refl x
    exact List.rel_append (List.rel_append (hsame before) h.happened) (hsame r.activity)
  ticket := rfl
  registry := rfl
  world := rfl

theorem Handover.run_sameButSignature [Sink σ] (a : Applicant) (secret handle : String)
    (registry : Registry σ) {w : World} (hblind : w.transport.IsBlind) :
    (run a handle registry w).SameButSignature (run (a.withSecret secret) handle registry w) := by
  cases hstart : registry.start.error? with
  | some e =>
    rw [run_of_unstarted hstart, run_of_unstarted hstart]
    have hnone := Report.SameButSignature.after .nil (close ⟨.error (.delivery e), [], .new handle,
      registry.start.registry, { w with trace := [] }⟩) (Activity.ofRound registry.start)
    simpa using hnone
  | none =>
    have hmatched := a.run_secretTwins secret handle hblind
    revert hmatched
    rcases hrun : a.run.on (.fresh handle w) with ⟨result, ticket, v⟩
    rcases hrun' : (a.withSecret secret).run.on (.fresh handle w) with ⟨result', ticket', v'⟩
    rintro ⟨hresult, hticket, hworlds⟩
    obtain ⟨htrace, hrest⟩ := hworlds.sameButSignature
    dsimp only at hresult hticket htrace hrest
    subst hticket
    obtain rfl := hresult.eq
    rcases result with (e | _) | collected
    · rw [run_of_error hstart hrun, run_of_error hstart hrun', hrest]
      exact .after htrace _ _
    · rw [run_of_hung hstart hrun, run_of_hung hstart hrun', hrest]
      have hsame := Report.SameButSignature.after htrace (⟨.error .hung, [], ticket,
        registry.start.registry, { v' with trace := [] }⟩ : Report σ) (Activity.ofRound registry.start)
      simpa only [Report.after, List.append_nil] using hsame
    · rw [run_of_ok hstart hrun, run_of_ok hstart hrun', hrest]
      exact .after htrace _ _

/-- Whatever two secrets are shared, runs and calls in a row have the same results, tickets, events, log lines from
INFO up, calls to modules and requests, but for the digits of the signatures in these. A client is made or moved to
another URL alike for both; every list of headers but the empty one is signed with any secret; and the texts
that describe credentials and signers are the same. -/
theorem shared_secret_signs_only [Sink σ] (a : Applicant) (secret handle : String) (registry : Registry σ)
    (world : World) (errands : List Errand) (hblind : world.transport.IsBlind) :
    let a' := a.withSecret secret
    (Handover.run a handle registry world).SameButSignature (Handover.run a' handle registry world) ∧
    ((a.client.performAll world errands).1 = (a'.client.performAll world errands).1 ∧
      (a.client.performAll world errands).2.SameButSignature (a'.client.performAll world errands).2) ∧
    (∀ endpoint, Client.new endpoint a'.client.credentials =
      (Client.new endpoint a.client.credentials).map (·.withSecret secret)) ∧
    (∀ text, a'.client.rebase text = (a.client.rebase text).map (·.withSecret secret)) ∧
    (∀ (l : Headers) body, l.isEmpty = false → ∃ code, Signing.IsCode code ∧
      Signing.sign l a'.client.credentials body = .ok (Authorization.text
        ⟨a.client.credentials.username, Signing.algorithm, Signing.canonicalNames l, code⟩)) ∧
    a'.client.credentials.describe = a.client.credentials.describe ∧
    Signing.describeSigner a'.client.credentials = Signing.describeSigner a.client.credentials := by
  intro a'
  have htwins : world.SecretTwins world := .mk hblind rfl (.refl _)
  obtain ⟨hfindings, hworlds⟩ := Client.performAll_secretTwins (c := a.client) htwins secret errands
  refine ⟨Handover.run_sameButSignature a secret handle registry hblind,
    ⟨hfindings, hworlds.sameButSignature⟩, ?_, ?_, ?_, rfl, rfl⟩
  · exact fun endpoint => Client.new_withSecret endpoint a.client.credentials secret
  · exact fun text => a.client.rebase_withSecret text secret
  · intro l body hl
    exact ⟨_, Signing.isCode_signature _ _, Signing.sign_eq hl a'.client.credentials body⟩

/-- The check before sending is blind, so a server that accepts at once hands out the same key to whoever
signs with the empty secret. -/
theorem shared_secret_signs_only_loopback :
    let reply (status : UInt16) (body : String) : ServerStep :=
      ⟨false, 0, some (.ok ⟨status, .empty, Text.Utf8.encodeString body⟩)⟩
    let script := [reply 201 (Text.braced "\"id\": 7"), reply 200 (Text.braced "\"state\": \"ACCEPTED\""),
      reply 200 "sesame\n"]
    let world : World :=
      ⟨⟨Request.check, .network none⟩, fun _ => default, 0, script, 0, ⟨false, none, none⟩, 0, []⟩
    let a : Applicant := ⟨Client.loopback, ⟨1000, none⟩, true⟩
    let registry : Registry Rehearsal := ⟨[⟨0, "first", true, true, []⟩], 1, false⟩
    world.transport.IsBlind ∧
      (Handover.run (a.withSecret "") "disk" registry world).result =
        (Handover.run a "disk" registry world).result := by
  intro reply script world a registry
  have hblind : world.transport.IsBlind := fun _ _ => Request.check_blind
  obtain ⟨hreport, -⟩ := shared_secret_signs_only a "" "disk" registry world [] hblind
  exact ⟨hblind, hreport.result.symm⟩

end KeyApproval
