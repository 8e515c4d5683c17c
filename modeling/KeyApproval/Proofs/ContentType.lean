import KeyApproval.Proofs.BaseUrl
import KeyApproval.Proofs.Interruption
import KeyApproval.Proofs.Parallel

/-!
# Headers of answers

A run looks at one header of an answer, its content type, and only to wonder about it. So answers that
differ in their headers lead to the same run, warnings apart, and the warnings are determined by the answers
alone: one for each answer of the expected status whose first content type is not the one that was asked
for.
-/

namespace KeyApproval

/-! ### The content type of an answer -/

theorem Text.headD_splitWhere (p : Char → Bool) (s : List Char) :
    (splitWhere p s).headD [] = s.takeWhile (!p ·) := by
  induction s with
  | nil => rfl
  | cons c rest ih =>
    rw [splitWhere]
    by_cases hc : p c = true
    · simp [hc]
    · cases hparts : splitWhere p rest with
      | nil => exact absurd hparts (splitWhere_ne_nil p rest)
      | cons part parts =>
        rw [hparts] at ih
        simpa [hc] using ih

namespace Http

/-- The content type that a header value tells: without colons and spaces in front and line ends behind, in
lower case, up to the first semicolon, and without the blanks around it. -/
def toldType (value : String) : String :=
  let started := value.toList.dropWhile fun c => c == ':' || c == ' '
  let whole := Text.lower (Text.dropEndWhile (fun c => c == '\r' || c == '\n') started)
  String.ofList (Text.trim (whole.takeWhile (· != ';')))

/-- What the first content-type header tells, whatever the letter case of its name. -/
def Response.toldType? (r : Response) : Option String :=
  (r.headers.toList.find? fun h => Text.lower h.name.toList == "content-type".toList).map fun h =>
    toldType h.value

theorem map_mediaType_contentType? (r : Response) : r.contentType?.map mediaType = r.toldType? := by
  have hlower : Text.lower "content-type".toList = "content-type".toList := by decide
  unfold Response.contentType? Headers.get? Response.toldType? Text.sameIgnoringCase
  rw [hlower, Option.map_map, Option.map_map]
  refine congrArg (Option.map · _) (funext fun h => ?_)
  simp only [Function.comp_apply, mediaType, String.toList_ofList, Text.headD_splitWhere]
  rfl

end Http

namespace Client

open Http

/-- The status of an answer that grants what a method asks for. -/
def expectedStatus : Method → UInt16
  | .post => 201
  | .get | .patch => 200

/-- The line that wonders about the content type of an answer. -/
def complaint (r : Response) (expected : String) : LogLine :=
  match r.contentType? with
  | none => ⟨.warn, "Response has no content type, expected " ++ expected⟩
  | some found => ⟨.warn, "Unexpected content type '" ++ found ++ "', expected " ++ expected⟩

/-- The complaints that are due about an answer: one if its status is the expected one and its content type
is another one or missing, else none. -/
def due (method : Method) (r : Response) : List LogLine :=
  if r.status = expectedStatus method ∧ r.toldType? ≠ some (accepted method) then
    [complaint r (accepted method)]
  else []

theorem contentTypeWarnings_eq (r : Response) (expected : String) :
    contentTypeWarnings r expected =
      if r.toldType? ≠ some expected then [complaint r expected] else [] := by
  rw [← map_mediaType_contentType?, contentTypeWarnings, complaint]
  cases r.contentType? with
  | none => rfl
  | some found =>
    by_cases h : mediaType found = expected
    · simp [h]
    · simp [h]

/-- A decoder complains as is due, whatever it makes of the body. -/
theorem warnings_decodeWith_eq_due {α : Type} (method : Method) (body : Response → Except ClientError α)
    (r : Response) :
    (decodeWith (expectedStatus method) (accepted method) body r).warnings = due method r := by
  unfold decodeWith statusFault? due
  by_cases hstatus : r.status = expectedStatus method
  · simp only [hstatus, if_true, true_and, contentTypeWarnings_eq]
  · simp only [hstatus, if_false, false_and]
    split
    · rfl
    · next h =>
        split at h <;> contradiction

end Client

/-! ### Complaints among the lines of the log -/

/-- What every complaint begins with. -/
def complaintOpenings : List String :=
  ["Response has no content type, expected ", "Unexpected content type '"]

def LogLine.isComplaint (line : LogLine) : Bool :=
  line.level == .warn && complaintOpenings.any (·.toList.isPrefixOf line.text.toList)

def Occurrence.complaint? : Occurrence → Option LogLine
  | .logged line => if line.isComplaint then some line else none
  | .sent _ | .emitted _ | .slept _ | .interrupted => none

theorem Client.isComplaint_of_mem_due {method : Http.Method} {r : Http.Response} {l : LogLine}
    (h : l ∈ due method r) : l.isComplaint = true := by
  unfold due at h
  split at h
  · obtain rfl := List.mem_singleton.mp h
    unfold complaint
    split <;> simp [LogLine.isComplaint, complaintOpenings]
  · contradiction

/-- An applicant's own lines begin otherwise. -/
theorem LogLine.IsOwn.isComplaint_eq_false {line : LogLine} (h : line.IsOwn) :
    line.isComplaint = false := by
  obtain ⟨level, text⟩ := line
  rcases h with h | ⟨-, rest, h⟩
  · dsimp only at h
    subst h
    rfl
  · dsimp only at h
    subst h
    simp [isComplaint, complaintOpenings, List.isPrefixOf, String.toList_append]

namespace World

def complaintsOf (trace : List Occurrence) : List LogLine := trace.filterMap Occurrence.complaint?

def withoutComplaints (trace : List Occurrence) : List Occurrence := trace.filter (·.complaint?.isNone)

theorem complaintsOf_append (a b : List Occurrence) :
    complaintsOf (a ++ b) = complaintsOf a ++ complaintsOf b :=
  List.filterMap_append

theorem withoutComplaints_append (a b : List Occurrence) :
    withoutComplaints (a ++ b) = withoutComplaints a ++ withoutComplaints b :=
  List.filter_append a b

variable {lines : List LogLine} (h : ∀ l ∈ lines, l.isComplaint = true)
include h

theorem complaintsOf_logged : complaintsOf (lines.map .logged) = lines := by
  induction lines with
  | nil => rfl
  | cons l rest ih =>
    obtain ⟨hl, hrest⟩ := List.forall_mem_cons.mp h
    have hkept : Occurrence.complaint? (.logged l) = some l := if_pos hl
    rw [complaintsOf, List.map_cons, List.filterMap_cons_some hkept]
    exact congrArg (l :: ·) (ih hrest)

theorem withoutComplaints_logged : withoutComplaints (lines.map .logged) = [] := by
  apply List.filter_eq_nil_iff.mpr
  intro o ho
  obtain ⟨l, hl, rfl⟩ := List.mem_map.mp ho
  simp [Occurrence.complaint?, h l hl]

omit h

/-- Neither requests nor events are complaints. -/
theorem requestsOf_withoutComplaints (trace : List Occurrence) :
    requestsOf (withoutComplaints trace) = requestsOf trace := by
  rw [withoutComplaints, requestsOf, requestsOf, List.filterMap_filter]
  refine congrArg (List.filterMap · trace) (funext fun o => ?_)
  cases o with
  | logged line => split <;> rfl
  | sent _ | emitted _ | slept _ | interrupted => rfl

theorem eventsOf_withoutComplaints (trace : List Occurrence) :
    eventsOf (withoutComplaints trace) = eventsOf trace := by
  rw [withoutComplaints, eventsOf, eventsOf, List.filterMap_filter]
  refine congrArg (List.filterMap · trace) (funext fun o => ?_)
  cases o with
  | logged line => split <;> rfl
  | sent _ | emitted _ | slept _ | interrupted => rfl

end World

/-! ### Two runs -/

/-- The answer without its headers. -/
def Http.Response.bare (r : Http.Response) : Http.Response := { r with headers := .empty }

/-- The step with the headers of its answer left out. -/
def ServerStep.bare (step : ServerStep) : ServerStep :=
  { step with reply := step.reply.map (Except.map Http.Response.bare) }

/-- Answers of the same status and with the same body. -/
def Http.Response.SameButHeaders (r r' : Http.Response) : Prop := r.bare = r'.bare

theorem Http.Response.rel_of_map_bare_eq {reply reply' : Option (Except ClientError Http.Response)}
    (h : reply.map (Except.map bare) = reply'.map (Except.map bare)) :
    Option.Rel (Agree SameButHeaders) reply reply' := by
  match reply, reply' with
  | none, none => exact .none
  | none, some _ => contradiction
  | some _, none => contradiction
  | some (.error e), some (.error e') =>
    cases h
    exact .some (.error e)
  | some (.ok r), some (.ok r') => exact .some (.ok (Except.ok.inj (Option.some.inj h)))
  | some (.error _), some (.ok _) => exact nomatch Option.some.inj h
  | some (.ok _), some (.error _) => exact nomatch Option.some.inj h

theorem ServerStep.alike_of_bare_eq {step step' : ServerStep} (h : step.bare = step'.bare) :
    step.Alike Http.Response.SameButHeaders step' := by
  obtain ⟨hfires, hdelay, hreply⟩ := ServerStep.mk.inj h
  exact ⟨hfires, hdelay, Http.Response.rel_of_map_bare_eq hreply⟩

/-- Scripts that differ in the headers of answers alone. -/
def SameButHeaders (script script' : List ServerStep) : Prop :=
  script.map ServerStep.bare = script'.map ServerStep.bare

theorem SameButHeaders.heads {script script' : List ServerStep} (h : SameButHeaders script script') :
    World.Heads Http.Response.SameButHeaders SameButHeaders script script' := by
  cases script with
  | nil =>
    obtain rfl := List.map_eq_nil_iff.mp h.symm
    exact .nil rfl
  | cons step rest =>
    cases script' with
    | nil => contradiction
    | cons step' rest' =>
      obtain ⟨hstep, hrest⟩ := List.cons.inj h
      exact .cons (ServerStep.alike_of_bare_eq hstep) hrest

/-- Traces that differ in complaints alone. -/
def SameButComplaints (trace trace' : List Occurrence) : Prop :=
  World.withoutComplaints trace = World.withoutComplaints trace'

theorem grows_sameButComplaints : Grows SameButComplaints := by
  intro trace trace' o h
  rw [SameButComplaints, World.withoutComplaints_append, World.withoutComplaints_append, h]

namespace Client

open Http World

variable {α : Type}

/-- What is read from an answer, besides complaints, is read from its status and its body. -/
theorem decodeWith_alike (method : Method) {body : Response → Except ClientError α}
    (hbody : ∀ r : Response, body r.bare = body r) :
    DecodesAlike Response.SameButHeaders SameButComplaints Eq
      (decodeWith (expectedStatus method) (accepted method) body)
      (decodeWith (expectedStatus method) (accepted method) body) where
  result r r' h := by
    have hread (r : Response) : (decodeWith (expectedStatus method) (accepted method) body r).result =
        (decodeWith (expectedStatus method) (accepted method) body r.bare).result := by
      have hstatus : statusFault? r.bare (expectedStatus method) = statusFault? r (expectedStatus method) :=
        rfl
      rw [decodeWith, decodeWith, hstatus, hbody]
      cases statusFault? r (expectedStatus method) <;> rfl
    rw [hread r, hread r', h]
    exact Agree.refl (fun _ => rfl) _
  warnings r r' _ trace trace' h := by
    have hdue (r : Response) : withoutComplaints ((due method r).map .logged) = [] :=
      withoutComplaints_logged fun _ hl => isComplaint_of_mem_due hl
    rw [warnings_decodeWith_eq_due, warnings_decodeWith_eq_due, SameButComplaints,
      withoutComplaints_append, withoutComplaints_append, hdue, hdue, List.append_nil, List.append_nil]
    exact h

/-- A call leads to the same result in worlds whose scripts differ in headers alone. -/
theorem call_abreast (c : Client) (method : Method) (path : String) (text : Option String)
    {decode : Response → Decoded α} {body : Response → Except ClientError α}
    (hdecode : decode = decodeWith (expectedStatus method) (accepted method) body)
    (hbody : ∀ r : Response, body r.bare = body r) :
    Abreast (fun _ => False) (Twins (fun _ => True) SameButHeaders SameButComplaints) Eq
      (c.call method path text decode) (c.call method path text decode) where
  keeps _ h := h
  runs _ _ h := by
    have halike := decodeWith_alike method hbody
    rw [← hdecode] at halike
    exact .inr (call_paired_self grows_sameButComplaints h h.scripts.heads halike)

theorem sideBySide_self (c : Client) :
    c.SideBySide (fun _ => False) (Twins (fun _ => True) SameButHeaders SameButComplaints) c where
  requestKey _ := by
    rw [requestKey_eq]
    exact c.call_abreast .post _ _ rfl fun _ => rfl
  inquire _ := by
    rw [inquire_eq]
    exact c.call_abreast .get _ _ rfl fun _ => rfl
  collect _ := by
    rw [collect_eq]
    exact c.call_abreast .patch _ _ rfl fun _ => rfl

end Client

open World

theorem lockstep_sameButHeaders :
    Step.Lockstep (fun _ => False) SameButHeaders SameButComplaints where
  idle _ _ _ h := h
  grows := grows_sameButComplaints
  length script script' h := by
    have hlength := congrArg List.length h
    rwa [List.length_map, List.length_map] at hlength

/-- Two runs of a fresh ticket go side by side. -/
theorem Applicant.run_sameButHeaders (a : Applicant) (handle : String) {w : World}
    {script : List ServerStep} (h : SameButHeaders w.script script) :
    Step.Matched (Twins (fun _ => True) SameButHeaders SameButComplaints) Eq (a.run.on (.fresh handle w))
      (a.run.on (.fresh handle { w with script })) := by
  have hparallel := run_parallel (lockstep_sameButHeaders.inStep a a.client) a.client.sideBySide_self
  have htwins : Twins (fun _ => True) SameButHeaders SameButComplaints { w with trace := [] }
      { w with script, trace := [] } :=
    .mk trivial h rfl
  exact (hparallel.runs (.new handle) _ _ htwins).resolve_left id

/-! ### The complaints of one run -/

/-- The complaints that are due about the answer of a step, if it has one. -/
def ServerStep.due (step : ServerStep) (method : Http.Method) : List LogLine :=
  match step.reply with
  | some (.ok r) => Client.due method r
  | some (.error _) | none => []

/-- The complaints that are due about the answers to requests, the steps of a script in order. -/
def dues (script : List ServerStep) (requests : List Request) : List LogLine :=
  (requests.zip script).flatMap fun (r, step) => step.due r.method

theorem dues_concat (script : List ServerStep) (requests : List Request) (r : Request) :
    dues script (requests ++ [r]) =
      dues script requests ++ dues (script.drop requests.length) [r] := by
  induction requests generalizing script with
  | nil => rfl
  | cons q rest ih =>
    cases script with
    | nil => rfl
    | cons step later =>
      have hlater := ih later
      rw [dues, dues] at hlater ⊢
      simp only [List.cons_append, List.zip_cons_cons, List.flatMap_cons, hlater, List.append_assoc,
        List.length_cons, List.drop_succ_cons]

theorem dues_map_calm (script : List ServerStep) (requests : List Request) :
    dues (script.map .calm) requests = dues script requests := by
  rw [dues, List.zip_map_right, List.flatMap_map]
  rfl

namespace World

/-- Nothing from `w` on is a request or a complaint, and a token that is fired stays so. -/
structure Passes (w w' : World) : Prop where
  idle : w.Idles w'
  complaints : complaintsOf w'.trace = complaintsOf w.trace

variable {script : List ServerStep} {w w' : World}

theorem Passes.trans {w'' : World} (h : w.Passes w') (h' : w'.Passes w'') : w.Passes w'' :=
  ⟨h.idle.trans h'.idle, h'.complaints.trans h.complaints⟩

theorem passes_record {o : Occurrence} (hidle : w.Idles (w.record o)) (ho : o.complaint? = none) :
    w.Passes (w.record o) where
  idle := hidle
  complaints := by
    rw [record, complaintsOf_append]
    simp [complaintsOf, ho]

theorem steady_passes (w : World) : Steady w.Passes where
  emitted v e h := h.trans {
    idle := idles_append rfl rfl rfl rfl (by simp : Occurrence.interrupted ∉ [.emitted e])
    complaints := by simp [record, complaintsOf, Occurrence.complaint?] }
  slept v ms h := h.trans (passes_record (idles_slept v ms) rfl)
  fire v h := h.trans {
    idle := idles_fire v
    complaints := by
      unfold World.fire
      split
      · rfl
      · simp [record, complaintsOf, Occurrence.complaint?] }
  advance v time h := h.trans ⟨idles_advance v time, rfl⟩
  readClock v h := h.trans ⟨idles_readClock v, rfl⟩

theorem Passes.refl (w : World) : w.Passes w := ⟨.refl w, rfl⟩

/-- Where a request stands in a trace that goes on for a while without requests. -/
theorem exists_of_idle_append {trace added before after : List Occurrence} {r : Request}
    (hnone : requestsOf added = []) (h : trace ++ added = before ++ .sent r :: after) :
    ∃ rest, trace = before ++ .sent r :: rest := by
  rcases List.append_eq_append_iff.mp h with ⟨mid, -, hadded⟩ | ⟨mid, htrace, hmid⟩
  · rw [hadded, requestsOf_append] at hnone
    simp [requestsOf] at hnone
  · cases mid with
    | nil =>
      rw [List.nil_append] at hmid
      rw [← hmid] at hnone
      simp [requestsOf] at hnone
    | cons o mid =>
      obtain ⟨rfl, -⟩ := List.cons.inj hmid
      exact ⟨mid, htrace⟩

/-- The requests so far took the first steps of the script. Whenever one of them was sent, all complaints
had been made that were due about the answers before it. -/
structure Wonders (script : List ServerStep) (w : World) : Prop where
  answered : w.script = script.drop w.requests.length
  earlier : ∀ before r after, w.trace = before ++ .sent r :: after →
    complaintsOf before = dues script (requestsOf before)

theorem Wonders.of_idles (h : w.Wonders script) (hidle : w.Idles w') : w'.Wonders script where
  answered := by rw [hidle.script, hidle.requests, h.answered]
  earlier before r after htrace := by
    obtain ⟨added, hadded, hnone, -⟩ := hidle.trace
    obtain ⟨rest, hrest⟩ := exists_of_idle_append hnone (hadded.symm.trans htrace)
    exact h.earlier before r rest hrest

/-- A request may be sent when no complaint is missing. -/
theorem Wonders.sending (h : w.Wonders script) (hmade : complaintsOf w.trace = dues script w.requests)
    (r : Request) : (w.sending r).Wonders script where
  answered := by
    change w.script.tail = _
    rw [h.answered, List.tail_drop]
    change _ = script.drop (w.record (.sent r)).requests.length
    rw [requests_record_sent, List.length_append, List.length_singleton]
  earlier before q after htrace := by
    change w.trace ++ [.sent r] = before ++ .sent q :: after at htrace
    rcases List.append_eq_append_iff.mp htrace with ⟨mid, hbefore, hmid⟩ | ⟨mid, hrest, hmid⟩
    · have hnil : mid = [] := by
        have hlength := congrArg List.length hmid
        simp only [List.length_append, List.length_cons, List.length_nil] at hlength
        exact List.eq_nil_of_length_eq_zero (by omega)
      rw [hbefore, hnil, List.append_nil]
      exact hmade
    · cases mid with
      | nil =>
        rw [List.append_nil] at hrest
        rw [← hrest]
        exact hmade
      | cons o mid =>
        obtain ⟨rfl, -⟩ := List.cons.inj hmid
        exact h.earlier before q mid hrest

/-- All complaints are made that are due, or the token is fired and the last one may be missing. -/
structure Complains (script : List ServerStep) (w : World) : Prop extends w.Wonders script where
  now : complaintsOf w.trace = dues script w.requests ∨
    w.isFired = true ∧ complaintsOf w.trace = dues script w.requests.dropLast

theorem Idles.isFired (h : w.Idles w') (hfired : w.isFired = true) : w'.isFired = true := by
  obtain ⟨_, -, -, hend⟩ := h.trace
  exact hend.mpr (.inl hfired)

theorem Complains.of_passes (h : w.Complains script) (hpass : w.Passes w') : w'.Complains script where
  toWonders := h.toWonders.of_idles hpass.idle
  now := by
    rw [hpass.complaints, hpass.idle.requests]
    exact h.now.imp_right fun ⟨hfired, howed⟩ => ⟨hpass.idle.isFired hfired, howed⟩

theorem Shortens.isFired {α : Type} {out whole : Arrival α × World} (h : Shortens out whole)
    (hcut : out.1 = .interrupted) : out.2.isFired = true := by
  cases h with
  | same hother => exact absurd hcut hother
  | cut hfired _ => exact hfired

/-- What came of a request that took a step of the script, with the complaint about it still to be made. -/
structure Owes (script : List ServerStep) (past : List LogLine) (step : ServerStep)
    (method : Http.Method) (out : Arrival (Except ClientError Http.Response) × World) : Prop
    extends out.2.Wonders script where
  made : complaintsOf out.2.trace = past
  missing : dues script out.2.requests.dropLast = past
  all : dues script out.2.requests = past ++ step.due method
  reply : ∀ reply, out.1 = .value reply → step.reply = some reply
  silent : out.1 = .never → step.reply = none
  fired : out.1 = .interrupted → out.2.isFired = true

/-- An answer is finished with its complaints, or the token fires before there is an answer. -/
theorem Owes.finish {α : Type} {past : List LogLine} {step : ServerStep} {method : Http.Method}
    {out : Arrival (Except ClientError Http.Response) × World} (h : Owes script past step method out)
    (body : Http.Response → Except ClientError α) :
    (Client.finish (Client.decodeWith (Client.expectedStatus method) (Client.accepted method) body)
      out).2.Complains script := by
  obtain ⟨arrival, w⟩ := out
  obtain ⟨hwonders, hmade, hmissing, hall, hreply, hsilent, hfired⟩ := h
  dsimp only at hwonders hmade hmissing hall hreply hsilent hfired
  rcases arrival with (e | answer) | _ | _
  · refine ⟨hwonders, .inl ?_⟩
    change complaintsOf w.trace = dues script w.requests
    rw [hmade, hall, ServerStep.due, hreply _ rfl, List.append_nil]
  · refine ⟨hwonders.of_idles (idles_logAll w _), .inl ?_⟩
    change complaintsOf (w.trace ++ _) = dues script (w.logAll _).requests
    rw [complaintsOf_append, (idles_logAll w _).requests, hmade, hall, ServerStep.due, hreply _ rfl,
      Client.warnings_decodeWith_eq_due, complaintsOf_logged fun _ => Client.isComplaint_of_mem_due]
  · exact ⟨hwonders, .inr ⟨hfired rfl, hmade.trans hmissing.symm⟩⟩
  · refine ⟨hwonders, .inl ?_⟩
    change complaintsOf w.trace = dues script w.requests
    rw [hmade, hall, ServerStep.due, hsilent rfl, List.append_nil]

theorem Wonders.receive (h : w.Wonders script) (hmade : complaintsOf w.trace = dues script w.requests)
    (r : Request) {step : ServerStep} {rest : List ServerStep} (hscript : w.script = step :: rest) :
    Owes script (dues script w.requests) step r.method ((w.sending r).receive step) := by
  have hpass := (steady_passes (w.sending r)).receive (.refl _) step
  have hsent : complaintsOf (w.sending r).trace = complaintsOf w.trace :=
    (complaintsOf_append w.trace [.sent r]).trans (List.append_nil _)
  have hrequests : ((w.sending r).receive step).2.requests = w.requests ++ [r] :=
    hpass.idle.requests.trans (requests_record_sent w r)
  have hall : dues script (w.requests ++ [r]) = dues script w.requests ++ step.due r.method := by
    rw [dues_concat, ← h.answered, hscript]
    exact congrArg (dues script w.requests ++ ·) (List.append_nil (step.due r.method))
  obtain ⟨-, hreply, hsilent⟩ := receive_spec (w.sending r) step
  exact {
    toWonders := (h.sending hmade r).of_idles hpass.idle
    made := hpass.complaints.trans (hsent.trans hmade)
    missing := by rw [hrequests, List.dropLast_concat]
    all := by rw [hrequests, hall]
    reply := hreply
    silent := hsilent
    fired := (receive_shortens (w.sending r) step).isFired }

theorem Wonders.finish {α : Type} (h : w.Wonders script)
    (hmade : complaintsOf w.trace = dues script w.requests) (r : Request)
    (body : Http.Response → Except ClientError α) :
    (Client.finish (Client.decodeWith (Client.expectedStatus r.method) (Client.accepted r.method) body)
      (w.send r)).2.Complains script := by
  cases hcheck : w.transport.check r with
  | error e =>
    rw [send_of_refused hcheck]
    exact ⟨h, .inl hmade⟩
  | ok _ =>
    cases hscript : w.script with
    | nil =>
      rw [send_of_script_nil hcheck hscript]
      refine ⟨h.sending hmade r, .inl ?_⟩
      change complaintsOf (w.trace ++ [.sent r]) = dues script (w.record (.sent r)).requests
      rw [complaintsOf_append, hmade, requests_record_sent, dues_concat, ← h.answered, hscript]
      rfl
    | cons step rest =>
      rw [send_of_script_cons hcheck hscript]
      exact (h.receive hmade r hscript).finish body

theorem Complains.call {α : Type} (h : w.Complains script) (hcalm : w.isFired = false) (c : Client)
    (method : Http.Method) (path : String) (text : Option String)
    (body : Http.Response → Except ClientError α) :
    (c.call method path text (Client.decodeWith (Client.expectedStatus method) (Client.accepted method) body)
      w).2.Complains script := by
  have hread : w.readClock.2.Complains script := h.of_passes ⟨idles_readClock w, rfl⟩
  have hmade : complaintsOf w.trace = dues script w.requests := by
    refine h.now.resolve_right fun hfired => ?_
    rw [hfired.1] at hcalm
    contradiction
  rw [Client.call_eq]
  cases hprepare : c.prepare method path text w.readClock.1 with
  | error e => exact hread
  | ok r =>
    obtain ⟨rfl, -⟩ := Client.prepare_eq_ok hprepare
    exact hread.toWonders.finish hmade r body

end World

theorem Session.lasting_complains (c : Client) (script : List ServerStep) :
    Lasting c (·.world.Complains script) where
  log s level text hown h := by
    refine h.of_passes (passes_record (idles_log s.world level text) ?_)
    rw [Occurrence.complaint?, hown.isComplaint_eq_false]
    rfl
  tell s e h := h.of_passes ((steady_passes s.world).tell (.refl _) e)
  sleep s ms h := h.of_passes ((steady_passes s.world).wait (passes_record (idles_slept s.world ms) rfl) ms)
  requestKey s _ hcalm h := by
    dsimp only
    exact h.call hcalm c .post _ _ Client.readId
  inquire s _ hcalm h := by
    dsimp only
    exact h.call hcalm c .get _ _ Client.readState
  collect s _ hcalm h := by
    dsimp only
    exact h.call hcalm c .patch _ _ Client.readSecret
  fail _ h := h
  move _ _ h := h

theorem World.complains_fresh (w : World) : { w with trace := [] }.Complains w.script where
  answered := rfl
  earlier before r after h := by
    have hlength := congrArg List.length h
    simp at hlength
  now := .inl rfl

namespace Applicant

/-- A run makes its complaints in time, and none is missing but perhaps the last one of a cancelled run. -/
theorem run_complains (a : Applicant) (handle : String) (w : World) :
    (a.run.on (.fresh handle w)).2.world.Complains w.script :=
  (run_keeps (Session.lasting_complains a.client w.script) fun _ _ h => h).on w.complains_fresh

/-- No complaint is missing in a run that is not cancelled. -/
theorem complaintsOf_run {a : Applicant} {handle : String} {w : World}
    (h : (a.run.on (.fresh handle w)).1 ≠ .error (.error .cancelled)) :
    complaintsOf (a.run.on (.fresh handle w)).2.world.trace =
      dues w.script (a.run.on (.fresh handle w)).2.world.requests := by
  have hcalm := (a.run_complains handle w.calm).now
  have hshort : Step.Shortened (a.run.on (.fresh handle w)) (a.run.on (.fresh handle w.calm)) :=
    (run_interruptible (a := a)).shortens (.fresh handle w)
  revert h hcalm hshort
  generalize a.run.on (.fresh handle w) = ending
  generalize a.run.on (.fresh handle w.calm) = whole
  intro h hcalm hshort
  cases hshort with
  | cut _ _ => exact absurd rfl h
  | @same result s _ =>
    -- nobody fires the token of a calm world
    have hmade := hcalm.resolve_right fun hfired => Bool.false_ne_true hfired.1
    have hcomplaints : complaintsOf s.calm.world.trace = complaintsOf s.world.trace := by
      change complaintsOf (s.world.trace.filter _) = _
      rw [complaintsOf, complaintsOf, List.filterMap_filter]
      refine congrArg (List.filterMap · s.world.trace) (funext fun o => ?_)
      cases o <;> rfl
    have hrequests : s.calm.world.requests = s.world.requests := by
      change requestsOf s.world.calm.trace = requestsOf s.world.trace
      rw [← requestsOf_talk, talk_calm, requestsOf_talk]
    calc complaintsOf s.world.trace = complaintsOf s.calm.world.trace := hcomplaints.symm
      _ = dues (w.script.map .calm) s.calm.world.requests := hmade
      _ = dues w.script s.world.requests := by rw [dues_map_calm, hrequests]

/-- A call that gets an answer makes the complaints that are due about it. -/
theorem call_complains {α : Type} {c : Client} {method : Http.Method} {path : String}
    {text : Option String} {w w' : World} {r : Request} {answer : Http.Response}
    (hprepare : c.prepare method path text w.readClock.1 = .ok r)
    (hsend : w.readClock.2.send r = (.value (.ok answer), w'))
    (body : Http.Response → Except ClientError α) :
    (c.call method path text (Client.decodeWith (Client.expectedStatus method) (Client.accepted method) body)
      w).2 = w'.logAll (Client.due method answer) := by
  rw [Client.call_eq, hprepare]
  dsimp only
  rw [hsend, ← Client.warnings_decodeWith_eq_due method body]
  rfl

/-- Headers of answers make no difference to a run but for its complaints. Each answer of the expected
status has its one complaint exactly when its first content-type header is missing or tells another type
than the one asked for, and other answers have none: a call that gets an answer makes the complaint, it is
made before the next request is sent, and when the run is not cancelled all of them are. -/
theorem run_blind_to_headers (a : Applicant) (handle : String) (w : World) (script : List ServerStep)
    (h : SameButHeaders w.script script) :
    let ending := a.run.on (.fresh handle w)
    let ending' := a.run.on (.fresh handle { w with script })
    let trace := ending.2.world.trace
    let trace' := ending'.2.world.trace
    (ending.1 = ending'.1 ∧ ending.2.ticket = ending'.2.ticket ∧ requestsOf trace = requestsOf trace' ∧
      eventsOf trace = eventsOf trace' ∧ withoutComplaints trace = withoutComplaints trace') ∧
    (∀ v v' r answer, v.readClock.2.send r = (.value (.ok answer), v') →
      (∀ key, a.client.prepare .post Client.requestsPath (some (Client.createBody key)) v.readClock.1 = .ok r →
        (a.client.requestKey key v).2 = v'.logAll (Client.due .post answer)) ∧
      (∀ id, a.client.prepare .get (Client.requestPath id) none v.readClock.1 = .ok r →
        (a.client.inquire id v).2 = v'.logAll (Client.due .get answer)) ∧
      ∀ id, a.client.prepare .patch (Client.requestPath id) (some Client.fulfillBody) v.readClock.1 = .ok r →
        (a.client.collect id v).2 = v'.logAll (Client.due .patch answer)) ∧
    (∀ before r after, trace = before ++ .sent r :: after →
      complaintsOf before = dues w.script (requestsOf before)) ∧
    (ending.1 ≠ .error (.error .cancelled) → complaintsOf trace = dues w.script (requestsOf trace)) ∧
    (complaintsOf trace = dues w.script (requestsOf trace) ∨
      complaintsOf trace = dues w.script (requestsOf trace).dropLast) := by
  intro ending ending' trace trace'
  obtain ⟨hresult, hticket, hworlds⟩ := a.run_sameButHeaders handle h
  have hcomplains := a.run_complains handle w
  have htraces : withoutComplaints trace = withoutComplaints trace' := hworlds.traces
  refine ⟨⟨hresult.eq, hticket, ?_, ?_, htraces⟩, ?_, hcomplains.earlier, complaintsOf_run, ?_⟩
  · rw [← requestsOf_withoutComplaints, htraces, requestsOf_withoutComplaints]
  · rw [← eventsOf_withoutComplaints, htraces, eventsOf_withoutComplaints]
  · intro v v' r answer hsend
    exact ⟨fun _ hr => call_complains hr hsend Client.readId,
      fun _ hr => call_complains hr hsend Client.readState,
      fun _ hr => call_complains hr hsend Client.readSecret⟩
  · exact hcomplains.now.imp_right And.right

/-- One server tells no types at all, and another tells the right one in its own way, a wrong one and then
the right one, and the right one but for a blank. -/
theorem run_blind_to_headers_loopback :
    let reply (headers : Http.Headers) (status : UInt16) (body : String) : ServerStep :=
      ⟨false, 0, some (.ok ⟨status, headers, Text.Utf8.encodeString body⟩)⟩
    let created := Text.braced "\"id\": 7"
    let accepted := Text.braced "\"state\": \"ACCEPTED\""
    let silent := [reply .empty 201 created, reply .empty 200 accepted, reply .empty 200 "sesame\n"]
    let talkative := [
      reply ⟨[⟨"Content-TYPE", ": Application/JSON ; charset=utf-8\r\n"⟩], by decide⟩ 201 created,
      reply ⟨[⟨"content-type", "text/html"⟩, ⟨"content-type", "application/json"⟩], by decide⟩ 200 accepted,
      reply ⟨[⟨"content-type", "text/plain\t\n"⟩], by decide⟩ 200 "sesame\n"]
    let w : World :=
      ⟨⟨fun _ => .ok (), .network none⟩, fun _ => default, 0, talkative, 0, ⟨false, none, none⟩, 0, []⟩
    let a : Applicant := ⟨Client.loopback, ⟨1000, none⟩, true⟩
    SameButHeaders w.script silent ∧
      (a.run.on (.fresh "disk" { w with script := silent })).1 = .ok "sesame" ∧
      complaintsOf (a.run.on (.fresh "disk" w)).2.world.trace =
        [⟨.warn, "Unexpected content type 'text/html', expected application/json"⟩] := by
  intro reply created accepted silent talkative w a
  have hsame : SameButHeaders w.script silent := rfl
  have hok : (a.run.on (.fresh "disk" w)).1.toOption = some "sesame" := by decide +kernel
  obtain ⟨⟨hresult, -⟩, -, -, hcomplaints, -⟩ := run_blind_to_headers a "disk" w silent hsame
  cases hending : (a.run.on (.fresh "disk" w)).1 with
  | error e =>
    rw [hending] at hok
    contradiction
  | ok secret =>
    rw [hending] at hok hresult hcomplaints
    refine ⟨hsame, hresult.symm.trans (congrArg Except.ok (Option.some.inj hok)), ?_⟩
    rw [hcomplaints nofun]
    decide +kernel

end Applicant

end KeyApproval
