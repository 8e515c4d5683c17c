import KeyApproval.Proofs.Lasting

/-!
# Parallel runs

Whether a part of the world has an influence on a run is told by two runs side by side, in worlds that
differ in that part alone. Here the worlds are twins: all is the same in them but what the server is going to
answer and what has happened so far, and both of these are related. As long as the calls keep them twins and
give related results, all steps do, and the two runs end alike.
-/

namespace KeyApproval

variable {α β γ δ : Type}

/-! ### Twin worlds -/

/-- Both are values, and related, or both are the same error. -/
inductive Agree {ε : Type} (Q : α → β → Prop) : Except ε α → Except ε β → Prop where
  | ok {a : α} {b : β} (h : Q a b) : Agree Q (.ok a) (.ok b)
  | error (e : ε) : Agree Q (.error e) (.error e)

theorem Agree.eq {ε : Type} {x y : Except ε α} (h : Agree Eq x y) : x = y := by
  cases h with
  | ok h => rw [h]
  | error e => rfl

theorem Agree.refl {ε : Type} {Q : α → α → Prop} (hQ : ∀ a, Q a a) (x : Except ε α) : Agree Q x x := by
  cases x with
  | ok a => exact .ok (hQ a)
  | error e => exact .error e

/-- Both arrive, and are related, or both end in the same other way. -/
inductive Arrival.Alike (Q : α → β → Prop) : Arrival α → Arrival β → Prop where
  | value {a : α} {b : β} (h : Q a b) : Alike Q (.value a) (.value b)
  | interrupted : Alike Q .interrupted .interrupted
  | never : Alike Q .never .never

theorem Arrival.Alike.refl {Q : α → α → Prop} (hQ : ∀ a, Q a a) (x : Arrival α) : x.Alike Q x := by
  cases x with
  | value a => exact .value (hQ a)
  | interrupted => exact .interrupted
  | never => exact .never

theorem Arrival.Alike.eq {ε : Type} {x y : Arrival (Except ε α)} (h : x.Alike (Agree Eq) y) : x = y := by
  cases h with
  | value h => rw [h.eq]
  | interrupted => rfl
  | never => rfl

/-- Traces that are related stay so when the same happens in both. -/
def Grows (T : List Occurrence → List Occurrence → Prop) : Prop :=
  ∀ trace trace' o, T trace trace' → T (trace ++ [o]) (trace' ++ [o])

theorem Grows.append {T : List Occurrence → List Occurrence → Prop} (hT : Grows T)
    {trace trace' : List Occurrence} (h : T trace trace') (added : List Occurrence) :
    T (trace ++ added) (trace' ++ added) := by
  induction added generalizing trace trace' with
  | nil => simpa using h
  | cons o rest ih =>
    have hlater := ih (hT trace trace' o h)
    simpa only [List.append_assoc, List.singleton_append] using hlater

/-- Steps of the server that do the same at the same time, and whose answers are related. -/
structure ServerStep.Alike (A : Http.Response → Http.Response → Prop) (step step' : ServerStep) : Prop where
  firesToken : step.firesToken = step'.firesToken
  delayMs : step.delayMs = step'.delayMs
  reply : Option.Rel (Agree A) step.reply step'.reply

theorem ServerStep.alike_self {A : Http.Response → Http.Response → Prop} (hA : ∀ r, A r r)
    (step : ServerStep) : step.Alike A step := by
  refine ⟨rfl, rfl, ?_⟩
  cases step.reply with
  | none => exact .none
  | some reply => exact .some (Agree.refl hA reply)

namespace World

variable {K : Transport → Prop} {S : List ServerStep → List ServerStep → Prop}
  {T : List Occurrence → List Occurrence → Prop} {A : Http.Response → Http.Response → Prop}
  {W : World → World → Prop} {v w : World}

/-- The same world, with a transport of one kind, but for the script and the trace, which are related. -/
inductive Twins (K : Transport → Prop) (S : List ServerStep → List ServerStep → Prop)
    (T : List Occurrence → List Occurrence → Prop) (v : World) : World → Prop where
  | mk {script : List ServerStep} {trace : List Occurrence} (hkind : K v.transport)
      (hscript : S v.script script) (htrace : T v.trace trace) : Twins K S T v { v with script, trace }

/-- Both scripts are at their end, or they begin with like steps. -/
inductive Heads (A : Http.Response → Http.Response → Prop) (S : List ServerStep → List ServerStep → Prop) :
    List ServerStep → List ServerStep → Prop where
  | nil (h : S [] []) : Heads A S [] []
  | cons {step step' : ServerStep} {rest rest' : List ServerStep} (hstep : step.Alike A step')
      (hrest : S rest rest') : Heads A S (step :: rest) (step' :: rest')

/-- What comes of two actions: alike arrivals in related worlds. -/
structure Paired (W : World → World → Prop) (Q : α → β → Prop) (out : Arrival α × World)
    (out' : Arrival β × World) : Prop where
  arrival : out.1.Alike Q out'.1
  worlds : W out.2 out'.2

namespace Twins

theorem isFired (h : Twins K S T v w) : v.isFired = w.isFired := by
  cases h
  rfl

theorem transport (h : Twins K S T v w) : v.transport = w.transport := by
  cases h
  rfl

theorem scripts (h : Twins K S T v w) : S v.script w.script := by
  cases h with
  | mk _ hscript _ => exact hscript

theorem kind (h : Twins K S T v w) : K v.transport := by
  cases h with
  | mk hkind _ _ => exact hkind

theorem traces (h : Twins K S T v w) : T v.trace w.trace := by
  cases h with
  | mk _ _ htrace => exact htrace

theorem readClock (h : Twins K S T v w) :
    v.readClock.1 = w.readClock.1 ∧ Twins K S T v.readClock.2 w.readClock.2 := by
  cases h with
  | mk hkind hscript htrace => exact ⟨rfl, .mk (v := v.readClock.2) hkind hscript htrace⟩

theorem advance (h : Twins K S T v w) (time : Nat) :
    Twins K S T { v with nowMs := time } { w with nowMs := time } := by
  cases h with
  | mk hkind hscript htrace => exact .mk (v := { v with nowMs := time }) hkind hscript htrace

section Grows

variable (hT : Grows T)
include hT

theorem record (h : Twins K S T v w) (o : Occurrence) : Twins K S T (v.record o) (w.record o) := by
  cases h with
  | mk hkind hscript htrace => exact .mk (v := v.record o) hkind hscript (hT _ _ o htrace)

theorem fire (h : Twins K S T v w) : Twins K S T v.fire w.fire := by
  have hboth := h.isFired
  by_cases hfired : v.isFired = true
  · have hfired' : w.isFired = true := hboth ▸ hfired
    rwa [World.fire, if_pos hfired, World.fire, if_pos hfired']
  · have hfired' : ¬w.isFired = true := hboth ▸ hfired
    rw [World.fire, if_neg hfired, World.fire, if_neg hfired']
    cases h with
    | mk hkind hscript htrace =>
      exact .mk (v := { v.record .interrupted with token := { v.token with fired := true } }) hkind hscript
        (hT _ _ _ htrace)

theorem tell (h : Twins K S T v w) (e : Event) : Twins K S T (v.tell e) (w.tell e) := by
  cases h with
  | mk hkind hscript htrace =>
    have hemitted := Twins.mk (v := { v.record (.emitted e) with events := v.events + 1 }) hkind hscript
      (hT _ _ (.emitted e) htrace)
    unfold World.tell
    dsimp only
    split
    · exact hemitted.fire hT
    · exact hemitted

theorem fireAt (h : Twins K S T v w) (time : Nat) : Twins K S T (v.fireAt time) (w.fireAt time) := by
  have hfire := (h.fire hT).advance (max time v.nowMs)
  cases h with
  | mk hkind hscript htrace => exact hfire

theorem wait (h : Twins K S T v w) (ms : Nat) : Paired (Twins K S T) Eq (v.wait ms) (w.wait ms) := by
  have hboth := h.isFired
  have hfireAt := h.fireAt hT
  have hlater := h.advance (v.nowMs + ms)
  by_cases hms : ms = 0
  · rw [World.wait, if_pos hms, World.wait, if_pos hms]
    exact ⟨.value rfl, h⟩
  by_cases hfired : v.isFired = true
  · have hfired' : w.isFired = true := hboth ▸ hfired
    rw [World.wait, if_neg hms, if_pos hfired, World.wait, if_neg hms, if_pos hfired']
    exact ⟨.interrupted, h⟩
  · have hfired' : ¬w.isFired = true := hboth ▸ hfired
    rw [World.wait, if_neg hms, if_neg hfired, World.wait, if_neg hms, if_neg hfired']
    cases h with
    | mk hkind hscript htrace =>
      dsimp only
      split
      · split
        · exact ⟨.interrupted, hfireAt _⟩
        · exact ⟨.value rfl, hlater⟩
      · exact ⟨.value rfl, hlater⟩

theorem waitForToken {Q : α → β → Prop} (h : Twins K S T v w) :
    Paired (Twins K S T) Q v.waitForToken w.waitForToken := by
  have hboth := h.isFired
  have hfireAt := h.fireAt hT
  by_cases hfired : v.isFired = true
  · have hfired' : w.isFired = true := hboth ▸ hfired
    rw [World.waitForToken, if_pos hfired, World.waitForToken, if_pos hfired']
    exact ⟨.interrupted, h⟩
  · have hfired' : ¬w.isFired = true := hboth ▸ hfired
    rw [World.waitForToken, if_neg hfired, World.waitForToken, if_neg hfired']
    cases h with
    | mk hkind hscript htrace =>
      dsimp only
      split
      · exact ⟨.interrupted, hfireAt _⟩
      · exact ⟨.never, .mk hkind hscript htrace⟩

theorem receive (h : Twins K S T v w) {step step' : ServerStep} (hstep : step.Alike A step') :
    Paired (Twins K S T) (Agree A) (v.receive step) (w.receive step') := by
  have hstart : Twins K S T (if step.firesToken then v.fire else v)
      (if step'.firesToken then w.fire else w) := by
    rw [← hstep.firesToken]
    split
    · exact h.fire hT
    · exact h
  have hwaited := hstart.wait hT step.delayMs
  have hreply := hstep.reply
  unfold World.receive
  rw [← hstep.delayMs]
  revert hwaited
  generalize (if step.firesToken then v.fire else v).wait step.delayMs = out
  generalize (if step'.firesToken then w.fire else w).wait step.delayMs = out'
  intro ⟨harrival, hworlds⟩
  obtain ⟨arrival, v'⟩ := out
  obtain ⟨arrival', w'⟩ := out'
  dsimp only at harrival hworlds ⊢
  cases harrival with
  | value _ =>
    revert hreply
    generalize step.reply = reply
    generalize step'.reply = reply'
    intro hreply
    cases hreply with
    | some hanswer => exact ⟨.value hanswer, hworlds⟩
    | none => exact hworlds.waitForToken hT
  | interrupted => exact ⟨.interrupted, hworlds⟩
  | never => exact ⟨.never, hworlds⟩

/-- The request is refused in both worlds, or it takes the next step of each script. -/
theorem send (h : Twins K S T v w) {r r' : Request} (hcheck : v.transport.check r = v.transport.check r')
    (hsent : T (v.trace ++ [.sent r]) (w.trace ++ [.sent r'])) (hheads : Heads A S v.script w.script) :
    Paired (Twins K S T) (Agree A) (v.send r) (w.send r') := by
  have htransport := h.transport
  have hcheck' : w.transport.check r' = v.transport.check r := by rw [← htransport, hcheck]
  cases hchecked : v.transport.check r with
  | error e =>
    rw [send_of_refused hchecked, send_of_refused (hcheck'.trans hchecked)]
    exact ⟨.value (.error e), h⟩
  | ok _ =>
    have hsending (hrest : S v.script.tail w.script.tail) : Twins K S T (v.sending r) (w.sending r') := by
      cases h with
      | mk hkind _ _ => exact .mk (v := v.sending r) hkind hrest hsent
    generalize hscript : v.script = script at hheads
    generalize hscript' : w.script = script' at hheads
    cases hheads with
    | nil hnil =>
      rw [send_of_script_nil hchecked hscript, send_of_script_nil (hcheck'.trans hchecked) hscript',
        ← htransport]
      exact ⟨.value (.error _), hsending (by rwa [hscript, hscript'])⟩
    | cons hstep hrest =>
      rw [send_of_script_cons hchecked hscript, send_of_script_cons (hcheck'.trans hchecked) hscript']
      exact (hsending (by rwa [hscript, hscript'])).receive hT hstep

end Grows

end Twins

end World

/-! ### Calls -/

namespace Client

open World

variable {K : Transport → Prop} {S : List ServerStep → List ServerStep → Prop}
  {T : List Occurrence → List Occurrence → Prop} {A : Http.Response → Http.Response → Prop}
  {Q : α → β → Prop} {v w : World}

/-- From related answers the decoders read related results, and what they wonder about keeps traces
related. -/
structure DecodesAlike (A : Http.Response → Http.Response → Prop)
    (T : List Occurrence → List Occurrence → Prop) (Q : α → β → Prop)
    (decode : Http.Response → Decoded α) (decode' : Http.Response → Decoded β) : Prop where
  result : ∀ r r', A r r' → Agree Q (decode r).result (decode' r').result
  warnings : ∀ r r', A r r' → ∀ trace trace', T trace trace' →
    T (trace ++ (decode r).warnings.map .logged) (trace' ++ (decode' r').warnings.map .logged)

theorem decodesAlike_self (hT : Grows T) (decode : Http.Response → Decoded α) :
    DecodesAlike Eq T Eq decode decode where
  result r r' h := by
    rw [h]
    exact Agree.refl (fun _ => rfl) _
  warnings r r' h trace trace' htraces := by
    rw [h]
    exact hT.append htraces _

theorem finish_paired {decode : Http.Response → Decoded α} {decode' : Http.Response → Decoded β}
    (hdecode : DecodesAlike A T Q decode decode')
    {out out' : Arrival (Except ClientError Http.Response) × World}
    (h : Paired (Twins K S T) (Agree A) out out') :
    Paired (Twins K S T) (Agree Q) (finish decode out) (finish decode' out') := by
  obtain ⟨arrival, v⟩ := out
  obtain ⟨arrival', w⟩ := out'
  obtain ⟨harrival, hworlds⟩ := h
  dsimp only at harrival hworlds
  cases harrival with
  | interrupted => exact ⟨.interrupted, hworlds⟩
  | never => exact ⟨.never, hworlds⟩
  | value hreply =>
    cases hreply with
    | error e => exact ⟨.value (.error e), hworlds⟩
    | @ok r r' hanswer =>
      refine ⟨.value (hdecode.result r r' hanswer), ?_⟩
      cases hworlds with
      | mk hkind hscript htrace =>
        exact .mk (v := v.logAll (decode r).warnings) hkind hscript (hdecode.warnings r r' hanswer _ _ htrace)

/-- Calls of two clients are alike when their requests are taken alike and the scripts go on alike. -/
theorem call_paired {c d : Client} {method : Http.Method} {path : String} {body : Option String}
    {decode : Http.Response → Decoded α} {decode' : Http.Response → Decoded β} (hT : Grows T)
    (h : Twins K S T v w)
    (hprepare : ∀ now, Agree (fun r r' => v.transport.check r = v.transport.check r' ∧
      T (v.trace ++ [.sent r]) (w.trace ++ [.sent r'])) (c.prepare method path body now)
      (d.prepare method path body now))
    (hheads : Heads A S v.script w.script) (hdecode : DecodesAlike A T Q decode decode') :
    Paired (Twins K S T) (Agree Q) (c.call method path body decode v)
      (d.call method path body decode' w) := by
  obtain ⟨hnow, hclock⟩ := h.readClock
  have hprepared := hprepare v.readClock.1
  rw [call_eq, call_eq, ← hnow]
  revert hprepared
  generalize c.prepare method path body v.readClock.1 = prepared
  generalize d.prepare method path body v.readClock.1 = prepared'
  intro hprepared
  cases hprepared with
  | error e => exact ⟨.value (.error e), hclock⟩
  | @ok r r' hrequest => exact finish_paired hdecode (hclock.send hT hrequest.1 hrequest.2 hheads)

/-- One client makes the same requests in both worlds. -/
theorem call_paired_self {c : Client} {method : Http.Method} {path : String} {body : Option String}
    {decode : Http.Response → Decoded α} {decode' : Http.Response → Decoded β} (hT : Grows T)
    (h : Twins K S T v w) (hheads : Heads A S v.script w.script)
    (hdecode : DecodesAlike A T Q decode decode') :
    Paired (Twins K S T) (Agree Q) (c.call method path body decode v)
      (c.call method path body decode' w) :=
  call_paired hT h (fun _ => Agree.refl (fun r => ⟨rfl, hT _ _ (.sent r) h.traces⟩) _) hheads hdecode

end Client

/-! ### Parallel steps -/

/-- From related worlds the two actions lead to alike ends, unless the first of them leaves the common way.
A world that is off the way stays so. -/
structure World.Abreast (Off : World → Prop) (W : World → World → Prop) (Q : α → β → Prop)
    (action : World → Arrival (Except ClientError α) × World)
    (action' : World → Arrival (Except ClientError β) × World) : Prop where
  keeps : ∀ w, Off w → Off (action w).2
  runs : ∀ v w, W v w → Off (action v).2 ∨ Paired W (Agree Q) (action v) (action' w)

namespace Client

open World

variable {Off : World → Prop} {W : World → World → Prop} {c d : Client}

/-- What two clients call for leads to the same ends. -/
structure SideBySide (Off : World → Prop) (W : World → World → Prop) (c d : Client) : Prop where
  requestKey : ∀ handle, Abreast Off W Eq (c.requestKey handle) (d.requestKey handle)
  inquire : ∀ id, Abreast Off W Eq (c.inquire id) (d.inquire id)
  collect : ∀ id, Abreast Off W Eq (c.collect id) (d.collect id)

/-- It is enough that all calls do, whatever the request is and however the answer is read. -/
theorem sideBySide_of_call (hcall : ∀ {α : Type} (method : Http.Method) (path : String)
    (body : Option String) (decode : Http.Response → Decoded α),
      Abreast Off W Eq (c.call method path body decode) (d.call method path body decode)) :
    SideBySide Off W c d where
  requestKey handle := by
    rw [requestKey_eq, requestKey_eq]
    exact hcall .post _ _ _
  inquire id := by
    rw [inquire_eq, inquire_eq]
    exact hcall .get _ _ _
  collect id := by
    rw [collect_eq, collect_eq]
    exact hcall .patch _ _ _

end Client

namespace Step

/-- Both end alike, with the same ticket and in related worlds. -/
structure Matched (W : World → World → Prop) (Q : α → β → Prop) (out : Except Stop α × Session)
    (out' : Except Stop β × Session) : Prop where
  result : Agree Q out.1 out'.1
  ticket : out.2.ticket = out'.2.ticket
  worlds : W out.2.world out'.2.world

/-- The same for steps. -/
structure Parallel (Off : World → Prop) (W : World → World → Prop) (Q : α → β → Prop) (x : Step α)
    (y : Step β) : Prop where
  keeps : x.Keeps (Off ·.world)
  runs : ∀ ticket v w, W v w →
    Off (x.on ⟨ticket, v⟩).2.world ∨ Matched W Q (x.on ⟨ticket, v⟩) (y.on ⟨ticket, w⟩)

namespace Parallel

variable {Off : World → Prop} {W : World → World → Prop} {Q : α → β → Prop} {R : γ → δ → Prop}
  {x : Step α} {y : Step β} {f : α → Step γ} {g : β → Step δ}

theorem pure {a : α} {b : β} (h : Q a b) :
    (Pure.pure a : Step α).Parallel Off W Q (Pure.pure b) where
  keeps := Meets.pure fun _ hs => hs
  runs _ _ _ hW := .inr ⟨.ok h, rfl, hW⟩

theorem throw (e : Stop) :
    (MonadExcept.throw e : Step α).Parallel Off W Q (MonadExcept.throw e : Step β) where
  keeps := Meets.throw fun _ hs => hs
  runs _ _ _ hW := .inr ⟨.error e, rfl, hW⟩

theorem bind (hx : x.Parallel Off W Q y) (hkeeps : ∀ a, (f a).Keeps (Off ·.world))
    (hf : ∀ a b, Q a b → (f a).Parallel Off W R (g b)) : (x >>= f).Parallel Off W R (y >>= g) where
  keeps := Meets.bind hx.keeps hkeeps
  runs ticket v w hW := by
    have hfirst := hx.runs ticket v w hW
    rw [on_bind, on_bind]
    revert hfirst
    generalize x.on ⟨ticket, v⟩ = out
    generalize y.on ⟨ticket, w⟩ = out'
    obtain ⟨result, s⟩ := out
    obtain ⟨result', ticket', w'⟩ := out'
    rintro (hoff | ⟨hresult, hticket, hworlds⟩)
    · cases result with
      | error e => exact .inl hoff
      | ok a => exact .inl ((hkeeps a).on hoff)
    · obtain ⟨ticket'', v'⟩ := s
      dsimp only at hresult hticket hworlds
      subst hticket
      cases hresult with
      | error e => exact .inr ⟨.error e, rfl, hworlds⟩
      | ok hab => exact (hf _ _ hab).runs _ v' w' hworlds

/-- When the first steps give the same value, what follows need not be looked at for two values. -/
theorem bind_of_eq {y : Step α} {g : α → Step δ} (hx : x.Parallel Off W Eq y)
    (hf : ∀ a, (f a).Parallel Off W R (g a)) : (x >>= f).Parallel Off W R (y >>= g) :=
  hx.bind (fun a => (hf a).keeps) fun a _ hab => hab ▸ hf a

/-- A step may look at the ticket, and at how many steps of the script are left. -/
theorem get {f : Session → Step γ} {g : Session → Step δ}
    (hlength : ∀ v w, W v w → v.script.length = w.script.length)
    (h : ∀ s t, s.ticket = t.ticket → s.world.script.length = t.world.script.length →
      (f s).Parallel Off W R (g t)) :
    ((MonadState.get : Step Session) >>= f).Parallel Off W R ((MonadState.get : Step Session) >>= g) where
  keeps := Applicant.get_keeps fun s => (h s s rfl rfl).keeps
  runs ticket v w hW := (h ⟨ticket, v⟩ ⟨ticket, w⟩ rfl (hlength v w hW)).runs ticket v w hW

end Parallel

end Step

/-- Two applicants who do alike whatever is not a call. -/
structure Applicant.InStep (Off : World → Prop) (W : World → World → Prop) (a b : Applicant) : Prop where
  idle : ∀ w w', w.Idles w' → Off w → Off w'
  length : ∀ v w, W v w → v.script.length = w.script.length
  isFired : ∀ v w, W v w → v.isFired = w.isFired
  log : ∀ v w level text, W v w → W (v.log level text) (w.log level text)
  rest : ∀ v w ms, W v w → World.Paired W Eq ((v.record (.slept ms)).wait ms) ((w.record (.slept ms)).wait ms)
  tell : ∀ e, (a.tell e).Parallel Off W Eq (b.tell e)
  polling : b.polling = a.polling

namespace Applicant

open Step World

variable {Off : World → Prop} {W : World → World → Prop} {Q : α → β → Prop} {a b : Applicant}
  (hab : a.InStep Off W b)
include hab

/-! ### Building blocks -/

theorem givenUp_matched (e : RunError) (ticket : Ticket) {v w : World} (h : W v w) :
    Matched W Q (.error (.error e), Session.givenUp ⟨ticket, v⟩ e)
      (.error (.error e), Session.givenUp ⟨ticket, w⟩ e) :=
  ⟨.error _, rfl, hab.log _ _ _ _ h⟩

theorem off_givenUp (e : RunError) {s : Session} (h : Off s.world) : Off (s.givenUp e).world :=
  hab.idle _ _ (idles_log _ _ _) h

theorem giveUp_parallel (e : RunError) :
    (giveUp e : Step α).Parallel Off W Q (giveUp e : Step β) where
  keeps _ hs := off_givenUp hab e hs
  runs ticket _ _ h := .inr (givenUp_matched hab e ticket h)

theorem logLine_parallel (level : Level) (text : String) :
    (logLine level text).Parallel Off W Eq (logLine level text) where
  keeps := Meets.modify fun _ hs => hab.idle _ _ (idles_log _ _ _) hs
  runs _ _ _ h := .inr ⟨.ok rfl, rfl, hab.log _ _ _ _ h⟩

omit hab in
/-- What is done to the ticket alone is the same in both worlds. -/
theorem modify_parallel (f : Ticket → Ticket) :
    (modify fun s => ⟨f s.ticket, s.world⟩ : Step Unit).Parallel Off W Eq
      (modify fun s => ⟨f s.ticket, s.world⟩) where
  keeps := Meets.modify fun _ hs => hs
  runs _ _ _ h := .inr ⟨.ok rfl, rfl, h⟩

theorem moveTo_parallel (next : Stage) : (a.moveTo next).Parallel Off W Eq (b.moveTo next) := by
  refine Parallel.get hab.length fun s t hticket _ => ?_
  rw [hticket]
  dsimp only
  split
  · exact Parallel.throw _
  · next moved _ =>
      exact Parallel.bind_of_eq (modify_parallel fun _ => moved) fun _ => hab.tell _

theorem expectStage_parallel (stage : Stage) :
    (expectStage stage).Parallel Off W Eq (expectStage stage) := by
  refine Parallel.get hab.length fun s t hticket _ => ?_
  rw [hticket]
  dsimp only
  split
  · exact Parallel.pure rfl
  · split
    · exact Parallel.throw _
    · exact Parallel.throw _

theorem pendingNumber_parallel : pendingNumber.Parallel Off W Eq pendingNumber := by
  refine Parallel.bind_of_eq (expectStage_parallel hab _) fun _ => ?_
  refine Parallel.get hab.length fun s t hticket _ => ?_
  rw [hticket]
  split
  · exact Parallel.pure rfl
  · exact Parallel.throw _

theorem settle_matched {ticket : Ticket} {out : Arrival (Except ClientError α) × World}
    {out' : Arrival (Except ClientError β) × World} (h : Paired W (Agree Q) out out') :
    Matched W Q (settle ticket out) (settle ticket out') := by
  obtain ⟨arrival, v⟩ := out
  obtain ⟨arrival', w⟩ := out'
  obtain ⟨harrival, hworlds⟩ := h
  dsimp only at harrival hworlds
  cases harrival with
  | interrupted => exact givenUp_matched hab _ ticket hworlds
  | never => exact ⟨.error _, rfl, hworlds⟩
  | value hresult =>
    cases hresult with
    | error e => exact givenUp_matched hab _ ticket hworlds
    | ok h => exact ⟨.ok h, rfl, hworlds⟩

theorem off_settle {ticket : Ticket} {out : Arrival (Except ClientError α) × World} (h : Off out.2) :
    Off (settle ticket out).2.world := by
  obtain ⟨arrival, v⟩ := out
  rcases arrival with (e | _) | _ | _
  · exact off_givenUp hab (s := ⟨ticket, v⟩) _ h
  · exact h
  · exact off_givenUp hab (s := ⟨ticket, v⟩) _ h
  · exact h

theorem ask_parallel {action : World → Arrival (Except ClientError α) × World}
    {action' : World → Arrival (Except ClientError β) × World}
    (h : Abreast Off W Q action action') :
    (ask action).Parallel Off W Q (ask action') where
  keeps s hs := by
    cases hfired : s.world.isFired with
    | true =>
      rw [on_ask_of_fired action hfired]
      exact off_givenUp hab _ hs
    | false =>
      have hoff : Off (settle s.ticket (action s.world)).2.world := off_settle hab (h.keeps s.world hs)
      rw [on_ask action hfired]
      revert hoff
      rcases settle s.ticket (action s.world) with ⟨_ | _, t⟩ <;> exact fun hoff => hoff
  runs ticket v w hW := by
    have hboth := hab.isFired v w hW
    cases hfired : v.isFired with
    | true =>
      rw [on_ask_of_fired (s := ⟨ticket, v⟩) action hfired,
        on_ask_of_fired (s := ⟨ticket, w⟩) action' (hboth.symm.trans hfired)]
      exact .inr (givenUp_matched hab _ ticket hW)
    | false =>
      rw [on_ask (s := ⟨ticket, v⟩) action hfired,
        on_ask (s := ⟨ticket, w⟩) action' (hboth.symm.trans hfired)]
      exact (h.runs v w hW).imp (off_settle hab) (settle_matched hab)

theorem sleep_parallel : a.sleep.Parallel Off W Eq b.sleep where
  keeps := by
    apply sleep_of_idles
    · exact fun _ _ hs hidle => hab.idle _ _ hidle hs
    · exact fun s w hs hidle => off_givenUp hab (s := ⟨s.ticket, w⟩) _ (hab.idle _ _ hidle hs)
  runs ticket v w hW := by
    have hboth := hab.isFired v w hW
    cases hfired : v.isFired with
    | true =>
      rw [on_sleep_of_fired (s := ⟨ticket, v⟩) hfired,
        on_sleep_of_fired (s := ⟨ticket, w⟩) (hboth.symm.trans hfired)]
      exact .inr (givenUp_matched hab _ ticket hW)
    | false =>
      have hwaited := hab.rest v w a.polling.intervalMs hW
      rw [on_sleep (s := ⟨ticket, v⟩) hfired, on_sleep (s := ⟨ticket, w⟩) (hboth.symm.trans hfired),
        hab.polling]
      revert hwaited
      generalize (v.record (.slept a.polling.intervalMs)).wait a.polling.intervalMs = out
      generalize (w.record (.slept a.polling.intervalMs)).wait a.polling.intervalMs = out'
      obtain ⟨arrival, v'⟩ := out
      obtain ⟨arrival', w'⟩ := out'
      intro ⟨harrival, hworlds⟩
      dsimp only at harrival hworlds
      cases harrival with
      | value _ => exact .inr ⟨.ok rfl, rfl, hworlds⟩
      | interrupted => exact .inr (givenUp_matched hab _ ticket hworlds)
      | never => exact .inr ⟨.error _, rfl, hworlds⟩

/-! ### The steps -/

section Steps

variable (hcalls : a.client.SideBySide Off W b.client)
include hcalls

theorem create_parallel : a.create.Parallel Off W Eq b.create := by
  refine Parallel.bind_of_eq (expectStage_parallel hab .created) fun _ => ?_
  refine Parallel.get hab.length fun s t hticket _ => ?_
  rw [hticket]
  refine Parallel.bind_of_eq (logLine_parallel hab _ _) fun _ => ?_
  refine Parallel.bind_of_eq (ask_parallel hab (hcalls.requestKey _)) fun id => ?_
  refine Parallel.bind_of_eq (modify_parallel fun ticket => { ticket with id := some id }) fun _ => ?_
  exact moveTo_parallel hab _

theorem poll_parallel : a.poll.Parallel Off W Eq b.poll := by
  refine Parallel.bind_of_eq (pendingNumber_parallel hab) fun id => ?_
  refine Parallel.bind_of_eq (ask_parallel hab (hcalls.inquire id)) fun stage => ?_
  split
  · exact Parallel.pure rfl
  · exact Parallel.bind_of_eq (moveTo_parallel hab _) fun _ => Parallel.pure rfl
  · exact Parallel.bind_of_eq (moveTo_parallel hab _) fun _ => Parallel.pure rfl
  · exact giveUp_parallel hab _

theorem pollFrom_parallel (id : UInt64) (answers : Nat) (attempts : UInt32) :
    (a.pollFrom id answers attempts).Parallel Off W Eq (b.pollFrom id answers attempts) := by
  induction answers generalizing attempts with
  | zero => exact Parallel.throw _
  | succ answers ih =>
    rw [pollFrom, pollFrom, hab.polling]
    refine Parallel.bind_of_eq (poll_parallel hab hcalls) fun stage => ?_
    dsimp only
    split
    · exact Parallel.bind_of_eq (logLine_parallel hab _ _) fun _ => Parallel.throw _
    · split
      · refine Parallel.bind_of_eq (hab.tell _) fun _ => ?_
        exact Parallel.bind_of_eq (sleep_parallel hab) fun _ => ih _
      · exact giveUp_parallel hab _
    · exact Parallel.pure rfl

theorem awaitDecision_parallel : a.awaitDecision.Parallel Off W Eq b.awaitDecision := by
  refine Parallel.bind_of_eq (pendingNumber_parallel hab) fun id => ?_
  rw [hab.polling]
  split
  · refine Parallel.get hab.length fun s t _ hlength => ?_
    rw [hlength]
    exact pollFrom_parallel hab hcalls id _ 0
  · exact giveUp_parallel hab _

/-- The first two steps of a run. -/
def await (a : Applicant) : Step Unit := do
  a.create
  a.awaitDecision

theorem await_parallel : a.await.Parallel Off W Eq b.await :=
  Parallel.bind_of_eq (create_parallel hab hcalls) fun _ => awaitDecision_parallel hab hcalls

end Steps

/-- The collection, whatever the relation of the secrets is. -/
theorem fulfill_parallel {Q : String → String → Prop}
    (hcollect : ∀ id, Abreast Off W Q (a.client.collect id) (b.client.collect id)) :
    a.fulfill.Parallel Off W Q b.fulfill := by
  refine Parallel.bind_of_eq (expectStage_parallel hab .accepted) fun _ => ?_
  refine Parallel.get hab.length fun s t hticket _ => ?_
  rw [hticket]
  split
  · exact giveUp_parallel hab _
  · next id _ =>
      have hlater {R : String → String → Prop} (secret secret' : String) (h : R secret secret') :
          (do a.moveTo .fulfilled; logLine .info s!"Key request {id} fulfilled"; pure secret
            : Step String).Parallel Off W R
            (do b.moveTo .fulfilled; logLine .info s!"Key request {id} fulfilled"; pure secret') :=
        Parallel.bind_of_eq (moveTo_parallel hab _) fun _ =>
          Parallel.bind_of_eq (logLine_parallel hab _ _) fun _ => Parallel.pure h
      -- Whether the secrets are related says nothing on whether a world off the way stays off it.
      refine Parallel.bind (ask_parallel hab (hcollect id)) (fun secret => ?_) fun _ _ => hlater _ _
      exact (hlater (R := fun _ _ => True) secret secret trivial).keeps

theorem run_parallel (hcalls : a.client.SideBySide Off W b.client) : a.run.Parallel Off W Eq b.run :=
  Parallel.bind_of_eq (create_parallel hab hcalls) fun _ =>
    Parallel.bind_of_eq (awaitDecision_parallel hab hcalls) fun _ => fulfill_parallel hab hcalls.collect

end Applicant

/-! ### Applicants in twin worlds -/

/-- What keeps an applicant in step with another one who makes other calls in a twin world. -/
structure Step.Lockstep (Off : World → Prop) (S : List ServerStep → List ServerStep → Prop)
    (T : List Occurrence → List Occurrence → Prop) : Prop where
  idle : ∀ w w', w.Idles w' → Off w → Off w'
  grows : Grows T
  length : ∀ script script', S script script' → script.length = script'.length

theorem Step.Lockstep.inStep {Off : World → Prop} {K : Transport → Prop}
    {S : List ServerStep → List ServerStep → Prop} {T : List Occurrence → List Occurrence → Prop}
    (h : Lockstep Off S T) (a : Applicant) (d : Client) :
    a.InStep Off (World.Twins K S T) { a with client := d } where
  idle := h.idle
  length _ _ htwins := h.length _ _ htwins.scripts
  isFired _ _ htwins := htwins.isFired
  log _ _ level text htwins := htwins.record h.grows (.logged ⟨level, text⟩)
  rest _ _ ms htwins := (htwins.record h.grows (.slept ms)).wait h.grows ms
  tell e := by
    unfold Applicant.tell
    dsimp only
    split
    · exact {
        keeps := Meets.modify fun _ hs => h.idle _ _ (World.idles_tell _ _) hs
        runs := fun _ _ _ htwins => .inr ⟨.ok rfl, rfl, htwins.tell h.grows e⟩ }
    · exact Parallel.pure rfl
  polling := rfl

end KeyApproval
