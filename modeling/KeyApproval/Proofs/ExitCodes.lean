import KeyApproval.Program
import KeyApproval.Proofs.ActivationVariables
import KeyApproval.Proofs.Causes
import KeyApproval.Proofs.Lenience

/-!
# Exit codes

The exit code of the program says how it ended, and nothing else ends with that code. A program that cannot
prepare its run does no more than to configure its modules. Else the modules are started, and the exit code
is that of what befell the applicant, or of a module that failed when nothing worse had happened.
-/

namespace KeyApproval

open Http

/-! ### Categories -/

theorem Category.exitCode_injective : Function.Injective Category.exitCode := by
  intro c c' h
  cases c <;> cases c' <;> first | rfl | exact absurd h (by decide)

namespace RunError

variable {e : RunError}

/-- What only a failed call is told as. -/
theorem category_client (e : ClientError) : (client e).category = .transport ∨
    (client e).category = .authentication ∨ (client e).category = .protocol ∨
      (client e).category = .formatting := by
  unfold category
  dsimp only
  split
  · exact .inl rfl
  · split
    · exact .inr (.inl rfl)
    · split
      · exact .inr (.inr (.inl rfl))
      · exact .inr (.inr (.inr rfl))

theorem category_eq_denied_iff : e.category = .denied ↔ ∃ id, e = .denied id := by
  cases e with
  | client f => rcases category_client f with h | h | h | h <;> simp [h]
  | _ => simp [category]

theorem category_eq_transport_iff : e.category = .transport ↔ ∃ status, e = .client (.network status) := by
  cases e with
  | client f =>
    cases f <;>
      simp [category, ClientError.isTransport, ClientError.isAuthentication, ClientError.isProtocol]
  | _ => simp [category]

theorem category_eq_cancelled_iff : e.category = .cancelled ↔
    e = .cancelled ∨ ∃ id attempts, e = .pollLimitExceeded id attempts := by
  cases e with
  | client f => rcases category_client f with h | h | h | h <;> simp [h]
  | _ => simp [category]

theorem category_eq_delivery_iff : e.category = .delivery ↔ ∃ f, e = .delivery f := by
  cases e with
  | client f => rcases category_client f with h | h | h | h <;> simp [h]
  | _ => simp [category]

theorem exitCode_ne (e : RunError) : e.exitCode ≠ 0 ∧ e.exitCode ≠ 2 := by
  rw [exitCode]
  cases e.category <;> decide

end RunError

/-- The applicant ended with an error, though not because of the token, and the last answer was of that kind. -/
def World.FailsOver (w : World) (asked : Except Stop String × Session) (kind : Method → Response → Prop) :
    Prop :=
  ∃ e, asked.1 = .error (.error e) ∧ e ≠ .cancelled ∧ w.LastAnswer asked.2.world.requests kind

/-- What has befallen an applicant that ended with an error of the category. No applicant fails in delivery. -/
def World.Befalls (w : World) (asked : Except Stop String × Session) : Category → Prop
  | .denied => ∃ id, asked.1 = .error (.error (.denied id))
  | .transport => ∃ status, asked.1 = .error (.error (.client (.network status)))
  | .authentication => w.FailsOver asked fun _ answer => answer.status = 401
  | .protocol => w.FailsOver asked fun method answer => answer.Strays method
  | .formatting => ∃ reason, asked.1 = .error (.error (.client (.invalidRequest reason))) ∨
      asked.1 = .error (.error (.client (.signing reason)))
  | .cancelled => asked.1 = .error (.error .cancelled) ∨
      ∃ id attempts, asked.1 = .error (.error (.pollLimitExceeded id attempts))
  | .delivery => False

namespace World.Befalls

variable {w : World} {asked : Except Stop String × Session} {category : Category}

theorem exists_error (h : w.Befalls asked category) : ∃ e, asked.1 = .error (.error e) := by
  cases category with
  | denied | transport => exact h.imp' _ fun _ h => h
  | authentication | protocol => exact h.imp fun _ h => h.1
  | formatting =>
    obtain ⟨reason, h | h⟩ := h
    · exact ⟨_, h⟩
    · exact ⟨_, h⟩
  | cancelled =>
    obtain h | ⟨id, attempts, h⟩ := h
    · exact ⟨_, h⟩
    · exact ⟨_, h⟩
  | delivery => exact h.elim

end World.Befalls

theorem Fate.befalls_iff {w : World} {asked : Except Stop String × Session} {e : RunError}
    (h : Fate w asked.2.world.requests e) (herror : asked.1 = .error (.error e)) (category : Category) :
    w.Befalls asked category ↔ e.category = category := by
  cases category with
  | authentication =>
    rw [h.authentication_iff]
    simp [World.Befalls, World.FailsOver, herror]
  | protocol =>
    rw [h.protocol_iff]
    simp [World.Befalls, World.FailsOver, herror]
  | formatting =>
    rw [h.formatting_iff]
    simp [World.Befalls, herror]
  | denied =>
    rw [RunError.category_eq_denied_iff]
    simp [World.Befalls, herror]
  | transport =>
    rw [RunError.category_eq_transport_iff]
    simp [World.Befalls, herror]
  | cancelled =>
    rw [RunError.category_eq_cancelled_iff]
    simp [World.Befalls, herror]
  | delivery =>
    rw [RunError.category_eq_delivery_iff]
    refine iff_of_false id ?_
    rintro ⟨f, rfl⟩
    cases h

/-- All modules start when they are told to. -/
def Registry.Starts {σ : Type} [Sink σ] (r : Registry σ) : Prop :=
  ∀ m ∈ r.members, m.failsAt .start = false

theorem Registry.starts_iff {σ : Type} [Sink σ] (r : Registry σ) : r.Starts ↔ r.start.error? = none := by
  rw [r.error?_start_eq_none_iff, List.any_eq_false, Starts]
  simp only [Bool.not_eq_true]

namespace Program

open Activity Handover

variable {a : Arguments} {files : Files} {p : Surroundings} {world : Config.Settings → World}

/-! ### Preparation -/

/-- Why no run begins. -/
inductive Unfit (a : Arguments) (files : Files) (p : Surroundings) : Prop where
  | load {e : Config.LoadError} (h : loadDocument a files = .error e)
  | settings {d : Config.Document} {e : Config.SettingsError} (loaded : loadDocument a files = .ok d)
      (h : Config.Settings.resolve a d = .error e)
  | modules {d : Config.Document} {s : Config.Settings} {e : DeliveryError}
      (loaded : loadDocument a files = .ok d) (resolved : Config.Settings.resolve a d = .ok s)
      (h : registryFor a d p = .error e)
  | client {d : Config.Document} {s : Config.Settings} {r : Registry Outlet} {e : ClientError}
      (loaded : loadDocument a files = .ok d) (resolved : Config.Settings.resolve a d = .ok s)
      (configured : registryFor a d p = .ok r)
      (h : newClient s p = .error e)

/-- The parts of a setup come from this document, and nothing was wrong with any of them. -/
structure Setup.Fits (a : Arguments) (files : Files) (p : Surroundings) (d : Config.Document)
    (s : Setup) : Prop where
  loaded : loadDocument a files = .ok d
  resolved : Config.Settings.resolve a d = .ok s.settings
  configured : registryFor a d p = .ok s.registry
  made : newClient s.settings p = .ok s.client

theorem mapError_bind_eq_ok_iff {ε ε' α β : Type} {x : Except ε α} {f : ε → ε'} {g : α → Except ε' β}
    {b : β} : x.mapError f >>= g = .ok b ↔ ∃ a, x = .ok a ∧ g a = .ok b := by
  cases x with
  | error e => exact iff_of_false nofun nofun
  | ok a => exact ⟨fun h => ⟨a, rfl, h⟩, fun ⟨_, rfl, h⟩ => h⟩

theorem prepare_eq_ok_iff {s : Setup} :
    prepare a files p = .ok s ↔ ∃ d, s.Fits a files p d := by
  simp only [prepare, mapError_bind_eq_ok_iff]
  constructor
  · rintro ⟨d, hload, settings, hresolve, registry, hconfigure, client, hnew, ⟨⟩⟩
    exact ⟨d, hload, hresolve, hconfigure, hnew⟩
  · rintro ⟨d, hload, hresolve, hconfigure, hnew⟩
    exact ⟨d, hload, _, hresolve, _, hconfigure, _, hnew, rfl⟩

theorem unfit_or_fits (a : Arguments) (files : Files) (p : Surroundings) :
    Unfit a files p ∨ ∃ s : Setup, ∃ d, s.Fits a files p d := by
  cases hload : loadDocument a files with
  | error e => exact .inl (.load hload)
  | ok d =>
    cases hresolve : Config.Settings.resolve a d with
    | error e => exact .inl (.settings hload hresolve)
    | ok settings =>
      cases hconfigure : registryFor a d p with
      | error e => exact .inl (.modules hload hresolve hconfigure)
      | ok registry =>
        cases hnew : newClient settings p with
        | error e => exact .inl (.client hload hresolve hconfigure hnew)
        | ok client => exact .inr ⟨⟨settings, registry, client⟩, d, hload, hresolve, hconfigure, hnew⟩

theorem Unfit.not_fits {s : Setup} {d : Config.Document} (h : Unfit a files p) :
    ¬s.Fits a files p d := by
  rintro ⟨hload, hresolve, hconfigure, hnew⟩
  cases h with
  | load h => exact nomatch hload.symm.trans h
  | settings hload' h =>
    obtain rfl := Except.ok.inj (hload.symm.trans hload')
    exact nomatch hresolve.symm.trans h
  | modules hload' _ h =>
    obtain rfl := Except.ok.inj (hload.symm.trans hload')
    exact nomatch hconfigure.symm.trans h
  | client hload' hresolve' _ h =>
    obtain rfl := Except.ok.inj (hload.symm.trans hload')
    obtain rfl := Except.ok.inj (hresolve.symm.trans hresolve')
    exact nomatch hnew.symm.trans h

/-- There is a run, or what was wrong with its preparation. -/
theorem exists_error_prepare_iff :
    (∃ e, prepare a files p = .error e) ↔ Unfit a files p := by
  constructor
  · rintro ⟨e, h⟩
    refine (unfit_or_fits a files p).resolve_right ?_
    rintro ⟨s, hs⟩
    exact nomatch h.symm.trans (prepare_eq_ok_iff.mpr hs)
  · intro hunfit
    cases h : prepare a files p with
    | error e => exact ⟨e, rfl⟩
    | ok s =>
      obtain ⟨d, hs⟩ := prepare_eq_ok_iff.mp h
      exact absurd hs hunfit.not_fits

theorem dispatched_of_prepare {s : Setup} (h : prepare a files p = .ok s) :
    s.registry.dispatched = false := by
  obtain ⟨d, -, -, hconfigure, -⟩ := prepare_eq_ok_iff.mp h
  unfold registryFor at hconfigure
  dsimp only at hconfigure
  split at hconfigure
  · exact nomatch hconfigure
  · rw [← Except.ok.inj hconfigure]
    rfl

/-- The calls of the preparation. -/
def setupCalls (a : Arguments) (files : Files) (p : Surroundings) : List (Call Outlet) :=
  match loadDocument a files with
  | .error _ => []
  | .ok d =>
    match Config.Settings.resolve a d with
    | .error _ => []
    | .ok _ => ((newRegistry a p).configure d.tables).calls

theorem task_setupCalls {c : Call Outlet} (h : c ∈ setupCalls a files p) :
    ∃ table, c.task = .configure table := by
  unfold setupCalls at h
  split at h
  · exact absurd h List.not_mem_nil
  · split at h
    · exact absurd h List.not_mem_nil
    · exact Registry.task_configure _ _ c h

/-! ### Exit codes -/

theorem exitCode?_of_error {report : Report Outlet} {e : RunError}
    (h : report.result = .error (.error e)) : exitCode? (.ran report) = some e.exitCode := by
  simp only [exitCode?, h]

theorem exitCode?_eq_zero_iff {report : Report Outlet} :
    exitCode? (.ran report) = some 0 ↔ ∃ d, report.result = .ok d := by
  unfold exitCode?
  dsimp only
  split
  next d hresult => exact iff_of_true rfl ⟨d, hresult⟩
  next e hresult =>
    rw [hresult]
    exact iff_of_false (fun h => e.exitCode_ne.1 (Option.some.inj h)) nofun
  next hresult =>
    rw [hresult]
    exact iff_of_false nofun nofun

theorem exitCode?_ne_two (report : Report Outlet) : exitCode? (.ran report) ≠ some 2 := by
  unfold exitCode?
  dsimp only
  split
  · decide
  next e _ => exact fun h => e.exitCode_ne.2 (Option.some.inj h)
  · exact nofun

section Ends

variable {applicant : Applicant} {handle : String} {registry : Registry Outlet} {w : World}
  {report : Report Outlet}

/-- A run that is begun ends because a module did not start, with the secret, unless a module fails after all,
or like the applicant. -/
inductive Ends (applicant : Applicant) (handle : String) (registry : Registry Outlet) (w : World)
    (faults : List DeliveryError) : Option UInt8 → Prop where
  | unstarted (failed : ¬registry.Starts) (fault : faults ≠ []) :
      Ends applicant handle registry w faults (some 8)
  | fulfilled {secret : String} (started : registry.Starts)
      (asked : (applicant.run.on (.fresh handle w)).1 = .ok secret) (fault : faults = []) :
      Ends applicant handle registry w faults (some 0)
  | spoiled {secret : String} (started : registry.Starts)
      (asked : (applicant.run.on (.fresh handle w)).1 = .ok secret) (fault : faults ≠ []) :
      Ends applicant handle registry w faults (some 8)
  | reported {e : RunError} (started : registry.Starts)
      (asked : (applicant.run.on (.fresh handle w)).1 = .error (.error e)) :
      Ends applicant handle registry w faults (some e.exitCode)
  | hung (started : registry.Starts) (asked : (applicant.run.on (.fresh handle w)).1 = .error .hung) :
      Ends applicant handle registry w faults none

theorem faultsOf_close (o : Outcome Outlet) :
    faultsOf (close o).activity = faultsOf o.activity ++ o.registry.cleanUp.failures := by
  rw [faultsOf, callsOf_close, List.filterMap_append]
  rfl

/-- What is delivered is spoiled by the first fault that there is. -/
theorem errorOf_of_delivered (hfresh : registry.dispatched = false) (secret : String) {s : Session}
    {id : UInt64} (hid : s.ticket.id = some id) (hstarted : registry.start.error? = none)
    {trace : List Occurrence}
    (hreport : (close (succeed secret registry.start.registry s)).after
      (ofRound registry.start ++ trace.map happened) = report) :
    errorOf report.result = (faultsOf report.activity).head?.map .delivery := by
  have hdispatch := registry.dispatched_start.trans hfresh
  have hdelivered : (registry.start.registry.deliver secret).calls.filterMap Call.error? =
      (registry.start.registry.deliver secret).error?.toList :=
    (Registry.faults_dispatch hdispatch _).trans (Registry.failures_dispatch hdispatch _)
  rw [← hreport, Report.after, errorOf_close, error?_succeed secret _ hid, faultsOf_append,
    faultsOf_append, faultsOf_close, faultsOf_ofRound, registry.faults_start, registry.failures_start,
    hstarted, faultsOf, callsOf_happened, succeed, faultsOf_ofRound, hdelivered]
  cases (registry.start.registry.deliver secret).error? <;> rfl

theorem ends (h : Course applicant handle registry w report) (hfresh : registry.dispatched = false) :
    Ends applicant handle registry w (faultsOf report.activity) (exitCode? (.ran report)) := by
  cases h with
  | @unstarted e hfailed =>
    rw [exitCode?_of_error (errorOf_eq_some_iff.mp (errorOf_close _))]
    refine .unstarted (by rw [registry.starts_iff, hfailed]; nofun) ?_
    rw [Report.after, faultsOf_append, faultsOf_ofRound, registry.faults_start, registry.failures_start,
      hfailed]
    exact List.cons_ne_nil _ _
  | @delivered secret s hstarted hrun =>
    obtain ⟨id, hs⟩ := Applicant.run_meets.ok (s := .fresh handle w) rfl hrun
    have hasked := congrArg Prod.fst hrun
    generalize hreport : (close (succeed secret registry.start.registry
      ⟨s.ticket, { s.world with trace := [] }⟩)).after
        (ofRound registry.start ++ s.world.trace.map happened) = report
    have herror := errorOf_of_delivered hfresh secret
      (s := ⟨s.ticket, { s.world with trace := [] }⟩) hs.2 hstarted hreport
    cases hfaults : faultsOf report.activity with
    | nil =>
      have hends : report.result ≠ .error .hung := hreport ▸ close_result_ne_hung _
      rw [hfaults] at herror
      rw [exitCode?_eq_zero_iff.mpr ((errorOf_eq_none_iff hends).mp herror)]
      exact .fulfilled (registry.starts_iff.mpr hstarted) hasked rfl
    | cons f rest =>
      rw [hfaults] at herror
      rw [exitCode?_of_error (errorOf_eq_some_iff.mp herror)]
      exact .spoiled (registry.starts_iff.mpr hstarted) hasked (List.cons_ne_nil _ _)
  | reported hstarted hrun =>
    rw [exitCode?_of_error (errorOf_eq_some_iff.mp (errorOf_close _))]
    exact .reported (registry.starts_iff.mpr hstarted) (congrArg Prod.fst hrun)
  | hung hstarted hrun => exact .hung (registry.starts_iff.mpr hstarted) (congrArg Prod.fst hrun)

namespace Ends

variable {faults : List DeliveryError} {code : Option UInt8}

theorem starts_or_eq (h : Ends applicant handle registry w faults code) : registry.Starts ∨ code = some 8 := by
  cases h with
  | unstarted => exact .inr rfl
  | fulfilled hstarts | spoiled hstarts | reported hstarts | hung hstarts => exact .inl hstarts

theorem eq_none_iff (h : Ends applicant handle registry w faults code) :
    code = none ↔ registry.Starts ∧ (applicant.run.on (.fresh handle w)).1 = .error .hung := by
  cases h with
  | unstarted hfailed => exact iff_of_false nofun fun h => hfailed h.1
  | fulfilled _ hasked | spoiled _ hasked | reported _ hasked =>
    rw [hasked]
    exact iff_of_false nofun fun h => nomatch h.2
  | hung hstarts hasked => exact iff_of_true rfl ⟨hstarts, hasked⟩

theorem eq_category_iff (h : Ends applicant handle registry w faults code) (hw : w.Networked)
    (category : Category) (hcategory : category ≠ .delivery) : code = some category.exitCode ↔
      registry.Starts ∧ w.Befalls (applicant.run.on (.fresh handle w)) category := by
  have hnone {secret : String} (hasked : (applicant.run.on (.fresh handle w)).1 = .ok secret) :
      ¬w.Befalls (applicant.run.on (.fresh handle w)) category := by
    intro hbefalls
    obtain ⟨e, he⟩ := hbefalls.exists_error
    exact nomatch hasked.symm.trans he
  have hdelivery : some 8 ≠ some category.exitCode :=
    fun h => hcategory (Category.exitCode_injective (Option.some.inj h.symm))
  cases h with
  | unstarted hfailed => exact iff_of_false hdelivery fun h => hfailed h.1
  | spoiled _ hasked => exact iff_of_false hdelivery fun h => hnone hasked h.2
  | fulfilled _ hasked =>
    refine iff_of_false (fun h => ?_) fun h => hnone hasked h.2
    cases category <;> exact absurd h (by decide)
  | @reported e hstarts hasked =>
    have hfate := Applicant.fate_of_run hw (Prod.ext hasked rfl)
    rw [Option.some.injEq, RunError.exitCode, Category.exitCode_injective.eq_iff,
      hfate.befalls_iff hasked, and_iff_right hstarts]
  | hung _ hasked =>
    refine iff_of_false nofun fun h => ?_
    obtain ⟨e, he⟩ := h.2.exists_error
    exact nomatch hasked.symm.trans he

theorem eq_delivery_iff (h : Ends applicant handle registry w faults code) (hw : w.Networked) :
    code = some 8 ↔
      (¬registry.Starts ∨ ∃ secret, (applicant.run.on (.fresh handle w)).1 = .ok secret) ∧ faults ≠ [] := by
  cases h with
  | unstarted hfailed hfault => exact iff_of_true rfl ⟨.inl hfailed, hfault⟩
  | spoiled _ hasked hfault => exact iff_of_true rfl ⟨.inr ⟨_, hasked⟩, hfault⟩
  | fulfilled _ _ hfault => exact iff_of_false (by decide) fun h => h.2 hfault
  | @reported e hstarts hasked =>
    refine iff_of_false (fun h => ?_) fun h => ?_
    · have hfate := Applicant.fate_of_run hw (Prod.ext hasked rfl)
      exact (hfate.befalls_iff hasked .delivery).mpr (Category.exitCode_injective (Option.some.inj h))
    · obtain ⟨secret, hok⟩ := h.1.resolve_left (not_not_intro hstarts)
      exact nomatch hasked.symm.trans hok
  | hung hstarts hasked =>
    refine iff_of_false nofun fun h => ?_
    obtain ⟨secret, hok⟩ := h.1.resolve_left (not_not_intro hstarts)
    exact nomatch hasked.symm.trans hok

end Ends

end Ends

/-- What the exit code says about a run that was begun. It has none if it comes to no end. -/
structure Explains (registry : Registry Outlet) (w : World) (asked : Except Stop String × Session)
    (faults : List DeliveryError) (code : Option UInt8) : Prop where
  begun : registry.Starts ∨ code = some 8
  hung : code = none ↔ registry.Starts ∧ asked.1 = .error .hung
  denied : code = some 3 ↔ registry.Starts ∧ w.Befalls asked .denied
  transport : code = some 4 ↔ registry.Starts ∧ w.Befalls asked .transport
  authentication : code = some 5 ↔ registry.Starts ∧ w.Befalls asked .authentication
  protocol : code = some 6 ↔ registry.Starts ∧ w.Befalls asked .protocol
  formatting : code = some 7 ↔ registry.Starts ∧ w.Befalls asked .formatting
  delivery : code = some 8 ↔ (¬registry.Starts ∨ ∃ secret, asked.1 = .ok secret) ∧ faults ≠ []
  cancelled : code = some 130 ↔ registry.Starts ∧ w.Befalls asked .cancelled

theorem Ends.explains {applicant : Applicant} {handle : String} {registry : Registry Outlet} {w : World}
    {faults : List DeliveryError} {code : Option UInt8} (h : Ends applicant handle registry w faults code)
    (hw : w.Networked) : Explains registry w (applicant.run.on (.fresh handle w)) faults code where
  begun := h.starts_or_eq
  hung := h.eq_none_iff
  denied := h.eq_category_iff hw .denied nofun
  transport := h.eq_category_iff hw .transport nofun
  authentication := h.eq_category_iff hw .authentication nofun
  protocol := h.eq_category_iff hw .protocol nofun
  formatting := h.eq_category_iff hw .formatting nofun
  delivery := h.eq_delivery_iff hw
  cancelled := h.eq_category_iff hw .cancelled nofun

/-! ### The end of the program -/

/-- A list can hold the names of the descriptors that are passed to the process. It is assumed that memory for them
is there then. -/
def Surroundings.HasRoom (p : Surroundings) : Prop :=
  ∀ count, Activation.IsAddressed p.lookup p.pid → Activation.Counts (p.lookup "LISTEN_FDS") count →
    count * 24 ≤ 2 ^ 63 - 1

theorem Surroundings.environment?_eq_none_iff : p.environment? = none ↔ ¬p.HasRoom := by
  rw [Surroundings.environment?, Activation.environment?_eq_none_iff, Activation.ends_iff]
  rfl

theorem run_of_unfit (world : Config.Settings → World) (h : Unfit a files p) :
    ∃ e, run a files p world = .unprepared e := by
  obtain ⟨e, he⟩ := exists_error_prepare_iff.mpr h
  exact ⟨e, by rw [run, he]⟩

theorem run_of_crowded {s : Setup} (hprepare : prepare a files p = .ok s) (h : ¬p.HasRoom) :
    run a files p world = .crashed (callsBeforeReading s.registry) := by
  simp only [run, hprepare, Surroundings.environment?_eq_none_iff.mpr h]

theorem run_of_hasRoom {s : Setup} (hprepare : prepare a files p = .ok s) (h : p.HasRoom) :
    run a files p world = .ran (Handover.run s.applicant a.keyHandle s.registry (world s.settings)) := by
  have hread : p.environment? ≠ none := mt Surroundings.environment?_eq_none_iff.mp (not_not_intro h)
  obtain ⟨environment, henvironment⟩ := Option.ne_none_iff_exists'.mp hread
  simp only [run, hprepare, henvironment]

theorem exists_prepare_of_not_unfit (h : ¬Unfit a files p) : ∃ s, prepare a files p = .ok s := by
  cases hprepare : prepare a files p with
  | error e => exact absurd (exists_error_prepare_iff.mp ⟨e, hprepare⟩) h
  | ok s => exact ⟨s, rfl⟩

theorem not_unfit_of_prepare {s : Setup} (h : prepare a files p = .ok s) : ¬Unfit a files p := by
  intro hunfit
  obtain ⟨e, he⟩ := exists_error_prepare_iff.mpr hunfit
  exact nomatch h.symm.trans he

/-- The program does not get ready, it crashes, or it runs. -/
theorem run_cases (a : Arguments) (files : Files) (p : Surroundings) (world : Config.Settings → World) :
    (Unfit a files p ∧ ∃ e, run a files p world = .unprepared e) ∨
    (∃ s, prepare a files p = .ok s ∧ ¬p.HasRoom ∧ run a files p world = .crashed (callsBeforeReading s.registry)) ∨
    ∃ s, prepare a files p = .ok s ∧ p.HasRoom ∧
      run a files p world = .ran (Handover.run s.applicant a.keyHandle s.registry (world s.settings)) := by
  by_cases hunfit : Unfit a files p
  · exact .inl ⟨hunfit, run_of_unfit world hunfit⟩
  obtain ⟨s, hprepare⟩ := exists_prepare_of_not_unfit hunfit
  by_cases hroom : p.HasRoom
  · exact .inr (.inr ⟨s, hprepare, hroom, run_of_hasRoom hprepare hroom⟩)
  · exact .inr (.inl ⟨s, hprepare, hroom, run_of_crowded hprepare hroom⟩)

/-- All that the program does, from the preparation on. -/
def activity (a : Arguments) (files : Files) (p : Surroundings) (world : Config.Settings → World) :
    List (Activity Outlet) :=
  (setupCalls a files p).map .called ++
    match run a files p world with
    | .unprepared _ => []
    | .crashed calls => calls.map .called
    | .ran report => report.activity

theorem exitCode?_eq_two_iff : exitCode? (run a files p world) = some 2 ↔ Unfit a files p := by
  rcases run_cases a files p world with ⟨hunfit, e, hrun⟩ | ⟨s, hprepare, -, hrun⟩ | ⟨s, hprepare, -, hrun⟩
  · exact iff_of_true (congrArg exitCode? hrun) hunfit
  · rw [hrun]
    exact iff_of_false nofun (not_unfit_of_prepare hprepare)
  · rw [hrun]
    exact iff_of_false (exitCode?_ne_two _) (not_unfit_of_prepare hprepare)

theorem configure_of_unfit (h : Unfit a files p) {x : Activity Outlet} (hx : x ∈ activity a files p world) :
    ∃ c table, x = .called c ∧ c.task = .configure table := by
  obtain ⟨e, hrun⟩ := run_of_unfit world h
  rw [activity, hrun] at hx
  dsimp only at hx
  rw [List.append_nil] at hx
  obtain ⟨c, hc, rfl⟩ := List.mem_map.mp hx
  obtain ⟨table, htable⟩ := task_setupCalls hc
  exact ⟨c, table, rfl, htable⟩

theorem crashed_iff : (∃ calls, run a files p world = .crashed calls) ↔ ¬Unfit a files p ∧ ¬p.HasRoom := by
  rcases run_cases a files p world with ⟨hunfit, e, hrun⟩ | ⟨s, hprepare, hroom, hrun⟩ | ⟨s, -, hroom, hrun⟩
  · rw [hrun]
    exact iff_of_false nofun fun h => h.1 hunfit
  · exact iff_of_true ⟨_, hrun⟩ ⟨not_unfit_of_prepare hprepare, hroom⟩
  · rw [hrun]
    exact iff_of_false nofun fun h => h.2 hroom

theorem task_callsBeforeReading {r : Registry Outlet} {c : Call Outlet} (h : c ∈ callsBeforeReading r) :
    c.task = .start := by
  obtain ⟨m, -, task, hplan, rfl⟩ := Visit.mem_calls_run h
  split at hplan
  · exact (Plan.give.inj hplan).symm
  · contradiction

/-- When the program crashes, modules were configured and started, and nothing else happened. -/
theorem task_of_crashed {calls : List (Call Outlet)} (h : run a files p world = .crashed calls)
    {x : Activity Outlet} (hx : x ∈ activity a files p world) :
    ∃ c, x = .called c ∧ ((∃ table, c.task = .configure table) ∨ c.task = .start) := by
  obtain ⟨hfit, hroom⟩ := crashed_iff.mp ⟨calls, h⟩
  obtain ⟨s, hprepare⟩ := exists_prepare_of_not_unfit hfit
  rw [activity, run_of_crowded hprepare hroom] at hx
  dsimp only at hx
  rw [List.mem_append] at hx
  rcases hx with hx | hx
  · obtain ⟨c, hc, rfl⟩ := List.mem_map.mp hx
    exact ⟨c, rfl, .inl (task_setupCalls hc)⟩
  · obtain ⟨c, hc, rfl⟩ := List.mem_map.mp hx
    exact ⟨c, rfl, .inr (task_callsBeforeReading hc)⟩

theorem exitCode?_eq_zero_iff_ran {ending : Ending} :
    exitCode? ending = some 0 ↔ ∃ report d, ending = .ran report ∧ report.result = .ok d := by
  cases ending with
  | unprepared e =>
    refine iff_of_false (fun h => absurd (Option.some.inj h) (by decide)) ?_
    rintro ⟨_, _, ⟨⟩, _⟩
  | crashed calls =>
    refine iff_of_false nofun ?_
    rintro ⟨_, _, ⟨⟩, _⟩
  | ran report =>
    rw [exitCode?_eq_zero_iff]
    exact ⟨fun ⟨d, h⟩ => ⟨report, d, rfl, h⟩, fun ⟨_, d, hsame, h⟩ => ⟨d, Ending.ran.inj hsame ▸ h⟩⟩

/-- The exit code is 0 exactly when the run is successful, and 2 exactly when nothing is fit for a run; and then
modules are configured and nothing else happens. The program has no exit code of its own when more descriptors are
passed than a list can name, as it crashes while its modules start. Else the exit code explains the run. -/
theorem run_exitCode (a : Arguments) (files : Files) (p : Surroundings) (world : Config.Settings → World)
    (hworld : ∀ settings, (world settings).Networked) :
    let ending := run a files p world
    (exitCode? ending = some 0 ↔ ∃ report d, ending = .ran report ∧ report.result = .ok d) ∧
    (exitCode? ending = some 2 ↔ Unfit a files p) ∧
    (Unfit a files p → ∀ x ∈ activity a files p world,
      ∃ c table, x = .called c ∧ c.task = .configure table) ∧
    ((∃ calls, ending = .crashed calls) ↔ ¬Unfit a files p ∧ ¬p.HasRoom) ∧
    (∀ calls, ending = .crashed calls → exitCode? ending = none ∧ ∀ x ∈ activity a files p world,
      ∃ c, x = .called c ∧ ((∃ table, c.task = .configure table) ∨ c.task = .start)) ∧
    ∀ s, prepare a files p = .ok s → p.HasRoom →
      let w := world s.settings
      let report := Handover.run s.applicant a.keyHandle s.registry w
      ending = .ran report ∧
        Explains s.registry w (s.applicant.run.on (.fresh a.keyHandle w)) (faultsOf report.activity)
          (exitCode? ending) := by
  intro ending
  refine ⟨exitCode?_eq_zero_iff_ran, exitCode?_eq_two_iff, fun h x => configure_of_unfit h, crashed_iff,
    fun calls hcrashed => ⟨by rw [hcrashed]; rfl, fun x => task_of_crashed hcrashed⟩, ?_⟩
  intro s hprepare hroom w report
  have hending : ending = .ran report := run_of_hasRoom hprepare hroom
  have hends := ends (Handover.course_run s.applicant a.keyHandle s.registry w)
    (dispatched_of_prepare hprepare)
  rw [hending]
  exact ⟨rfl, hends.explains (hworld s.settings)⟩

theorem exitCode?_congr {report report' : Report Outlet} (h : report.result = report'.result) :
    exitCode? (.ran report) = exitCode? (.ran report') := by
  simp only [exitCode?, h]

/-- The server hands over the key, but standard output breaks when it is flushed. -/
theorem run_exitCode_broken :
    let a : Arguments :=
      { keyHandle := "disk", host := some "[::1]", user := some "myuser", secret := some "1234" }
    let answer (status : UInt16) (body : String) : ServerStep :=
      ⟨false, 0, some (.ok ⟨status, .empty, Text.Utf8.encodeString body⟩)⟩
    let script : List ServerStep :=
      [answer 201 (Text.braced "\"id\": 7"), answer 200 (Text.braced "\"state\": \"ACCEPTED\""),
        answer 200 "sesame"]
    let w : World :=
      ⟨⟨Request.check, .network none⟩, fun _ => default, 0, script, 0, ⟨false, none, none⟩, 0, []⟩
    let files : Files := ⟨none, fun _ => .missing⟩
    let p : Surroundings := { lookup := fun _ => none, pid := 10, output := { flushFault := some "broken" } }
    (∀ _ : Config.Settings, w.Networked) ∧ p.HasRoom ∧
      exitCode? (run a files p fun _ => w) = some 8 ∧
        ∃ s secret, prepare a files p = .ok s ∧
          (s.applicant.run.on (.fresh "disk" w)).1 = .ok secret := by
  intro a answer script w files p
  have hfailures : ∀ step ∈ script, ∀ e, step.reply = some (.error e) → ∃ status, e = .network status := by
    intro step hstep e he
    simp only [script, List.mem_cons, List.not_mem_nil, or_false] at hstep
    rcases hstep with rfl | rfl | rfl <;> cases he
  have hw : w.Networked := ⟨rfl, ⟨none, rfl⟩, hfailures⟩
  have hroom : p.HasRoom := by
    rintro count ⟨text, htext, -⟩
    cases htext
  -- the check would have the kernel work out three signatures, but it lets everything of this user pass
  have heval : (prepare a files p).toOption.map (fun s => (s.client.credentials.username,
      s.registry.start.error?, exitCode? (.ran (Handover.run s.applicant "disk" s.registry w.lenient)))) =
        some ("myuser", none, some 8) := by decide +kernel
  obtain ⟨-, -, -, -, -, hruns⟩ := run_exitCode a files p (fun _ => w) fun _ => hw
  cases hprepare : prepare a files p with
  | error e =>
    rw [hprepare] at heval
    cases heval
  | ok s =>
    rw [hprepare] at heval
    obtain ⟨husername, hrest⟩ := Prod.mk.inj (Option.some.inj heval)
    obtain ⟨hstarts, hlenient⟩ := Prod.mk.inj hrest
    have hlets : w.transport.Lets s.applicant.client := by
      apply Transport.lets_of_check rfl
      change ¬HasControl s.client.credentials.username
      rw [husername, hasControl_iff, not_not, ← Http.all_isValueChar_iff]
      decide
    obtain ⟨hran, hexplains⟩ := hruns s hprepare hroom
    have hcode : exitCode? (run a files p fun _ => w) = some 8 := by
      rw [hran, exitCode?_congr (Handover.result_run_lenient "disk" s.registry hlets)]
      exact hlenient
    obtain ⟨hbegun, -⟩ := hexplains.delivery.mp hcode
    obtain ⟨secret, hasked⟩ := hbegun.resolve_left (not_not_intro (s.registry.starts_iff.mpr hstarts))
    exact ⟨fun _ => hw, hroom, hcode, s, secret, rfl, hasked⟩

/-- A program that is fit for its run has no exit code with so many sockets, though it was not to look for any. -/
theorem crashed_crowd :
    let a : Arguments :=
      { keyHandle := "disk", host := some "[::1]", user := some "myuser", secret := some "1234" }
    let files : Files := ⟨none, fun _ => .missing⟩
    let p : Surroundings := { lookup := Activation.crowd, pid := 10 }
    let w : World := ⟨⟨Request.check, .network none⟩, fun _ => default, 0, [], 0, ⟨false, none, none⟩, 0, []⟩
    ¬Unfit a files p ∧ (∃ calls, run a files p (fun _ => w) = .crashed calls) ∧
      exitCode? (run a files p fun _ => w) = none := by
  intro a files p w
  have hprepared : (prepare a files p).toOption.isSome = true := by decide +kernel
  have hroom : ¬p.HasRoom := by
    rw [← Surroundings.environment?_eq_none_iff, Surroundings.environment?, Activation.ofVariables_crowd]
    rfl
  cases hprepare : prepare a files p with
  | error e =>
    rw [hprepare] at hprepared
    contradiction
  | ok s =>
    have hrun : run a files p (fun _ => w) = .crashed (callsBeforeReading s.registry) :=
      run_of_crowded hprepare hroom
    exact ⟨not_unfit_of_prepare hprepare, ⟨_, hrun⟩, congrArg exitCode? hrun⟩

end Program

end KeyApproval
