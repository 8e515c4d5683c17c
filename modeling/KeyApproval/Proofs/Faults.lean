import KeyApproval.Proofs.Discipline
import KeyApproval.Proofs.LogLevels
import KeyApproval.Proofs.Settlement
import Mathlib.Data.List.Forall2

/-!
# The faults of a run

Many modules can fail in one run, but a run returns one error. The faults of the start and of the delivery
end what they are part of, so there is at most one of each kind, and it is the one returned unless another
came first. Whatever fails besides, when an error is reported or a module is cleaned up, is told in a line
of the level ERROR. The accounts of a run are kept up by each of its parts: all faults are there once,
either as the error returned or in a line of their own.
-/

open scoped List

namespace KeyApproval

/-! ### Faults and the lines that tell of them -/

namespace Activity

variable {σ : Type} [Sink σ]

omit [Sink σ] in
/-- The calls with a task of that kind. -/
def callsIn (scene : Scene) (activity : List (Activity σ)) : List (Call σ) :=
  (callsOf activity).filter (·.task.scene = scene)

def faultsOf (activity : List (Activity σ)) : List DeliveryError :=
  (callsOf activity).filterMap Call.error?

def faultsIn (scene : Scene) (activity : List (Activity σ)) : List DeliveryError :=
  (callsIn scene activity).filterMap Call.error?

omit [Sink σ] in
def errorLines (activity : List (Activity σ)) : List LogLine :=
  (World.logsOf (occurrencesOf activity)).filter (·.level = .error)

variable {scene : Scene} (activity later : List (Activity σ))

omit [Sink σ] in
@[simp]
theorem callsIn_append :
    callsIn scene (activity ++ later) = callsIn scene activity ++ callsIn scene later := by
  simp only [callsIn, callsOf_append, List.filter_append]

@[simp]
theorem faultsOf_append : faultsOf (activity ++ later) = faultsOf activity ++ faultsOf later := by
  simp only [faultsOf, callsOf_append, List.filterMap_append]

omit [Sink σ] in
@[simp]
theorem errorLines_append :
    errorLines (activity ++ later) = errorLines activity ++ errorLines later := by
  simp only [errorLines, World.logsOf, occurrencesOf_append, List.filterMap_append, List.filter_append]

section Views

omit [Sink σ]

theorem callsOf_called (calls : List (Call σ)) : callsOf (calls.map called) = calls := by
  rw [callsOf, List.filterMap_map]
  exact List.filterMap_some

theorem occurrencesOf_called (calls : List (Call σ)) : occurrencesOf (calls.map called) = [] := by
  rw [occurrencesOf, List.filterMap_map]
  exact List.filterMap_eq_nil_iff.mpr fun _ _ => rfl

@[simp]
theorem callsOf_happened (trace : List Occurrence) :
    callsOf (trace.map (happened (σ := σ))) = [] := by
  rw [callsOf, List.filterMap_map]
  exact List.filterMap_eq_nil_iff.mpr fun _ _ => rfl

theorem occurrencesOf_happened (trace : List Occurrence) :
    occurrencesOf (trace.map (happened (σ := σ))) = trace := by
  rw [occurrencesOf, List.filterMap_map]
  exact List.filterMap_some

theorem ofRound_eq (round : Round σ) :
    ofRound round = round.calls.map called ++ (round.logs.map .logged).map happened := by
  rw [ofRound, List.map_map]
  rfl

@[simp]
theorem callsOf_ofRound (round : Round σ) : callsOf (ofRound round) = round.calls := by
  rw [ofRound_eq, callsOf_append, callsOf_called, callsOf_happened, List.append_nil]

end Views

omit [Sink σ] in
theorem callsIn_ofRound {round : Round σ} {scene' : Scene}
    (h : ∀ c ∈ round.calls, c.task.scene = scene') :
    callsIn scene (ofRound round) = if scene' = scene then round.calls else [] := by
  rw [callsIn, callsOf_ofRound]
  split
  · next hscene => exact List.filter_eq_self.mpr fun c hc => decide_eq_true ((h c hc).trans hscene)
  · next hscene =>
      exact List.filter_eq_nil_iff.mpr fun c hc => by
        rw [h c hc, decide_eq_true_eq]
        exact hscene

@[simp]
theorem faultsOf_ofRound (round : Round σ) :
    faultsOf (ofRound round) = round.calls.filterMap Call.error? := by
  rw [faultsOf, callsOf_ofRound]

omit [Sink σ] in
/-- A round logs nothing but faults. -/
@[simp]
theorem errorLines_ofRound (round : Round σ) : errorLines (ofRound round) = round.logs := by
  have hoccurrences : occurrencesOf (ofRound round) = round.logs.map .logged := by
    rw [ofRound_eq, occurrencesOf_append, occurrencesOf_called, occurrencesOf_happened, List.nil_append]
  have hlines : World.logsOf (round.logs.map .logged) = round.logs := by
    rw [World.logsOf, List.filterMap_map]
    exact List.filterMap_some
  rw [errorLines, hoccurrences, hlines, List.filter_eq_self]
  intro l hl
  obtain ⟨e, -, rfl⟩ := List.mem_map.mp hl
  rfl

omit [Sink σ] in
theorem errorLines_happened {trace : List Occurrence} (h : ∀ o ∈ trace, o.IsMild) :
    errorLines (trace.map (happened (σ := σ))) = [] := by
  rw [errorLines, occurrencesOf_happened, List.filter_eq_nil_iff]
  intro l hl
  obtain ⟨o, ho, hlogged⟩ := List.mem_filterMap.mp hl
  cases o <;> simp only [reduceCtorEq, Option.some.injEq] at hlogged
  subst hlogged
  exact fun hlevel => h _ ho (of_decide_eq_true hlevel)

end Activity

open Activity

def RunError.fault? : RunError → Option DeliveryError
  | delivery e => some e
  | client _ | denied _ | unexpectedState .. | pollLimitExceeded .. | cancelled | terminal _
  | outOfOrder .. | transition _ => none

/-- An error line about a fault: its message by itself, or after words about what went wrong. -/
def LogLine.TellsOf (l : LogLine) (e : DeliveryError) : Prop :=
  l.level = .error ∧
    ∃ opening ∈ ["", "Failed to report failure to modules: ", "Module cleanup failed: "],
      l.text = opening ++ e.message

theorem Round.logs_tell {σ : Type} (round : Round σ) :
    List.Forall₂ LogLine.TellsOf round.logs round.failures.tail := by
  rw [Round.logs, List.forall₂_map_left_iff, List.forall₂_same]
  exact fun e _ => ⟨rfl, "", List.mem_cons_self, (String.empty_append).symm⟩

/-- A round of at most one fault returns it and logs nothing. -/
theorem Round.logs_eq_nil {σ : Type} {round : Round σ} (hsingle : round.failures = round.error?.toList) :
    round.logs = [] := by
  rw [Round.logs, hsingle]
  cases round.error? <;> rfl

/-- Every fault is there once: as the fault that is returned, or in an error line of its own. There are no
other error lines. -/
def Activity.Accounts {σ : Type} [Sink σ] (activity : List (Activity σ)) (returned : Option RunError) :
    Prop :=
  ∃ told : List DeliveryError,
    (faultsOf activity).Perm ((returned.bind RunError.fault?).toList ++ told) ∧
      List.Forall₂ LogLine.TellsOf (errorLines activity) told

namespace Activity.Accounts

variable {σ : Type} [Sink σ] {activity later : List (Activity σ)} {returned returned' : Option RunError}

theorem nil : Accounts ([] : List (Activity σ)) none := ⟨[], .refl _, .nil⟩

/-- Later faults are returned instead of what was to be returned before, or told. -/
theorem append (h : Accounts activity returned) (told : List DeliveryError)
    (hfaults : ((returned.bind RunError.fault?).toList ++ faultsOf later).Perm
      ((returned'.bind RunError.fault?).toList ++ told))
    (htold : List.Forall₂ LogLine.TellsOf (errorLines later) told) :
    Accounts (activity ++ later) returned' := by
  obtain ⟨earlier, hearlier, hlines⟩ := h
  refine ⟨earlier ++ told, ?_, ?_⟩
  · rw [faultsOf_append]
    calc faultsOf activity ++ faultsOf later
        ~ ((returned.bind RunError.fault?).toList ++ earlier) ++ faultsOf later :=
          hearlier.append_right _
      _ ~ earlier ++ ((returned.bind RunError.fault?).toList ++ faultsOf later) := by
          rw [← List.append_assoc]
          exact List.perm_append_comm.append_right _
      _ ~ earlier ++ ((returned'.bind RunError.fault?).toList ++ told) := hfaults.append_left _
      _ ~ (returned'.bind RunError.fault?).toList ++ (earlier ++ told) := by
          rw [← List.append_assoc, ← List.append_assoc]
          exact List.perm_append_comm.append_right _
  · rw [errorLines_append]
    exact List.rel_append hlines htold

/-- A round of at most one fault, which is to be returned. -/
theorem ofRound {round : Round σ} (h : Accounts activity returned)
    (hreturned : returned.bind RunError.fault? = none)
    (hfaults : round.calls.filterMap Call.error? = round.failures)
    (hsingle : round.failures = round.error?.toList) :
    Accounts (activity ++ Activity.ofRound round) (round.error?.map .delivery) := by
  refine h.append [] ?_ ?_
  · have hfault : (round.error?.map RunError.delivery).bind RunError.fault? = round.error? := by
      cases round.error? <;> rfl
    rw [hreturned, hfault, faultsOf_ofRound, hfaults, List.append_nil]
    exact .of_eq hsingle
  · rw [errorLines_ofRound, Round.logs_eq_nil hsingle]
    exact .nil

/-- A trace without errors changes nothing. -/
theorem happened (h : Accounts activity returned) {trace : List Occurrence}
    (hmild : ∀ o ∈ trace, o.IsMild) :
    Accounts (activity ++ trace.map .happened) returned := by
  refine h.append [] ?_ ?_
  · rw [faultsOf, callsOf_happened]
    exact .refl _
  · rw [errorLines_happened hmild]
    exact .nil

end Activity.Accounts

/-! ### From the outcome to the end of a run -/

/-- The error that a run ends with, or an applicant. -/
def errorOf {α : Type} : Except Stop α → Option RunError
  | .error (.error e) => some e
  | .error .hung | .ok _ => none

theorem errorOf_eq_none_iff {α : Type} {result : Except Stop α} (h : result ≠ .error .hung) :
    errorOf result = none ↔ ∃ a, result = .ok a := by
  rcases result with (e | _) | a
  · simp [errorOf]
  · exact absurd rfl h
  · simp [errorOf]

theorem errorOf_eq_some_iff {α : Type} {result : Except Stop α} {e : RunError} :
    errorOf result = some e ↔ result = .error (.error e) := by
  rcases result with (e | _) | a <;> simp [errorOf]

/-- The first error of a run in the order of its parts, when the applicant ends with `asked`. -/
def Activity.foremost {σ : Type} [Sink σ] (asked : Option RunError) (activity : List (Activity σ)) :
    Option RunError :=
  (((faultsIn .start activity).head?.map .delivery).or asked).or
    (((faultsIn .deliver activity).head?.map .delivery).or
      ((faultsIn .cleanUp activity).head?.map .delivery))

namespace Handover

variable {σ : Type} [Sink σ]

omit [Sink σ] in
def Outcome.error? (o : Outcome σ) : Option RunError :=
  match o.result with
  | .error e => some e
  | .ok _ => none

/-- The clean-up comes last but for one line, which is an error line when there was an error before. -/
theorem exists_activity_close (o : Outcome σ) : ∃ last : List (Activity σ),
    (close o).activity = o.activity ++ (ofRound o.registry.cleanUp ++ last) ∧
      callsOf last = [] ∧
      errorLines last = match o.error?, o.registry.cleanUp.error? with
        | some _, some f => [⟨.error, "Module cleanup failed: " ++ f.message⟩]
        | _, _ => [] := by
  rcases hresult : o.result with e | d <;> rcases hfault : o.registry.cleanUp.error? with _ | f <;>
    simp only [close, Outcome.error?, hresult, hfault, List.append_assoc] <;>
    exact ⟨_, rfl, rfl, rfl⟩

theorem callsIn_close (scene : Scene) (o : Outcome σ) :
    callsIn scene (close o).activity =
      callsIn scene o.activity ++ if .cleanUp = scene then o.registry.cleanUp.calls else [] := by
  obtain ⟨last, hactivity, hcalls, -⟩ := exists_activity_close o
  have hround : callsIn scene (ofRound o.registry.cleanUp) =
      if .cleanUp = scene then o.registry.cleanUp.calls else [] :=
    callsIn_ofRound fun c hc => by rw [o.registry.task_cleanUp c hc, Task.scene]
  have hlast : callsIn scene last = [] := by rw [callsIn, hcalls, List.filter_nil]
  rw [hactivity, callsIn_append, callsIn_append, hround, hlast, List.append_nil]

/-- The report comes last but for a line about the fault that ended it. -/
theorem exists_activity_giveUp (e : RunError) (r : Registry σ) (s : Session) :
    ∃ last : List (Activity σ), (giveUp e r s).activity = ofRound (r.report e) ++ last ∧
      callsOf last = [] ∧
      List.Forall₂ LogLine.TellsOf (errorLines last) (r.report e).error?.toList := by
  refine ⟨_, rfl, ?_⟩
  cases (r.report e).error? with
  | none => exact ⟨rfl, .nil⟩
  | some f => exact ⟨rfl, .cons ⟨rfl, "Failed to report failure to modules: ", by simp, rfl⟩ .nil⟩

theorem callsOf_close (o : Outcome σ) :
    callsOf (close o).activity = callsOf o.activity ++ o.registry.cleanUp.calls := by
  obtain ⟨last, hactivity, hcalls, -⟩ := exists_activity_close o
  rw [hactivity, callsOf_append, callsOf_append, callsOf_ofRound, hcalls, List.append_nil]

theorem registry_close (o : Outcome σ) : (close o).registry = o.registry.cleanUp.registry := by
  unfold close
  dsimp only
  split <;> rfl

theorem errorOf_close (o : Outcome σ) :
    errorOf (close o).result = o.error?.or (o.registry.cleanUp.error?.map .delivery) := by
  rcases hresult : o.result with e | d <;> rcases hfault : o.registry.cleanUp.error? with _ | f <;>
    simp [close, Outcome.error?, hresult, hfault, errorOf, Except.mapError]

/-- A ticket with a number leaves nothing to fail but the delivery. -/
theorem error?_succeed (secret : String) (r : Registry σ) {s : Session} {id : UInt64}
    (hid : s.ticket.id = some id) :
    (succeed secret r s).error? = (r.deliver secret).error?.map .delivery := by
  rw [succeed, Outcome.error?, hid]
  cases (r.deliver secret).error? <;> rfl

theorem close_eq_ok {o : Outcome σ} {d : Delivered} (h : (close o).result = .ok d) : o.result = .ok d := by
  rcases hresult : o.result with e | d' <;> rcases hfault : o.registry.cleanUp.error? with _ | f <;>
    simp [close, hresult, hfault, Except.mapError] at h ⊢
  exact h

/-- Of the faults of a clean-up the first is returned, or told last when another error is returned. -/
theorem accounts_close {o : Outcome σ} {earlier : List (Activity σ)}
    (h : Accounts (earlier ++ o.activity) o.error?) :
    Accounts ((close o).after earlier).activity (errorOf (close o).result) := by
  obtain ⟨last, hactivity, hcalls, hlast⟩ := exists_activity_close o
  have hfaults : faultsOf (ofRound o.registry.cleanUp ++ last) = o.registry.cleanUp.failures := by
    rw [faultsOf, callsOf_append, callsOf_ofRound, hcalls, List.append_nil]
    rfl
  have hlogs := o.registry.cleanUp.logs_tell
  rw [Report.after, hactivity, ← List.append_assoc, errorOf_close]
  cases hbefore : o.error? with
  | none =>
    rw [hbefore] at h hlast
    refine h.append o.registry.cleanUp.failures.tail ?_ ?_
    · rw [hfaults, Round.error?]
      cases o.registry.cleanUp.failures <;> exact .refl _
    · rw [errorLines_append, errorLines_ofRound, hlast, List.append_nil]
      exact hlogs
  | some e =>
    rw [hbefore] at h hlast
    refine h.append (o.registry.cleanUp.failures.tail ++ o.registry.cleanUp.error?.toList) ?_ ?_
    · rw [hfaults, Round.error?]
      apply List.Perm.append_left
      cases o.registry.cleanUp.failures with
      | nil => exact .refl _
      | cons f rest => exact (List.perm_append_singleton f rest).symm
    · rw [errorLines_append, errorLines_ofRound, hlast]
      refine List.rel_append hlogs ?_
      cases o.registry.cleanUp.error? with
      | none => exact .nil
      | some f => exact .cons ⟨rfl, "Module cleanup failed: ", by simp, rfl⟩ .nil

/-- The accounts of a run before its clean-up, when the applicant ends with `asked`. -/
structure Outcome.Accounted (asked : Except Stop String) (before : List (Activity σ)) (o : Outcome σ) :
    Prop where
  error_eq : o.error? = (((faultsIn .start before).head?.map .delivery).or (errorOf asked)).or
    ((faultsIn .deliver before).head?.map .delivery)
  heard : faultsIn .start before = [] → asked ≠ .error .hung
  sole : faultsIn .start before ++ faultsIn .deliver before = [] ∨
    ∃ f, faultsIn .start before ++ faultsIn .deliver before = [f] ∧ o.error? = some (.delivery f)
  unclean : callsIn .cleanUp before = []
  accounts : Accounts before o.error?

section Parts

variable {registry : Registry σ} {trace : List Occurrence}

theorem callsIn_start (scene : Scene) :
    callsIn scene (ofRound registry.start) = if .start = scene then registry.start.calls else [] :=
  callsIn_ofRound fun c hc => by rw [registry.task_start c hc, Task.scene]

theorem callsIn_dispatch (hfresh : registry.dispatched = false) (task : Task) (scene : Scene) :
    callsIn scene (ofRound (registry.dispatch task)) =
      if task.scene = scene then (registry.dispatch task).calls else [] :=
  callsIn_ofRound fun c hc => by rw [Registry.task_dispatch hfresh task c hc]

omit [Sink σ] in
theorem callsIn_happened (scene : Scene) : callsIn scene (trace.map (happened (σ := σ))) = [] := by
  rw [callsIn, callsOf_happened, List.filter_nil]

variable (registry) in
theorem accounts_start : Accounts (ofRound registry.start) (registry.start.error?.map .delivery) :=
  Accounts.nil.ofRound rfl registry.faults_start registry.failures_start

/-- A module that does not start gives the error of the run. -/
theorem accounted_unstarted {asked : Except Stop String} {e : DeliveryError} {ticket : Ticket}
    {r : Registry σ} {world : World} (hstart : registry.start.error? = some e) :
    Outcome.Accounted asked (ofRound registry.start) ⟨.error (.delivery e), [], ticket, r, world⟩ := by
  have hfaults : faultsIn .start (ofRound registry.start) = [e] := by
    rw [faultsIn, callsIn_start, if_pos rfl, registry.faults_start, registry.failures_start, hstart]
    rfl
  have hnone (scene : Scene) (hscene : .start ≠ scene) : callsIn scene (ofRound registry.start) = [] := by
    rw [callsIn_start, if_neg hscene]
  have hdeliver : faultsIn .deliver (ofRound registry.start) = [] := by
    rw [faultsIn, hnone .deliver nofun, List.filterMap_nil]
  have haccounts := accounts_start registry
  rw [hstart] at haccounts
  exact {
    error_eq := by rw [hfaults]; rfl
    heard := fun h => absurd (hfaults.symm.trans h) (List.cons_ne_nil e [])
    sole := .inr ⟨e, by rw [hfaults, hdeliver]; rfl, rfl⟩
    unclean := hnone .cleanUp nofun
    accounts := haccounts }

theorem callsIn_dispatched (hfresh : registry.dispatched = false) (task : Task)
    {last : List (Activity σ)} (hlast : callsOf last = []) (scene : Scene) :
    callsIn scene (ofRound registry.start ++ trace.map happened ++
        (ofRound (registry.start.registry.dispatch task) ++ last)) =
      (if .start = scene then registry.start.calls else []) ++
        if task.scene = scene then (registry.start.registry.dispatch task).calls else [] := by
  have hnothing : callsIn scene last = [] := by rw [callsIn, hlast, List.filter_nil]
  rw [callsIn_append, callsIn_append, callsIn_append, callsIn_start, callsIn_happened,
    callsIn_dispatch (registry.dispatched_start.trans hfresh), hnothing, List.append_nil, List.append_nil]

section Started

variable (hstart : registry.start.error? = none)
include hstart

theorem accounts_started (hmild : ∀ o ∈ trace, o.IsMild) :
    Accounts (ofRound registry.start ++ trace.map happened) none := by
  have haccounts := accounts_start registry
  rw [hstart] at haccounts
  exact haccounts.happened hmild

variable (hfresh : registry.dispatched = false)
include hfresh

/-- When all modules started, the only faults before the clean-up are those of the dispatch. -/
theorem faultsIn_dispatched (task : Task) {last : List (Activity σ)} (hlast : callsOf last = [])
    (scene : Scene) :
    faultsIn scene (ofRound registry.start ++ trace.map happened ++
        (ofRound (registry.start.registry.dispatch task) ++ last)) =
      if task.scene = scene then (registry.start.registry.dispatch task).error?.toList else [] := by
  have hdispatch := registry.dispatched_start.trans hfresh
  have hstarted : registry.start.calls.filterMap Call.error? = [] := by
    rw [registry.faults_start, registry.failures_start, hstart]
    rfl
  rw [faultsIn, callsIn_dispatched hfresh task hlast, List.filterMap_append,
    ← Registry.failures_dispatch hdispatch, ← Registry.faults_dispatch hdispatch]
  split <;> split <;> simp only [hstarted, List.filterMap_nil, List.nil_append]

/-- The error of the applicant is that of the run, and what fails when it is reported is told. -/
theorem accounted_giveUp {e : RunError} {s : Session} (hfault : e.fault? = none)
    (hmild : ∀ o ∈ trace, o.IsMild) :
    (giveUp e registry.start.registry s).Accounted (.error (.error e))
      (ofRound registry.start ++ trace.map happened ++
        (giveUp e registry.start.registry s).activity) := by
  have hdispatch := registry.dispatched_start.trans hfresh
  obtain ⟨last, hactivity, hcalls, hlines⟩ := exists_activity_giveUp e registry.start.registry s
  rw [Registry.report] at hactivity hlines
  have hnone (scene : Scene) (hscene : .report ≠ scene) :
      faultsIn scene (ofRound registry.start ++ trace.map happened ++
        (ofRound (registry.start.registry.dispatch (.report e)) ++ last)) = [] := by
    rw [faultsIn_dispatched hstart hfresh _ hcalls]
    exact if_neg hscene
  have hstartless := hnone .start (by decide)
  have hdeliverless := hnone .deliver (by decide)
  have hfaults : faultsOf (ofRound (registry.start.registry.dispatch (.report e)) ++ last) =
      (registry.start.registry.dispatch (.report e)).error?.toList := by
    rw [faultsOf, callsOf_append, callsOf_ofRound, hcalls, List.append_nil,
      Registry.faults_dispatch hdispatch, Registry.failures_dispatch hdispatch]
  have hlogs := Round.logs_eq_nil (Registry.failures_dispatch hdispatch (.report e))
  have herror : (giveUp e registry.start.registry s).error? = some e := rfl
  rw [hactivity]
  exact {
    error_eq := by
      rw [herror, hstartless, hdeliverless]
      rfl
    heard _ h := by cases h
    sole := .inl (by rw [hstartless, hdeliverless]; rfl)
    unclean := by
      rw [callsIn_dispatched hfresh _ hcalls]
      rfl
    accounts := by
      refine (accounts_started hstart hmild).append
        (registry.start.registry.dispatch (.report e)).error?.toList ?_ ?_
      · rw [hfaults, herror, Option.bind_some, hfault]
        exact .refl _
      · rw [errorLines_append, errorLines_ofRound, hlogs]
        exact hlines }

/-- A fault of the delivery is the error of the run. -/
theorem accounted_succeed {secret : String} {s : Session} {id : UInt64} (hid : s.ticket.id = some id)
    (hmild : ∀ o ∈ trace, o.IsMild) :
    (succeed secret registry.start.registry s).Accounted (.ok secret)
      (ofRound registry.start ++ trace.map happened ++
        (succeed secret registry.start.registry s).activity) := by
  have hdispatch := registry.dispatched_start.trans hfresh
  have hactivity : (succeed secret registry.start.registry s).activity =
      ofRound (registry.start.registry.dispatch (.deliver secret)) ++ [] := (List.append_nil _).symm
  have hfaults (scene : Scene) : faultsIn scene (ofRound registry.start ++ trace.map happened ++
      (ofRound (registry.start.registry.dispatch (.deliver secret)) ++ [])) =
      if .deliver = scene then (registry.start.registry.dispatch (.deliver secret)).error?.toList
      else [] :=
    faultsIn_dispatched hstart hfresh (.deliver secret) rfl scene
  have herror : (succeed secret registry.start.registry s).error? =
      (registry.start.registry.dispatch (.deliver secret)).error?.map .delivery :=
    error?_succeed secret _ hid
  have hstarted := (hfaults .start).trans (if_neg nofun)
  have hdelivered := (hfaults .deliver).trans (if_pos rfl)
  rw [hactivity]
  exact {
    error_eq := by
      rw [herror, hstarted, hdelivered]
      cases (registry.start.registry.dispatch (.deliver secret)).error? <;> rfl
    heard := nofun
    sole := by
      rw [herror, hstarted, hdelivered]
      cases (registry.start.registry.dispatch (.deliver secret)).error? with
      | none => exact .inl rfl
      | some f => exact .inr ⟨f, rfl, rfl⟩
    unclean := by
      rw [callsIn_dispatched hfresh _ rfl]
      rfl
    accounts := by
      rw [herror, List.append_nil]
      exact (accounts_started hstart hmild).ofRound rfl (Registry.faults_dispatch hdispatch _)
        (Registry.failures_dispatch hdispatch _) }

end Started

end Parts

/-! ### Whole runs -/

/-- The course of a run: a module does not start, or the applicant gets the secret, ends with an error, or
comes to no end. -/
inductive Course (a : Applicant) (handle : String) (registry : Registry σ) (world : World) :
    Report σ → Prop where
  | unstarted {e : DeliveryError} (failed : registry.start.error? = some e) :
      Course a handle registry world
        ((close ⟨.error (.delivery e), [], .new handle, registry.start.registry,
          { world with trace := [] }⟩).after (ofRound registry.start))
  | delivered {secret : String} {s : Session} (started : registry.start.error? = none)
      (asked : a.run.on (.fresh handle world) = (.ok secret, s)) :
      Course a handle registry world
        ((close (succeed secret registry.start.registry ⟨s.ticket, { s.world with trace := [] }⟩)).after
          (ofRound registry.start ++ s.world.trace.map happened))
  | reported {e : RunError} {s : Session} (started : registry.start.error? = none)
      (asked : a.run.on (.fresh handle world) = (.error (.error e), s)) :
      Course a handle registry world
        ((close (giveUp e registry.start.registry ⟨s.ticket, { s.world with trace := [] }⟩)).after
          (ofRound registry.start ++ s.world.trace.map happened))
  | hung {s : Session} (started : registry.start.error? = none)
      (asked : a.run.on (.fresh handle world) = (.error .hung, s)) :
      Course a handle registry world
        ⟨.error .hung, ofRound registry.start ++ s.world.trace.map happened, s.ticket,
          registry.start.registry, { s.world with trace := [] }⟩

theorem course_run (a : Applicant) (handle : String) (registry : Registry σ) (world : World) :
    Course a handle registry world (run a handle registry world) := by
  cases hstart : registry.start.error? with
  | some e =>
    rw [run_of_unstarted hstart]
    exact .unstarted hstart
  | none =>
    rcases hrun : a.run.on (.fresh handle world) with ⟨(e | _) | secret, s⟩
    · rw [run_of_error hstart hrun]
      exact .reported hstart hrun
    · rw [run_of_hung hstart hrun]
      exact .hung hstart hrun
    · rw [run_of_ok hstart hrun]
      exact .delivered hstart hrun

section Course

variable {a : Applicant} {handle : String} {registry : Registry σ} {world : World} {report : Report σ}

/-- An applicant that starts with a fresh ticket never ends with a fault of a module. -/
theorem fault?_eq_none {e : RunError} {s : Session}
    (hrun : a.run.on (.fresh handle world) = (.error (.error e), s)) : e.fault? = none := by
  have hleaves := Applicant.run_meets.error (s := .fresh handle world) rfl hrun
  cases e with
  | delivery f => exact hleaves.elim
  | _ => rfl

theorem Course.exists_accounted (h : Course a handle registry world report)
    (hfresh : registry.dispatched = false) (hends : report.result ≠ .error .hung) :
    ∃ (o : Outcome σ) (earlier : List (Activity σ)), report = (close o).after earlier ∧
      o.Accounted (a.run.on (.fresh handle world)).1 (earlier ++ o.activity) := by
  have hmild := a.run_isMild handle world
  cases h with
  | unstarted hfailed =>
    refine ⟨_, _, rfl, ?_⟩
    rw [List.append_nil]
    exact accounted_unstarted hfailed
  | reported hstart hrun =>
    rw [hrun] at hmild ⊢
    exact ⟨_, _, rfl, accounted_giveUp hstart hfresh (fault?_eq_none hrun) hmild⟩
  | delivered hstart hrun =>
    obtain ⟨id, hid⟩ := Applicant.run_meets.ok (s := .fresh handle world) rfl hrun
    rw [hrun] at hmild ⊢
    exact ⟨_, _, rfl, accounted_succeed hstart hfresh hid.2 hmild⟩
  | hung => exact absurd rfl hends

theorem succeed_eq_ok {secret : String} {r : Registry σ} {s : Session} {d : Delivered}
    (h : (succeed secret r s).result = .ok d) :
    (r.deliver secret).error? = none ∧ d.handle = s.ticket.handle ∧ s.ticket.id = some d.id ∧
      d.modules = (r.deliver secret).registry.enabledNames := by
  cases hfault : (r.deliver secret).error? <;> cases hid : s.ticket.id <;>
    simp only [succeed, hfault, hid, reduceCtorEq, Except.ok.injEq] at h
  subst h
  exact ⟨rfl, rfl, rfl, rfl⟩

/-- What a run delivered is what was asked for, under the number that the server granted. -/
theorem Course.spec_of_ok (h : Course a handle registry world report)
    (hfresh : registry.dispatched = false) {d : Delivered} (hok : report.result = .ok d) :
    d.handle = handle ∧ world.Grants d.id ∧
      ((∀ c ∈ callsIn .deliver report.activity, c.after.isEnabled = c.before.isEnabled) →
        d.modules = (callsIn .deliver report.activity).map fun c => c.after.name) := by
  cases h with
  | unstarted => exact nomatch close_eq_ok hok
  | reported => exact nomatch close_eq_ok hok
  | hung => exact nomatch hok
  | @delivered secret s hstart hrun =>
    obtain ⟨hdelivered, hhandle, hid, hmodules⟩ := succeed_eq_ok (close_eq_ok hok)
    have hkept := a.run_handle (.fresh handle world)
    obtain ⟨id, hs, hgranted⟩ :=
      (Applicant.run_grants world).ok (s := .fresh handle world) ⟨rfl, rfl⟩ hrun
    obtain rfl : id = d.id := Option.some.inj (hs.2.symm.trans hid)
    have hdispatch := registry.dispatched_start.trans hfresh
    rw [hrun] at hkept
    have hcalls : callsIn .deliver (ofRound registry.start ++ s.world.trace.map happened ++
        (close (succeed secret registry.start.registry ⟨s.ticket, { s.world with trace := [] }⟩)).activity) =
          (registry.start.registry.dispatch (.deliver secret)).calls := by
      rw [callsIn_append, callsIn_close, callsIn_append, callsIn_start, callsIn_happened]
      exact (List.append_nil _).trans ((callsIn_dispatch hdispatch _ _).trans (if_pos rfl))
    refine ⟨hhandle.trans hkept, hgranted, fun hflag => ?_⟩
    rw [Report.after, hcalls] at hflag ⊢
    exact hmodules.trans (Registry.enabledNames_dispatch hdispatch hdelivered hflag)

end Course

/-- A run that ends is successful when no module failed to start, the applicant got its secret, and neither
the delivery nor the clean-up failed; else it ends with the first error in that order. A fault of the start
or of the delivery is the only one of both, and it is the error of the run. All faults are accounted for:
besides the error that is returned, each is told in one error line, and there are no others. -/
theorem run_accounts (a : Applicant) (handle : String) (registry : Registry σ) (world : World)
    (hfresh : registry.dispatched = false)
    (hends : (run a handle registry world).result ≠ .error .hung) :
    let asked := (a.run.on (.fresh handle world)).1
    let report := run a handle registry world
    ((∃ d, report.result = .ok d) ↔
      faultsIn .start report.activity = [] ∧ (∃ secret, asked = .ok secret) ∧
        faultsIn .deliver report.activity = [] ∧ faultsIn .cleanUp report.activity = []) ∧
    (∀ e, report.result = .error (.error e) ↔ foremost (errorOf asked) report.activity = some e) ∧
    (faultsIn .start report.activity ++ faultsIn .deliver report.activity = [] ∨
      ∃ f, faultsIn .start report.activity ++ faultsIn .deliver report.activity = [f] ∧
        report.result = .error (.error (.delivery f))) ∧
    Accounts report.activity (errorOf report.result) ∧
    ∀ d, report.result = .ok d →
      d.handle = handle ∧ world.Grants d.id ∧
        ((∀ c ∈ callsIn .deliver report.activity, c.after.isEnabled = c.before.isEnabled) →
          d.modules = (callsIn .deliver report.activity).map fun c => c.after.name) := by
  intro asked report
  have hcourse := course_run a handle registry world
  obtain ⟨o, earlier, hreport, haccounted⟩ := hcourse.exists_accounted hfresh hends
  have hin (scene : Scene) : callsIn scene report.activity =
      callsIn scene (earlier ++ o.activity) ++
        if .cleanUp = scene then o.registry.cleanUp.calls else [] := by
    simp only [report, hreport, Report.after, callsIn_append, callsIn_close, List.append_assoc]
  have hbefore (scene : Scene) (hscene : .cleanUp ≠ scene) :
      faultsIn scene report.activity = faultsIn scene (earlier ++ o.activity) := by
    rw [faultsIn, hin, if_neg hscene, List.append_nil, faultsIn]
  have hstart := hbefore .start (by decide)
  have hdeliver := hbefore .deliver (by decide)
  have hcleanUp : faultsIn .cleanUp report.activity = o.registry.cleanUp.failures := by
    rw [faultsIn, hin, if_pos rfl, haccounted.unclean]
    rfl
  have herror : errorOf report.result = foremost (errorOf asked) report.activity := by
    rw [foremost, hstart, hdeliver, hcleanUp, ← Option.or_assoc, ← haccounted.error_eq]
    simp only [report, hreport]
    exact errorOf_close o
  refine ⟨?_, fun e => ?_, ?_, ?_, fun d => hcourse.spec_of_ok hfresh⟩
  · have hheard : faultsIn .start report.activity = [] → asked ≠ .error .hung := by
      rw [hstart]
      exact haccounted.heard
    rw [← errorOf_eq_none_iff hends, herror, foremost]
    simp only [Option.or_eq_none_iff, Option.map_eq_none_iff, List.head?_eq_none_iff, and_assoc]
    refine and_congr_right fun hnone => and_congr_left' ?_
    exact errorOf_eq_none_iff (hheard hnone)
  · rw [← herror, errorOf_eq_some_iff]
  · rw [hstart, hdeliver]
    refine haccounted.sole.imp_right fun hone => ?_
    obtain ⟨f, hsole, hf⟩ := hone
    refine ⟨f, hsole, ?_⟩
    rw [← errorOf_eq_some_iff]
    simp only [report, hreport, Report.after, errorOf_close, hf, Option.some_or]
  · simp only [report, hreport]
    exact accounts_close haccounted.accounts

/-- The request is denied, and both modules fail: the first when it is told so, and each at its clean-up.
The denial is returned, and there are three error lines. -/
theorem run_accounts_rehearsed :
    let reply (status : UInt16) (body : String) : ServerStep :=
      ⟨false, 0, some (.ok ⟨status, .empty, Text.Utf8.encodeString body⟩)⟩
    let script :=
      [reply 201 (Text.braced "\"id\": 7"), reply 200 (Text.braced "\"state\": \"DENIED\"")]
    let world : World :=
      ⟨⟨fun _ => .ok (), .network none⟩, fun _ => default, 0, script, 0, ⟨false, none, none⟩, 0, []⟩
    let a : Applicant := ⟨Client.loopback, ⟨1000, none⟩, true⟩
    let registry : Registry Rehearsal :=
      ⟨[⟨0, "first", true, true, [(.report, .ofText "no room"), (.cleanUp, .ofText "still open")]⟩,
        ⟨1, "second", true, true, [(.cleanUp, .ofText "gone")]⟩], 2, false⟩
    registry.dispatched = false ∧ (run a "disk" registry world).result ≠ .error .hung ∧
      (run a "disk" registry world).result = .error (.error (.denied 7)) ∧
      (errorLines (run a "disk" registry world).activity).length = 3 := by
  intro reply script world a registry
  have hends : (run a "disk" registry world).result ≠ .error .hung := result_ne_hung (by decide)
  obtain ⟨-, herror, -, ⟨told, hfaults, hlines⟩, -⟩ := run_accounts a "disk" registry world rfl hends
  have hdenied : (run a "disk" registry world).result = .error (.error (.denied 7)) :=
    (herror _).mpr (by decide +kernel)
  have hthree : (faultsOf (run a "disk" registry world).activity).length = 3 := by decide +kernel
  refine ⟨rfl, hends, hdenied, ?_⟩
  rw [hlines.length_eq, ← hthree, hfaults.length_eq, hdenied]
  rfl

end Handover

end KeyApproval
