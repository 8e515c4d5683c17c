import KeyApproval.Delivery.Rehearsal
import KeyApproval.Proofs.BaseUrl
import KeyApproval.Proofs.Rounds
import KeyApproval.Proofs.Termination
import KeyApproval.Run.Handover

/-!
# The discipline of delivery

What a whole run asks of its modules and sends to the server, in order: the modules start, the applicant
sends its requests, one outcome goes to the enabled modules, and every module is cleaned up. A module that
does not start keeps all requests and deliveries from being made, but not the clean-up.
-/

namespace KeyApproval

/-- What a run does to others: it gives a task to a module, or it sends a request. -/
inductive Deed where
  | asked (number : Nat) (task : Task)
  | sent (request : Request)

namespace Activity

variable {σ : Type}

def deedsOf (activity : List (Activity σ)) : List Deed :=
  activity.filterMap fun
    | called c => some (.asked c.before.number c.task)
    | happened (.sent r) => some (.sent r)
    | happened _ => none

theorem deedsOf_append (a b : List (Activity σ)) : deedsOf (a ++ b) = deedsOf a ++ deedsOf b :=
  List.filterMap_append

theorem deedsOf_happened (trace : List Occurrence) :
    deedsOf (trace.map (happened (σ := σ))) = (World.requestsOf trace).map .sent := by
  rw [deedsOf, World.requestsOf, List.filterMap_map, List.map_filterMap]
  refine congrArg (List.filterMap · trace) (funext fun o => ?_)
  cases o <;> rfl

theorem deedsOf_ofRound (round : Round σ) :
    deedsOf (ofRound round) = round.calls.map fun c => .asked c.before.number c.task := by
  have hlogs : deedsOf (round.logs.map fun l => happened (σ := σ) (.logged l)) = [] := by
    rw [deedsOf, List.filterMap_map]
    exact List.filterMap_eq_nil_iff.mpr fun _ _ => rfl
  rw [ofRound, deedsOf_append, hlogs, List.append_nil, deedsOf, List.filterMap_map]
  exact congrFun List.filterMap_eq_map round.calls

theorem deedsOf_log (level : Level) (text : String) : deedsOf [log (σ := σ) level text] = [] := rfl

end Activity

open Activity

def tasked {σ : Type} (task : Task) (members : List (Member σ)) : List Deed :=
  members.map fun m => .asked m.number task

theorem mem_tasked {σ : Type} {task task' : Task} {members : List (Member σ)} {number : Nat}
    (h : .asked number task' ∈ tasked task members) :
    task' = task ∧ ∃ m ∈ members, m.number = number := by
  obtain ⟨m, hm, hdeed⟩ := List.mem_map.mp h
  cases hdeed
  exact ⟨rfl, m, hm, rfl⟩

namespace Registry

variable {σ : Type} [Sink σ] (r : Registry σ)

/-- The modules start in order, up to the first that fails. -/
def starts : List Deed := tasked .start (throughFirst (·.failsAt .start) r.members)

/-- The enabled modules get a task in order once they are started, up to the first that fails. -/
def deliveries (task : Task) : List Deed :=
  tasked task (throughFirst (·.failsAt task)
    ((r.members.filter Member.isEnabled).map fun m => (m.call .start).after))

omit [Sink σ] in
/-- All modules are cleaned up in order. -/
def cleanUps : List Deed := tasked .cleanUp r.members

/-- What may stand between the start of the modules and their clean-up, for a run of the applicant that
ends so. -/
inductive MayStand (ending : Except Stop String × Session) : List Deed → Prop where
  | unstarted (h : r.members.any (·.failsAt .start) = true) : MayStand ending []
  | delivered {secret : String} (h : r.members.any (·.failsAt .start) = false)
      (hok : ending.1 = .ok secret) :
      MayStand ending (ending.2.world.requests.map .sent ++ r.deliveries (.deliver secret))
  | reported {e : RunError} (h : r.members.any (·.failsAt .start) = false)
      (herror : ending.1 = .error (.error e)) :
      MayStand ending (ending.2.world.requests.map .sent ++ r.deliveries (.report e))

theorem deedsOf_calls (task : Task) (members : List (Member σ)) :
    ((members.map (·.call task)).map fun c => Deed.asked c.before.number c.task) =
      tasked task members := by
  rw [List.map_map]
  rfl

theorem deedsOf_start : deedsOf (ofRound r.start) = r.starts := by
  rw [deedsOf_ofRound, calls_start, deedsOf_calls]
  rfl

omit [Sink σ] in
theorem cleanUps_congr {r r' : Registry σ}
    (h : r'.members.map Member.number = r.members.map Member.number) : r'.cleanUps = r.cleanUps := by
  have hnumbers (r : Registry σ) : r.cleanUps = (r.members.map Member.number).map (.asked · .cleanUp) := by
    rw [List.map_map]
    rfl
  rw [hnumbers, hnumbers, h]

variable {r}

theorem mem_deliveries {task task' : Task} {number : Nat} (h : .asked number task' ∈ r.deliveries task) :
    task' = task ∧ ∃ m ∈ r.members, m.number = number ∧ m.isEnabled = true := by
  obtain ⟨rfl, m, hm, rfl⟩ := mem_tasked h
  obtain ⟨m', hm', rfl⟩ := List.mem_map.mp ((throughFirst_sublist _ _).subset hm)
  obtain ⟨hmember, henabled⟩ := List.mem_filter.mp hm'
  exact ⟨rfl, m', hmember, rfl, henabled⟩

theorem notMem_sent {number : Nat} {task : Task} (requests : List Request) :
    .asked number task ∉ requests.map Deed.sent := by
  simp

theorem MayStand.of_mem_deliver {ending : Except Stop String × Session} {middle : List Deed}
    {number : Nat} {secret : String} (h : r.MayStand ending middle)
    (hmem : .asked number (.deliver secret) ∈ middle) :
    ending.1 = .ok secret ∧ ∃ m ∈ r.members, m.number = number ∧ m.isEnabled = true := by
  cases h with
  | unstarted => contradiction
  | delivered _ hok =>
    obtain ⟨htask, hmember⟩ := mem_deliveries ((List.mem_append.mp hmem).resolve_left (notMem_sent _))
    cases htask
    exact ⟨hok, hmember⟩
  | reported =>
    obtain ⟨htask, -⟩ := mem_deliveries ((List.mem_append.mp hmem).resolve_left (notMem_sent _))
    contradiction

theorem MayStand.of_mem_report {ending : Except Stop String × Session} {middle : List Deed}
    {number : Nat} {e : RunError} (h : r.MayStand ending middle)
    (hmem : .asked number (.report e) ∈ middle) :
    ending.1 = .error (.error e) ∧ ∃ m ∈ r.members, m.number = number ∧ m.isEnabled = true := by
  cases h with
  | unstarted => contradiction
  | delivered =>
    obtain ⟨htask, -⟩ := mem_deliveries ((List.mem_append.mp hmem).resolve_left (notMem_sent _))
    contradiction
  | reported _ herror =>
    obtain ⟨htask, hmember⟩ := mem_deliveries ((List.mem_append.mp hmem).resolve_left (notMem_sent _))
    cases htask
    exact ⟨herror, hmember⟩

/-- A module that is enabled before it starts is so afterwards, so it does not matter when one looks. -/
theorem deedsOf_dispatch (hfresh : r.dispatched = false)
    (hflag : ∀ m ∈ r.members, (m.call .start).after.isEnabled = m.isEnabled)
    (hstart : r.start.error? = none) (task : Task) :
    deedsOf (ofRound (r.start.registry.dispatch task)) = r.deliveries task := by
  have hstarted : r.start.registry.members.filter Member.isEnabled =
      (r.members.filter Member.isEnabled).map fun m => (m.call .start).after := by
    rw [members_start r hstart, List.filter_map]
    exact congrArg (List.map _) (List.filter_congr hflag)
  have hfresh' : r.start.registry.dispatched = false := r.dispatched_start.trans hfresh
  rw [deedsOf_ofRound, calls_dispatch hfresh', deedsOf_calls, hstarted]
  rfl

end Registry

namespace Handover

variable {σ : Type} [Sink σ]

theorem deedsOf_close (o : Outcome σ) :
    deedsOf (close o).activity = deedsOf o.activity ++ o.registry.cleanUps := by
  have hcleanUp : deedsOf (ofRound o.registry.cleanUp) = o.registry.cleanUps := by
    rw [deedsOf_ofRound, Registry.cleanUp, Registry.deedsOf_calls]
    rfl
  unfold close
  dsimp only
  split <;> simp only [deedsOf_append, hcleanUp, deedsOf_log, List.append_nil, List.append_assoc]

theorem close_result_ne_hung (o : Outcome σ) : (close o).result ≠ .error .hung := by
  unfold close
  dsimp only
  split <;> simp [Except.mapError]

section Run

variable {a : Applicant} {handle : String} {registry : Registry σ} {world : World} {s : Session}

theorem run_of_unstarted {e : DeliveryError} (hstart : registry.start.error? = some e) :
    run a handle registry world =
      (close ⟨.error (.delivery e), [], .new handle, registry.start.registry,
        { world with trace := [] }⟩).after (ofRound registry.start) := by
  simp only [run, hstart]

theorem run_of_ok {secret : String} (hstart : registry.start.error? = none)
    (hrun : a.run.on (.fresh handle world) = (.ok secret, s)) :
    run a handle registry world =
      (close (succeed secret registry.start.registry ⟨s.ticket, { s.world with trace := [] }⟩)).after
        (ofRound registry.start ++ s.world.trace.map happened) := by
  rw [Session.fresh] at hrun
  simp only [run, hstart, hrun]

theorem run_of_error {e : RunError} (hstart : registry.start.error? = none)
    (hrun : a.run.on (.fresh handle world) = (.error (.error e), s)) :
    run a handle registry world =
      (close (giveUp e registry.start.registry ⟨s.ticket, { s.world with trace := [] }⟩)).after
        (ofRound registry.start ++ s.world.trace.map happened) := by
  rw [Session.fresh] at hrun
  simp only [run, hstart, hrun]

theorem run_of_hung (hstart : registry.start.error? = none)
    (hrun : a.run.on (.fresh handle world) = (.error .hung, s)) :
    run a handle registry world =
      ⟨.error .hung, ofRound registry.start ++ s.world.trace.map happened, s.ticket,
        registry.start.registry, { s.world with trace := [] }⟩ := by
  rw [Session.fresh] at hrun
  simp only [run, hstart, hrun]

/-- A run comes to no end only where the applicant comes to none. -/
theorem result_eq_hung_iff : (run a handle registry world).result = .error .hung ↔
    registry.start.error? = none ∧ (a.run.on (.fresh handle world)).1 = .error .hung := by
  cases hstart : registry.start.error? with
  | some e =>
    rw [run_of_unstarted hstart]
    exact iff_of_false (close_result_ne_hung _) (fun h => Option.some_ne_none e h.1)
  | none =>
    rcases hrun : a.run.on (.fresh handle world) with ⟨(e | _) | secret, s⟩
    · rw [run_of_error hstart hrun]
      exact iff_of_false (close_result_ne_hung _) (by simp)
    · rw [run_of_hung hstart hrun]
      exact iff_of_true rfl ⟨rfl, rfl⟩
    · rw [run_of_ok hstart hrun]
      exact iff_of_false (close_result_ne_hung _) (by simp)

theorem result_ne_hung (h : ∀ step ∈ world.script, step.reply ≠ none) :
    (run a handle registry world).result ≠ .error .hung :=
  fun hhung => a.run_ne_hung (s := .fresh handle world) h (result_eq_hung_iff.mp hhung).2

/-- What is done once the modules are started: the requests, the dispatch of an outcome, the clean-up. -/
theorem deedsOf_close_dispatched {o : Outcome σ} {task : Task} (hfresh : registry.dispatched = false)
    (hflag : ∀ m ∈ registry.members, (m.call .start).after.isEnabled = m.isEnabled)
    (hstart : registry.start.error? = none)
    (hactivity : deedsOf o.activity = deedsOf (ofRound (registry.start.registry.dispatch task)))
    (hregistry : o.registry = (registry.start.registry.dispatch task).registry)
    (trace : List Occurrence) :
    deedsOf ((close o).after (ofRound registry.start ++ trace.map happened)).activity =
      registry.starts ++ ((World.requestsOf trace).map .sent ++ registry.deliveries task) ++
        registry.cleanUps := by
  have hcleanUps : o.registry.cleanUps = registry.cleanUps := by
    rw [hregistry]
    exact Registry.cleanUps_congr ((Registry.numbers_dispatch task).trans registry.numbers_start)
  rw [Report.after, deedsOf_append, deedsOf_append, deedsOf_close, registry.deedsOf_start,
    deedsOf_happened, hactivity, Registry.deedsOf_dispatch hfresh hflag hstart, hcleanUps]
  simp only [List.append_assoc]

/-- Between the start of the modules and their clean-up stands nothing when a module failed to start; else
the requests of the applicant, and then the delivery of its secret or the report of its error. -/
theorem exists_deedsOf_run (hfresh : registry.dispatched = false)
    (hflag : ∀ m ∈ registry.members, (m.call .start).after.isEnabled = m.isEnabled)
    (hends : (run a handle registry world).result ≠ .error .hung) :
    ∃ middle : List Deed, deedsOf (run a handle registry world).activity =
        registry.starts ++ middle ++ registry.cleanUps ∧
      registry.MayStand (a.run.on (.fresh handle world)) middle := by
  cases hstart : registry.start.error? with
  | some e =>
    have hfailed : registry.members.any (·.failsAt .start) = true := by
      rw [← Bool.not_eq_false, ← registry.error?_start_eq_none_iff, hstart]
      exact Option.some_ne_none e
    refine ⟨[], ?_, .unstarted hfailed⟩
    rw [run_of_unstarted hstart, Report.after, deedsOf_append, deedsOf_close, registry.deedsOf_start,
      List.append_nil]
    exact congrArg (registry.starts ++ ·) (Registry.cleanUps_congr registry.numbers_start)
  | none =>
    have hstarted := registry.error?_start_eq_none_iff.mp hstart
    rcases hrun : a.run.on (.fresh handle world) with ⟨(e | _) | secret, s⟩
    · refine ⟨_, ?_, .reported hstarted rfl⟩
      rw [run_of_error hstart hrun]
      refine deedsOf_close_dispatched hfresh hflag hstart ?_ rfl s.world.trace
      rw [giveUp, deedsOf_append, Registry.report]
      split <;> exact List.append_nil _
    · exact absurd (result_eq_hung_iff.mpr ⟨hstart, congrArg Prod.fst hrun⟩) hends
    · refine ⟨_, ?_, .delivered hstarted rfl⟩
      rw [run_of_ok hstart hrun]
      exact deedsOf_close_dispatched hfresh hflag hstart rfl rfl s.world.trace

end Run

/-- A run that ends has asked the modules to start up to the first that fails, and last of all it has
cleaned up every module. In between it has done nothing when a module failed to start; else it has sent
the requests of the applicant and given its one outcome, the secret or the error, to the enabled modules
up to the first that fails. No other module is given the outcome. -/
theorem deedsOf_run (a : Applicant) (handle : String) (registry : Registry σ) (world : World)
    (hfresh : registry.dispatched = false)
    (hflag : ∀ m ∈ registry.members, (m.call .start).after.isEnabled = m.isEnabled)
    (hends : (run a handle registry world).result ≠ .error .hung) :
    let ending := a.run.on (.fresh handle world)
    let deeds := deedsOf (run a handle registry world).activity
    (∃ middle, deeds = registry.starts ++ middle ++ registry.cleanUps ∧
      registry.MayStand ending middle) ∧
    (∀ number secret, .asked number (.deliver secret) ∈ deeds →
      ending.1 = .ok secret ∧ ∃ m ∈ registry.members, m.number = number ∧ m.isEnabled = true) ∧
    ∀ number e, .asked number (.report e) ∈ deeds →
      ending.1 = .error (.error e) ∧ ∃ m ∈ registry.members, m.number = number ∧ m.isEnabled = true := by
  intro ending deeds
  obtain ⟨middle, hdeeds, hmiddle⟩ := exists_deedsOf_run hfresh hflag hends
  have hdispatched {number : Nat} {task : Task} (htask : task ≠ .start ∧ task ≠ .cleanUp)
      (hmem : .asked number task ∈ deeds) : .asked number task ∈ middle := by
    simp only [deeds, hdeeds, List.mem_append] at hmem
    rcases hmem with (hmem | hmem) | hmem
    · exact absurd (mem_tasked hmem).1 htask.1
    · exact hmem
    · exact absurd (mem_tasked hmem).1 htask.2
  refine ⟨⟨middle, hdeeds, hmiddle⟩, fun number secret hmem => ?_, fun number e hmem => ?_⟩
  · exact hmiddle.of_mem_deliver (hdispatched ⟨nofun, nofun⟩ hmem)
  · exact hmiddle.of_mem_report (hdispatched ⟨nofun, nofun⟩ hmem)

/-- The second module is disabled and the third fails at the secret, so the fourth never gets it. -/
theorem deedsOf_run_rehearsed :
    let reply (status : UInt16) (body : String) : ServerStep :=
      ⟨false, 0, some (.ok ⟨status, .empty, Text.Utf8.encodeString body⟩)⟩
    let script := [reply 201 (Text.braced "\"id\": 7"), reply 200 (Text.braced "\"state\": \"ACCEPTED\""),
      reply 200 "sesame\n"]
    let world : World :=
      ⟨⟨fun _ => .ok (), .network none⟩, fun _ => default, 0, script, 0, ⟨false, none, none⟩, 0, []⟩
    let a : Applicant := ⟨Client.loopback, ⟨1000, none⟩, true⟩
    let registry : Registry Rehearsal :=
      ⟨[⟨0, "first", true, true, []⟩, ⟨1, "second", false, true, []⟩,
        ⟨2, "third", true, true, [(.deliver, .ofText "no room")]⟩, ⟨3, "fourth", true, true, []⟩], 4, false⟩
    registry.dispatched = false ∧
      (∀ m ∈ registry.members, (m.call .start).after.isEnabled = m.isEnabled) ∧
      (run a "disk" registry world).result ≠ .error .hung ∧
      deedsOf (run a "disk" registry world).activity =
        [.asked 0 .start, .asked 1 .start, .asked 2 .start, .asked 3 .start] ++
          ((a.run.on (.fresh "disk" world)).2.world.requests.map .sent ++
            [.asked 0 (.deliver "sesame"), .asked 2 (.deliver "sesame")]) ++
          [.asked 0 .cleanUp, .asked 1 .cleanUp, .asked 2 .cleanUp, .asked 3 .cleanUp] := by
  intro reply script world a registry
  have hflag : ∀ m ∈ registry.members, (m.call .start).after.isEnabled = m.isEnabled := by decide
  have hsecret : (a.run.on (.fresh "disk" world)).1.toOption = some "sesame" := by decide +kernel
  have hends : (run a "disk" registry world).result ≠ .error .hung := result_ne_hung (by decide)
  obtain ⟨⟨middle, hdeeds, hmiddle⟩, -⟩ := deedsOf_run a "disk" registry world rfl hflag hends
  have hstarts : registry.starts = [.asked 0 .start, .asked 1 .start, .asked 2 .start, .asked 3 .start] :=
    rfl
  have hdeliveries : registry.deliveries (.deliver "sesame") =
      [.asked 0 (.deliver "sesame"), .asked 2 (.deliver "sesame")] := rfl
  have hcleanUps : registry.cleanUps =
      [.asked 0 .cleanUp, .asked 1 .cleanUp, .asked 2 .cleanUp, .asked 3 .cleanUp] := rfl
  refine ⟨rfl, hflag, hends, ?_⟩
  cases hmiddle with
  | unstarted hfailed =>
    have hstarted : registry.members.any (·.failsAt .start) = false := rfl
    exact absurd (hstarted.symm.trans hfailed) Bool.false_ne_true
  | delivered _ hok =>
    rw [hok] at hsecret
    rw [hdeeds, Option.some.inj hsecret, hstarts, hdeliveries, hcleanUps]
  | reported _ herror =>
    rw [herror] at hsecret
    exact absurd hsecret.symm (Option.some_ne_none _)

end Handover

end KeyApproval
