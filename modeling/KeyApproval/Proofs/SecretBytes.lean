import KeyApproval.Delivery.WriterSink
import KeyApproval.Proofs.Answers
import KeyApproval.Proofs.Faults
import KeyApproval.Proofs.WellFormedText

/-!
# The secret, byte for byte

The secret that a call returns spells the body of the answer but for one line feed, and a body that spells
no text is refused as a whole. A writer among the modules of a run takes the bytes of the secret and no
others, when the delivery reaches it, and in all other runs it takes nothing.
-/

namespace KeyApproval

/-! ### What a call returns -/

namespace Http.Response

theorem handsOver_iff {r : Response} {secret : String} :
    r.HandsOver secret ↔ r.status = 200 ∧
      (r.body = secret.toUTF8.data.toList ∧ secret.toList.getLast? ≠ some '\n' ∨
        r.body = (secret ++ "\n").toUTF8.data.toList) := by
  unfold HandsOver
  simp only [Text.Utf8.decode_eq_ok_iff, ← Text.Utf8.encodeString_eq, Text.Utf8.encodeString,
    String.toList_append]
  refine and_congr_right fun _ => ?_
  constructor
  · rintro ⟨text, hbody, rfl | ⟨rfl, hlast⟩⟩
    · exact .inr hbody
    · exact .inl ⟨hbody, hlast⟩
  · rintro (⟨hbody, hlast⟩ | hbody)
    · exact ⟨_, hbody, .inr ⟨rfl, hlast⟩⟩
    · exact ⟨_, hbody, .inl rfl⟩

end Http.Response

theorem Client.readSecret_of_malformed {r : Http.Response} (h : ¬ Text.Utf8.WellFormed r.body) :
    ∃ text, readSecret r = .error (.invalidResponse text) := by
  cases hdecode : Text.Utf8.decode r.body with
  | ok text => exact absurd (Text.Utf8.wellFormed_iff.mpr ⟨text, Text.Utf8.decode_eq_ok_iff.mp hdecode⟩) h
  | error d =>
    unfold readSecret Http.Response.text
    rw [hdecode]
    exact ⟨_, rfl⟩

/-! ### Writers -/

/-- A writer that never fails. -/
structure Writer.Works (w : Writer) : Prop where
  writes : w.writeFault = none
  flushes : w.flushFault = none
  takes : w.limit ≠ some 0

theorem Writer.writeAll_of_works {w : Writer} (h : w.Works) (bytes : List UInt8) :
    (w.writeAll bytes).1 = .ok () := by
  fun_induction writeAll w bytes with
  | case1 => rfl
  | case2 w _ _ fault hfault => exact absurd (hfault.symm.trans h.writes) (Option.some_ne_none fault)
  | case3 => rfl
  | case4 w _ _ hlimit => exact absurd hlimit h.takes
  | case5 w b rest n hfault hlimit ih => exact ih ⟨h.writes, h.flushes, h.takes⟩

/-- The writer gets the bytes of the secret, whatever comes of flushing them. -/
theorem WriterSink.taken_deliver {w : WriterSink} (h : w.writer.Works) (secret : String) :
    (w.deliver secret).2.writer.taken = w.writer.taken ++ Text.Utf8.encodeString secret := by
  have hwritten := Writer.writeAll_of_works h (Text.Utf8.encodeString secret)
  rw [← Writer.taken_writeAll hwritten]
  unfold deliver
  dsimp only
  split <;> rfl

/-! ### One module among those of a round -/

namespace Visit

variable {σ : Type} [Sink σ]

/-- A visit reaches a module that it is meant for when none before it fails. -/
theorem getElem?_members_run (p : Member σ → Bool) (task : Task) (front : List (Member σ)) (m : Member σ)
    (back : List (Member σ)) :
    (run (Plan.giveTo p task) (front ++ m :: back)).members[front.length]? =
      some (if p m ∧ ∀ m' ∈ front, p m' → m'.failsAt task = false then (m.call task).after else m) := by
  induction front with
  | nil =>
    by_cases hp : p m = true
    · cases hf : (m.call task).error? <;> simp [run, Plan.giveTo, hp, hf]
    · simp [run, Plan.giveTo, hp]
  | cons m' front ih =>
    by_cases hp : p m' = true
    · cases hf : (m'.call task).error? with
      | none => simpa [run, Plan.giveTo, hp, hf, Member.failsAt] using ih
      | some e => simp [run, Plan.giveTo, hp, hf, Member.failsAt]
    · simpa [run, Plan.giveTo, hp] using ih

end Visit

/-- No module before a place fails at the task, once all modules are started. -/
def Clear {σ : Type} [Sink σ] (front : List (Member σ)) (task : Task) : Prop :=
  ∀ m ∈ front, (m.call .start).after.isEnabled = true → (m.call .start).after.failsAt task = false

instance {σ : Type} [Sink σ] (front : List (Member σ)) (task : Task) : Decidable (Clear front task) :=
  inferInstanceAs (Decidable (∀ m ∈ front, _ → _))

theorem Registry.getElem?_members_dispatch {σ : Type} [Sink σ] {r : Registry σ} {front back : List (Member σ)}
    {m : Member σ} (hfresh : r.dispatched = false) (hmembers : r.members = front ++ m :: back)
    (hstart : r.start.error? = none) (task : Task) :
    (r.start.registry.dispatch task).registry.members[front.length]? =
      some (if (m.call .start).after.isEnabled ∧ Clear front task then ((m.call .start).after.call task).after
        else (m.call .start).after) := by
  have hplace := Visit.getElem?_members_run Member.isEnabled task
    (front.map fun m => (m.call .start).after) (m.call .start).after
    (back.map fun m => (m.call .start).after)
  rw [List.length_map] at hplace
  rw [dispatch_eq (r.dispatched_start.trans hfresh), visit, r.members_start hstart, hmembers, List.map_append,
    List.map_cons, hplace]
  simp only [List.forall_mem_map]
  rfl

open Activity Handover

/-! ### What a run leaves -/

/-- The modules as a run leaves them: cleaned up, or still registered when it came to no end. -/
def Report.left {σ : Type} (report : Report σ) : List (Member σ) :=
  (callsIn .cleanUp report.activity).map Call.after ++ report.registry.members

section Left

variable {σ : Type} [Sink σ] {a : Applicant} {handle : String} {registry : Registry σ} {world : World}
  {report : Report σ}

theorem left_close_after {o : Outcome σ} {earlier : List (Activity σ)}
    (h : callsIn .cleanUp (earlier ++ o.activity) = []) :
    ((close o).after earlier).left = o.registry.members.map fun m => (m.call .cleanUp).after := by
  obtain ⟨hearlier, hactivity⟩ := List.append_eq_nil_iff.mp ((callsIn_append _ _).symm.trans h)
  rw [Report.left, Report.after, callsIn_append, callsIn_close, hearlier, hactivity, registry_close, if_pos rfl,
    Registry.cleanUp]
  simp

theorem callsIn_cleanUp_before (hfresh : registry.dispatched = false) (trace : List Occurrence) (task : Task)
    (htask : task.scene ≠ .cleanUp) {last : List (Activity σ)} (hlast : callsOf last = []) :
    callsIn .cleanUp (ofRound registry.start ++ trace.map happened ++
      (ofRound (registry.start.registry.dispatch task) ++ last)) = [] := by
  rw [callsIn_dispatched hfresh task hlast, if_neg nofun, if_neg htask]
  rfl

/-- The modules that a run leaves are those of its last round, cleaned up if the run comes to an end. -/
inductive Leaves (registry : Registry σ) (asked : Except Stop String) : List (Member σ) → Prop where
  | unstarted {e : DeliveryError} (failed : registry.start.error? = some e) :
      Leaves registry asked (registry.start.registry.members.map fun m => (m.call .cleanUp).after)
  | delivered {secret : String} (started : registry.start.error? = none) (ok : asked = .ok secret) :
      Leaves registry asked
        ((registry.start.registry.deliver secret).registry.members.map fun m => (m.call .cleanUp).after)
  | reported {e : RunError} (started : registry.start.error? = none) (error : asked = .error (.error e)) :
      Leaves registry asked
        ((registry.start.registry.report e).registry.members.map fun m => (m.call .cleanUp).after)
  | hung (started : registry.start.error? = none) (hung : asked = .error .hung) :
      Leaves registry asked registry.start.registry.members

theorem Handover.Course.leaves (h : Course a handle registry world report)
    (hfresh : registry.dispatched = false) :
    Leaves registry (a.run.on (.fresh handle world)).1 report.left := by
  have hstart : callsIn .cleanUp (ofRound registry.start) = [] := callsIn_start .cleanUp
  cases h with
  | unstarted hfailed =>
    rw [left_close_after (by rwa [List.append_nil])]
    exact .unstarted hfailed
  | @delivered secret s hstarted hasked =>
    have hnone : callsIn .cleanUp (ofRound registry.start ++ s.world.trace.map happened ++
        (ofRound (registry.start.registry.deliver secret) ++ [])) = [] :=
      callsIn_cleanUp_before hfresh _ (.deliver secret) (by simp [Task.scene]) rfl
    rw [List.append_nil] at hnone
    rw [left_close_after hnone]
    exact .delivered hstarted (congrArg Prod.fst hasked)
  | @reported e s hstarted hasked =>
    obtain ⟨last, hactivity, hcalls, -⟩ :=
      exists_activity_giveUp e registry.start.registry ⟨s.ticket, { s.world with trace := [] }⟩
    have hnone := callsIn_cleanUp_before hfresh s.world.trace (.report e) (by simp [Task.scene]) hcalls
    rw [left_close_after (hactivity ▸ hnone)]
    exact .reported hstarted (congrArg Prod.fst hasked)
  | hung hstarted hasked =>
    rw [Report.left, callsIn_append, hstart, callsIn_happened]
    exact .hung hstarted (congrArg Prod.fst hasked)

end Left

/-! ### A writer among the modules -/

section WriterLeft

variable {β : Type} [Sink β]

/-- The module at that place is a writer that has taken these bytes. -/
def HasTaken (members : List (Member (WriterSink ⊕ β))) (place : Nat) (bytes : List UInt8) : Prop :=
  ∃ m w, members[place]? = some m ∧ m.state = .inl w ∧ w.writer.taken = bytes

variable {m : Member (WriterSink ⊕ β)} {w : WriterSink}

/-- A writer heeds no task but two. -/
theorem state_after_call (hm : m.state = .inl w) {task : Task} (hconfigure : task.scene ≠ .configure)
    (hdeliver : task.scene ≠ .deliver) : (m.call task).after.state = .inl w := by
  rw [Member.call, hm]
  cases task with
  | configure table => exact absurd rfl hconfigure
  | deliver secret => exact absurd rfl hdeliver
  | start | report | cleanUp => rfl

theorem state_after_deliver (hm : m.state = .inl w) (secret : String) :
    (m.call (.deliver secret)).after.state = .inl (w.deliver secret).2 := by
  rw [Member.call, hm]
  rfl

theorem HasTaken.cleanUp {members : List (Member (WriterSink ⊕ β))} {place : Nat} {bytes : List UInt8}
    (h : HasTaken members place bytes) :
    HasTaken (members.map fun m => (m.call .cleanUp).after) place bytes := by
  obtain ⟨m, w, hm, hw, hbytes⟩ := h
  exact ⟨_, w, by rw [List.getElem?_map, hm, Option.map_some], state_after_call hw (by decide) (by decide), hbytes⟩

variable {a : Applicant} {handle : String} {registry : Registry (WriterSink ⊕ β)} {world : World}
  {front back : List (Member (WriterSink ⊕ β))}

section Runs

variable (hfresh : registry.dispatched = false) (hmembers : registry.members = front ++ m :: back)
  (hm : m.state = .inl w)

include hmembers hm in
theorem hasTaken_start : HasTaken registry.start.registry.members front.length w.writer.taken := by
  have hplace := Visit.getElem?_members_run (fun _ => true) .start front m back
  rw [← hmembers] at hplace
  refine ⟨_, w, hplace, ?_, rfl⟩
  split
  · exact state_after_call hm (by decide) (by decide)
  · exact hm

include hfresh hmembers hm in
/-- The writer takes the secret if it is enabled and reached, and nothing else. -/
theorem hasTaken_deliver (hstart : registry.start.error? = none) (secret : String)
    (hworks : w.enabled = true → Clear front (.deliver secret) → w.writer.Works) :
    HasTaken (registry.start.registry.deliver secret).registry.members front.length
      (w.writer.taken ++ if w.enabled ∧ Clear front (.deliver secret) then
        Text.Utf8.encodeString secret else []) := by
  have hstarted : (m.call .start).after.state = .inl w := state_after_call hm (by decide) (by decide)
  have henabled : (m.call .start).after.isEnabled = w.enabled := by
    rw [Member.isEnabled, hstarted]
    rfl
  have hplace := Registry.getElem?_members_dispatch hfresh hmembers hstart (.deliver secret)
  rw [henabled] at hplace
  by_cases hreached : w.enabled = true ∧ Clear front (.deliver secret)
  · rw [if_pos hreached] at hplace ⊢
    exact ⟨_, _, hplace, state_after_deliver hstarted secret,
      WriterSink.taken_deliver (hworks hreached.1 hreached.2) secret⟩
  · rw [if_neg hreached] at hplace ⊢
    exact ⟨_, w, hplace, hstarted, (List.append_nil _).symm⟩

include hfresh hmembers hm in
/-- An error is nothing to write. -/
theorem hasTaken_report (hstart : registry.start.error? = none) (e : RunError) :
    HasTaken (registry.start.registry.report e).registry.members front.length w.writer.taken := by
  have hstarted : (m.call .start).after.state = .inl w := state_after_call hm (by decide) (by decide)
  have hplace := Registry.getElem?_members_dispatch hfresh hmembers hstart (.report e)
  refine ⟨_, w, hplace, ?_, rfl⟩
  split
  · exact state_after_call hstarted (by simp [Task.scene]) (by simp [Task.scene])
  · exact hstarted

variable {asked : Except Stop String} {members : List (Member (WriterSink ⊕ β))}

include hfresh hmembers hm in
theorem Leaves.hasTaken_of_failed (h : Leaves registry asked members)
    (hfailed : registry.start.error? ≠ none ∨ ∀ secret, asked ≠ .ok secret) :
    HasTaken members front.length w.writer.taken := by
  cases h with
  | unstarted => exact (hasTaken_start hmembers hm).cleanUp
  | delivered hstart hok => exact hfailed.elim (absurd hstart) (fun hno => absurd hok (hno _))
  | reported hstart => exact (hasTaken_report hfresh hmembers hm hstart _).cleanUp
  | hung => exact hasTaken_start hmembers hm

include hfresh hmembers hm in
theorem Leaves.hasTaken_of_ok (h : Leaves registry asked members) (hstart : registry.start.error? = none)
    {secret : String} (hok : asked = .ok secret)
    (hworks : w.enabled = true → Clear front (.deliver secret) → w.writer.Works) :
    HasTaken members front.length
      (w.writer.taken ++ if w.enabled ∧ Clear front (.deliver secret) then
        Text.Utf8.encodeString secret else []) := by
  subst hok
  cases h with
  | unstarted hfailed => exact absurd (hfailed.symm.trans hstart) (Option.some_ne_none _)
  | @delivered _ _ hok =>
    cases hok
    exact (hasTaken_deliver hfresh hmembers hm hstart secret hworks).cleanUp
  | reported _ herror => cases herror
  | hung _ hhung => cases hhung

end Runs

/-- A secret is returned exactly when the status is 200 and the body spells it, with one line feed after it
or with none if it does not end with one; a body that spells no text is refused. Whatever else is
registered, a writer that is enabled and reached by the delivery takes exactly the bytes of the secret. It
takes nothing when a module does not start, when the applicant gets no secret, when it is disabled, and
when a module before it fails at the delivery. -/
theorem secret_arrives (β : Type) [Sink β] :
    (∀ (c : Client) (id : UInt64) (world : World) (r : Http.Response),
      c.Hears .patch (Client.requestPath id) (some Client.fulfillBody) world r →
        (∀ secret, (c.collect id world).1 = .value (.ok secret) ↔ r.status = 200 ∧
          (r.body = secret.toUTF8.data.toList ∧ secret.toList.getLast? ≠ some '\n' ∨
            r.body = (secret ++ "\n").toUTF8.data.toList)) ∧
        (r.status = 200 → ¬ Text.Utf8.WellFormed r.body →
          ∃ text, (c.collect id world).1 = .value (.error (.invalidResponse text)))) ∧
    ∀ (a : Applicant) (handle : String) (registry : Registry (WriterSink ⊕ β)) (world : World)
      (front back : List (Member (WriterSink ⊕ β))) (m : Member (WriterSink ⊕ β)) (w : WriterSink),
      registry.dispatched = false → registry.members = front ++ m :: back → m.state = .inl w →
        let asked := (a.run.on (.fresh handle world)).1
        let left := (run a handle registry world).left
        (∀ secret, registry.start.error? = none → asked = .ok secret → w.enabled = true →
          Clear front (.deliver secret) → w.writer.Works →
            HasTaken left front.length (w.writer.taken ++ secret.toUTF8.data.toList)) ∧
        (registry.start.error? ≠ none ∨ (∀ secret, asked ≠ .ok secret) ∨ w.enabled = false ∨
          (∃ secret, asked = .ok secret ∧ ¬ Clear front (.deliver secret)) →
            HasTaken left front.length w.writer.taken) := by
  refine ⟨fun c id world r hhears => ⟨fun secret => ?_, fun hstatus hmalformed => ?_⟩,
    fun a handle registry world front back m w hfresh hmembers hm => ?_⟩
  · rw [Client.collect, Client.call_of_hears hhears, Arrival.value.injEq, Client.decodeSecret_eq_ok_iff,
      Http.Response.handsOver_iff]
  · obtain ⟨text, htext⟩ := Client.readSecret_of_malformed hmalformed
    refine ⟨text, ?_⟩
    rw [Client.collect, Client.call_of_hears hhears, Client.decodeSecret, Client.decodeWith,
      Client.statusFault?_eq_none_iff.mpr hstatus]
    exact congrArg Arrival.value htext
  · intro asked left
    have hleaves : Leaves registry asked left := (course_run a handle registry world).leaves hfresh
    refine ⟨fun secret hstart hok henabled hclear hworks => ?_, fun hnothing => ?_⟩
    · have htaken := hleaves.hasTaken_of_ok hfresh hmembers hm hstart hok fun _ _ => hworks
      rwa [if_pos ⟨henabled, hclear⟩, Text.Utf8.encodeString_eq] at htaken
    · by_cases hfailed : registry.start.error? ≠ none ∨ ∀ secret, asked ≠ .ok secret
      · exact hleaves.hasTaken_of_failed hfresh hmembers hm hfailed
      · rw [not_or, not_not, not_forall_not] at hfailed
        obtain ⟨hstart, secret, hok⟩ := hfailed
        have hmissed : ¬ (w.enabled = true ∧ Clear front (.deliver secret)) := by
          rintro ⟨henabled, hclear⟩
          obtain h | h | h | ⟨secret', hok', h⟩ := hnothing
          · exact h hstart
          · exact h secret hok
          · exact absurd (henabled.symm.trans h) (by decide)
          · obtain rfl := Except.ok.inj (hok.symm.trans hok')
            exact h hclear
        have htaken := hleaves.hasTaken_of_ok hfresh hmembers hm hstart hok
          fun henabled hclear => absurd ⟨henabled, hclear⟩ hmissed
        rwa [if_neg hmissed, List.append_nil] at htaken

/-- The secret ends with a line feed of its own, which is kept. A module before the writer is told first. -/
theorem secret_arrives_rehearsed :
    let reply (status : UInt16) (body : String) : ServerStep :=
      ⟨false, 0, some (.ok ⟨status, .empty, Text.Utf8.encodeString body⟩)⟩
    let answers (script : List ServerStep) : World :=
      ⟨⟨fun _ => .ok (), .network none⟩, fun _ => default, 0, script, 0, ⟨false, none, none⟩, 0, []⟩
    let last := reply 200 "naïve\n\n"
    let world := answers
      [reply 201 (Text.braced "\"id\": 7"), reply 200 (Text.braced "\"state\": \"ACCEPTED\""), last]
    let a : Applicant := ⟨Client.loopback, ⟨1000, none⟩, true⟩
    let w : WriterSink := ⟨true, ⟨[], some 2, none, none⟩⟩
    let registry : Registry (WriterSink ⊕ Rehearsal) :=
      ⟨[⟨0, .inr ⟨"first", true, true, []⟩⟩, ⟨1, .inl w⟩], 2, false⟩
    (Client.loopback.collect 7 (answers [last])).1 = .value (.ok "naïve\n") ∧
      HasTaken (run a "disk" registry world).left 1 "naïve\n".toUTF8.data.toList := by
  intro reply answers last world a w registry
  obtain ⟨hcollect, hrun⟩ := secret_arrives Rehearsal
  constructor
  · obtain ⟨request, hrequest⟩ := Client.exists_prepare_requestPath Client.made_loopback (.inr rfl) 7 .patch
      (some Client.fulfillBody) (answers [last]).readClock.1
    refine ((hcollect Client.loopback 7 (answers [last]) ⟨200, .empty, _⟩ ⟨request, hrequest, rfl⟩).1 _).mpr ?_
    exact ⟨rfl, .inr (Text.Utf8.encodeString_eq _)⟩
  · have hasked : (a.run.on (.fresh "disk" world)).1.toOption = some "naïve\n" := by decide +kernel
    obtain ⟨htaken, -⟩ := hrun a "disk" registry world [⟨0, .inr ⟨"first", true, true, []⟩⟩] []
      ⟨1, .inl w⟩ w rfl rfl rfl
    refine htaken "naïve\n" (by decide +kernel) ?_ rfl (by decide +kernel) ⟨rfl, rfl, nofun⟩
    cases hresult : (a.run.on (.fresh "disk" world)).1 with
    | error e =>
      rw [hresult] at hasked
      cases hasked
    | ok secret =>
      rw [hresult] at hasked
      exact congrArg Except.ok (Option.some.inj hasked)

end WriterLeft

end KeyApproval
