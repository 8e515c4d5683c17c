import KeyApproval.Delivery.SocketSink
import KeyApproval.Delivery.WriterSink
import KeyApproval.Proofs.Rounds
import KeyApproval.Run.Handover
import Mathlib.Data.List.Forall2

/-!
# Discreet modules

A module that is given a secret may keep it, but it is discreet when nobody can tell from its answers which
secret it was. Registries of such modules stay alike in a run that delivers one secret and a run that
delivers another: the same modules are called for the same tasks in the same order, and the same of them
fail with the same errors. The modules of the program are discreet as long as they can write.
-/

namespace KeyApproval

/-- The same task, or deliveries of any two secrets. -/
inductive Task.SameButSecret : Task → Task → Prop where
  | same (task : Task) : SameButSecret task task
  | deliver (secret secret' : String) : SameButSecret (.deliver secret) (.deliver secret')

/-- Modules that are related by `E` cannot be told apart, and this stays so whichever secrets they are
given. -/
structure Sink.Discreet {σ : Type} [Sink σ] (E : σ → σ → Prop) : Prop where
  name : ∀ s t, E s t → Sink.name s = Sink.name t
  isEnabled : ∀ s t, E s t → Sink.isEnabled s = Sink.isEnabled t
  perform : ∀ s t, E s t → ∀ task task', task.SameButSecret task' →
    (Sink.perform task s).1 = (Sink.perform task' t).1 ∧ E (Sink.perform task s).2 (Sink.perform task' t).2

variable {σ : Type} {E : σ → σ → Prop}

structure Member.Alike (E : σ → σ → Prop) (m m' : Member σ) : Prop where
  number : m.number = m'.number
  state : E m.state m'.state

structure Call.Alike (E : σ → σ → Prop) (c c' : Call σ) : Prop where
  before : c.before.Alike E c'.before
  task : c.task.SameButSecret c'.task
  result : c.result = c'.result
  after : c.after.Alike E c'.after

structure Registry.Alike (E : σ → σ → Prop) (r r' : Registry σ) : Prop where
  members : List.Forall₂ (Member.Alike E) r.members r'.members
  registered : r.registered = r'.registered
  dispatched : r.dispatched = r'.dispatched

structure Round.Alike (E : σ → σ → Prop) (r r' : Round σ) : Prop where
  registry : r.registry.Alike E r'.registry
  calls : List.Forall₂ (Call.Alike E) r.calls r'.calls
  failures : r.failures = r'.failures

structure Visit.Alike (E : σ → σ → Prop) (v v' : Visit σ) : Prop where
  members : List.Forall₂ (Member.Alike E) v.members v'.members
  calls : List.Forall₂ (Call.Alike E) v.calls v'.calls
  failure : v.failure = v'.failure

inductive Plan.Alike : Plan → Plan → Prop where
  | pass : Alike .pass .pass
  | refuse (e : DeliveryError) : Alike (.refuse e) (.refuse e)
  | give {task task' : Task} (h : task.SameButSecret task') : Alike (.give task) (.give task')

/-! ### Rounds -/

section Rounds

variable [Sink σ] (hE : Sink.Discreet E)
include hE

theorem Member.Alike.call {m m' : Member σ} (h : m.Alike E m') {task task' : Task}
    (htask : task.SameButSecret task') : (m.call task).Alike E (m'.call task') := by
  obtain ⟨hresult, hstate⟩ := hE.perform _ _ h.state task task' htask
  exact ⟨h, htask, hresult, ⟨h.number, hstate⟩⟩

theorem Call.Alike.error?_eq {c c' : Call σ} (h : c.Alike E c') : c.error? = c'.error? := by
  have hname : c.after.name = c'.after.name := hE.name _ _ h.after.state
  obtain ⟨before, task, result, after⟩ := c
  obtain ⟨before', task', result', after'⟩ := c'
  obtain ⟨-, htask, rfl, -⟩ := h
  dsimp only at htask hname
  cases htask with
  | same task =>
    cases result with
    | ok _ => rfl
    | error f => cases task <;> simp only [Call.error?, hname]
  | deliver secret secret' =>
    cases result with
    | ok _ => rfl
    | error f => simp only [Call.error?, hname]

theorem Call.filterMap_error?_eq {calls calls' : List (Call σ)}
    (h : List.Forall₂ (Call.Alike E) calls calls') :
    calls.filterMap Call.error? = calls'.filterMap Call.error? := by
  induction h with
  | nil => rfl
  | cons hcall _ ih => rw [List.filterMap_cons, List.filterMap_cons, hcall.error?_eq hE, ih]

theorem Visit.run_alike {plan plan' : Member σ → Plan}
    (hplan : ∀ m m', m.Alike E m' → (plan m).Alike (plan' m')) {members members' : List (Member σ)}
    (h : List.Forall₂ (Member.Alike E) members members') :
    (Visit.run plan members).Alike E (Visit.run plan' members') := by
  induction h with
  | nil => exact ⟨.nil, .nil, rfl⟩
  | @cons m m' rest rest' hm hrest ih =>
    have hplanned := hplan m m' hm
    rw [Visit.run, Visit.run]
    revert hplanned
    generalize plan m = planned
    generalize plan' m' = planned'
    intro hplanned
    cases hplanned with
    | pass => exact ⟨.cons hm ih.members, ih.calls, ih.failure⟩
    | refuse e => exact ⟨.cons hm hrest, .nil, rfl⟩
    | give htask =>
      have hcall := hm.call hE htask
      dsimp only
      rw [hcall.error?_eq hE]
      split
      · exact ⟨.cons hcall.after hrest, .cons hcall .nil, rfl⟩
      · exact ⟨.cons hcall.after ih.members, .cons hcall ih.calls, ih.failure⟩

namespace Registry.Alike

variable {r r' : Registry σ}

theorem visit (h : r.Alike E r') {plan plan' : Member σ → Plan}
    (hplan : ∀ m m', m.Alike E m' → (plan m).Alike (plan' m')) :
    (r.visit plan).Alike E (r'.visit plan') := by
  have hvisit := Visit.run_alike hE hplan h.members
  exact ⟨⟨hvisit.members, h.registered, h.dispatched⟩, hvisit.calls, congrArg Option.toList hvisit.failure⟩

theorem start (h : r.Alike E r') : r.start.Alike E r'.start :=
  h.visit hE fun _ _ _ => .give (.same .start)

theorem dispatch (h : r.Alike E r') {task task' : Task} (htask : task.SameButSecret task') :
    (r.dispatch task).Alike E (r'.dispatch task') := by
  have hflag := h.dispatched
  unfold Registry.dispatch
  rw [← hflag]
  split
  · exact ⟨h, .nil, rfl⟩
  · have hmarked : Registry.Alike E { r with dispatched := true } { r' with dispatched := true } :=
      ⟨h.members, h.registered, rfl⟩
    refine hmarked.visit hE fun m m' hm => ?_
    have henabled : m.isEnabled = m'.isEnabled := hE.isEnabled _ _ hm.state
    rw [← henabled]
    split
    · exact .give htask
    · exact .pass

theorem cleanUp (h : r.Alike E r') : r.cleanUp.Alike E r'.cleanUp := by
  have hcalls : List.Forall₂ (Call.Alike E) (r.members.map (·.call .cleanUp))
      (r'.members.map (·.call .cleanUp)) := by
    rw [List.forall₂_map_left_iff, List.forall₂_map_right_iff]
    exact h.members.imp fun _ _ hm => hm.call hE (.same .cleanUp)
  exact ⟨⟨.nil, h.registered, h.dispatched⟩, hcalls, Call.filterMap_error?_eq hE hcalls⟩

theorem enabledNames (h : r.Alike E r') : r.enabledNames = r'.enabledNames := by
  have hmembers := h.members
  unfold Registry.enabledNames
  generalize r.members = members at hmembers
  generalize r'.members = members' at hmembers
  induction hmembers with
  | nil => rfl
  | @cons m m' _ _ hm _ ih =>
    have hname : m.name = m'.name := hE.name _ _ hm.state
    have henabled : m.isEnabled = m'.isEnabled := hE.isEnabled _ _ hm.state
    rw [List.filter_cons, List.filter_cons, ← henabled]
    split
    · rw [List.map_cons, List.map_cons, hname, ih]
    · exact ih

end Registry.Alike

end Rounds

/-! ### Reports -/

/-- The same occurrences, and alike calls to modules. -/
inductive Activity.Alike (E : σ → σ → Prop) : Activity σ → Activity σ → Prop where
  | called {c c' : Call σ} (h : c.Alike E c') : Alike E (.called c) (.called c')
  | happened (o : Occurrence) : Alike E (.happened o) (.happened o)

/-- Reports from which nobody can tell which of two secrets was delivered. -/
structure Report.Alike (E : σ → σ → Prop) (r r' : Report σ) : Prop where
  result : r.result = r'.result
  activity : List.Forall₂ (Activity.Alike E) r.activity r'.activity
  ticket : r.ticket = r'.ticket
  registry : r.registry.Alike E r'.registry

structure Handover.Outcome.Alike (E : σ → σ → Prop) (o o' : Handover.Outcome σ) : Prop where
  result : o.result = o'.result
  activity : List.Forall₂ (Activity.Alike E) o.activity o'.activity
  ticket : o.ticket = o'.ticket
  registry : o.registry.Alike E o'.registry

namespace Activity

theorem alike_happened (trace : List Occurrence) :
    List.Forall₂ (Alike E) (trace.map .happened) (trace.map .happened) := by
  rw [List.forall₂_map_left_iff, List.forall₂_map_right_iff]
  exact List.forall₂_same.mpr fun o _ => .happened o

theorem alike_log (level : Level) (text : String) :
    List.Forall₂ (Alike E) [log level text] [log level text] :=
  alike_happened [.logged ⟨level, text⟩]

theorem alike_ofRound {round round' : Round σ} (h : round.Alike E round') :
    List.Forall₂ (Alike E) (ofRound round) (ofRound round') := by
  have hcalls : List.Forall₂ (Alike E) (round.calls.map called) (round'.calls.map called) := by
    rw [List.forall₂_map_left_iff, List.forall₂_map_right_iff]
    exact h.calls.imp fun _ _ hc => .called hc
  have hlogs : round.logs = round'.logs := by rw [Round.logs, Round.logs, h.failures]
  unfold ofRound
  rw [hlogs]
  refine List.rel_append hcalls ?_
  have hlines : List.Forall₂ (Alike E) ((round'.logs.map Occurrence.logged).map happened)
      ((round'.logs.map Occurrence.logged).map happened) := alike_happened _
  rwa [List.map_map] at hlines

end Activity

theorem Report.Alike.after {r r' : Report σ} (h : r.Alike E r') {earlier earlier' : List (Activity σ)}
    (hearlier : List.Forall₂ (Activity.Alike E) earlier earlier') :
    (r.after earlier).Alike E (r'.after earlier') :=
  ⟨h.result, List.rel_append hearlier h.activity, h.ticket, h.registry⟩

namespace Handover

variable [Sink σ] (hE : Sink.Discreet E) {r r' : Registry σ} (h : r.Alike E r')
include hE h

/-- Whatever secrets are delivered. -/
theorem succeed_alike (secret secret' : String) (s : Session) :
    (succeed secret r s).Alike E (succeed secret' r' s) := by
  have hround : (r.deliver secret).Alike E (r'.deliver secret') := h.dispatch hE (.deliver secret secret')
  have herror : (r.deliver secret).error? = (r'.deliver secret').error? :=
    congrArg List.head? hround.failures
  have hnames := hround.registry.enabledNames hE
  refine ⟨?_, Activity.alike_ofRound hround, rfl, hround.registry⟩
  unfold succeed
  dsimp only
  rw [herror, hnames]

theorem giveUp_alike (e : RunError) (s : Session) : (giveUp e r s).Alike E (giveUp e r' s) := by
  have hround := h.dispatch hE (.same (.report e))
  have herror : (r.report e).error? = (r'.report e).error? := congrArg List.head? hround.failures
  refine ⟨rfl, ?_, rfl, hround.registry⟩
  unfold giveUp
  dsimp only
  rw [herror]
  refine List.rel_append (Activity.alike_ofRound hround) ?_
  split
  · exact Activity.alike_log _ _
  · exact .nil

omit h in
theorem close_alike {o o' : Outcome σ} (ho : o.Alike E o') : (close o).Alike E (close o') := by
  have hround := ho.registry.cleanUp hE
  have herror : o.registry.cleanUp.error? = o'.registry.cleanUp.error? :=
    congrArg List.head? hround.failures
  have hactivity := List.rel_append ho.activity (Activity.alike_ofRound hround)
  unfold close
  dsimp only
  rw [ho.result, herror]
  split
  · exact ⟨rfl, List.rel_append hactivity (Activity.alike_log _ _), ho.ticket, hround.registry⟩
  · exact ⟨rfl, List.rel_append hactivity .nil, ho.ticket, hround.registry⟩
  · exact ⟨rfl, List.rel_append hactivity .nil, ho.ticket, hround.registry⟩
  · exact ⟨rfl, List.rel_append hactivity (Activity.alike_log _ _), ho.ticket, hround.registry⟩

end Handover

/-! ### The modules of the program -/

/-- A writer that takes everything at once. -/
structure Writer.TakesAll (w : Writer) : Prop where
  limit : w.limit = none
  writeFault : w.writeFault = none

theorem Writer.TakesAll.writeAll {w : Writer} (h : w.TakesAll) (bytes : List UInt8) :
    w.writeAll bytes = (.ok (), w.take bytes) := by
  cases bytes with
  | nil => simp [Writer.writeAll, take]
  | cons b rest => rw [Writer.writeAll, h.limit, h.writeFault]

/-- The same module, whatever was written so far. -/
structure WriterSink.Alike (m m' : WriterSink) : Prop where
  enabled : m.enabled = m'.enabled
  takesAll : m.writer.TakesAll
  takesAll' : m'.writer.TakesAll
  flush : m.writer.flush = m'.writer.flush

theorem WriterSink.Alike.deliver {m m' : WriterSink} (h : m.Alike m') (secret secret' : String) :
    (WriterSink.deliver secret m).1 = (WriterSink.deliver secret' m').1 ∧
      (WriterSink.deliver secret m).2.Alike (WriterSink.deliver secret' m').2 := by
  have hflush : m'.writer.flush = m.writer.flush := h.flush.symm
  have htaken (bytes bytes' : List UInt8) :
      Alike { m with writer := m.writer.take bytes } { m' with writer := m'.writer.take bytes' } :=
    ⟨h.enabled, ⟨h.takesAll.limit, h.takesAll.writeFault⟩, ⟨h.takesAll'.limit, h.takesAll'.writeFault⟩,
      h.flush⟩
  unfold WriterSink.deliver
  rw [h.takesAll.writeAll, h.takesAll'.writeAll]
  dsimp only [Except.bind]
  have hkept (w : Writer) (bytes : List UInt8) : (w.take bytes).flush = w.flush := rfl
  rw [hkept, hkept, hflush]
  cases m.writer.flush with
  | ok _ => exact ⟨rfl, htaken _ _⟩
  | error _ => exact ⟨rfl, htaken _ _⟩

theorem WriterSink.discreet : Sink.Discreet WriterSink.Alike where
  name _ _ _ := rfl
  isEnabled _ _ h := h.enabled
  perform m m' h task task' htask := by
    cases htask with
    | deliver secret secret' => exact h.deliver secret secret'
    | same task =>
      cases task with
      | configure table =>
        change (WriterSink.configure table m).1 = (WriterSink.configure table m').1 ∧
          (WriterSink.configure table m).2.Alike (WriterSink.configure table m').2
        unfold WriterSink.configure
        rw [h.enabled]
        split
        · exact ⟨rfl, rfl, h.takesAll, h.takesAll', h.flush⟩
        · exact ⟨rfl, h⟩
      | deliver secret => exact h.deliver secret secret
      | start | report _ | cleanUp => exact ⟨rfl, h⟩

/-- The same module, whatever was sent so far. No connection breaks, as it would tell how long the secret is. -/
structure SocketSink.Alike (m m' : SocketSink) : Prop where
  eq : m' = { m with served := m'.served }
  unbroken : m.faults.send = none

theorem SocketFaults.transmit_of_unbroken {f : SocketFaults} (h : f.send = none) (bytes bytes' : List UInt8) :
    (f.transmit bytes).1 = (f.transmit bytes').1 := by
  unfold transmit
  rw [h]

theorem SocketSink.Alike.deliver {m m' : SocketSink} (h : m.Alike m') (secret secret' : String) :
    (SocketSink.deliver secret m).1 = (SocketSink.deliver secret' m').1 ∧
      (SocketSink.deliver secret m).2.Alike (SocketSink.deliver secret' m').2 := by
  rw [h.eq]
  generalize m'.served = served
  unfold SocketSink.deliver
  dsimp only
  split
  · exact ⟨rfl, ⟨rfl, h.unbroken⟩⟩
  · exact ⟨rfl, ⟨rfl, h.unbroken⟩⟩
  · exact ⟨SocketFaults.transmit_of_unbroken h.unbroken _ _, ⟨rfl, h.unbroken⟩⟩

theorem SocketSink.Alike.configure {m m' : SocketSink} (h : m.Alike m') (table : Toml.Table) :
    (SocketSink.configure table m).1 = (SocketSink.configure table m').1 ∧
      (SocketSink.configure table m).2.Alike (SocketSink.configure table m').2 := by
  rw [h.eq]
  generalize m'.served = served
  unfold SocketSink.configure
  dsimp only
  split
  · exact ⟨rfl, ⟨rfl, h.unbroken⟩⟩
  · split <;> exact ⟨rfl, ⟨rfl, h.unbroken⟩⟩

theorem SocketSink.Alike.start {m m' : SocketSink} (h : m.Alike m') :
    m.start.1 = m'.start.1 ∧ m.start.2.Alike m'.start.2 := by
  rw [h.eq]
  generalize m'.served = served
  have hfound (environment : Environment) :
      findListener { m with served } environment = m.findListener environment := rfl
  unfold SocketSink.start
  dsimp only
  rw [hfound]
  split
  · exact ⟨rfl, ⟨rfl, h.unbroken⟩⟩
  · exact ⟨rfl, ⟨rfl, h.unbroken⟩⟩
  · split <;> exact ⟨rfl, ⟨rfl, h.unbroken⟩⟩

theorem SocketSink.discreet : Sink.Discreet SocketSink.Alike where
  name _ _ _ := rfl
  isEnabled m m' h := by
    rw [h.eq]
    rfl
  perform m m' h task task' htask := by
    cases htask with
    | deliver secret secret' => exact h.deliver secret secret'
    | same task =>
      cases task with
      | configure table => exact h.configure table
      | start => exact h.start
      | deliver secret => exact h.deliver secret secret
      | report _ => exact ⟨rfl, h⟩
      | cleanUp =>
        refine ⟨rfl, ⟨?_, h.unbroken⟩⟩
        rw [h.eq]
        rfl

/-- Modules of two kinds side by side are discreet when those of each kind are. -/
theorem Sink.Discreet.sum {σ τ : Type} [Sink σ] [Sink τ] {E : σ → σ → Prop} {F : τ → τ → Prop}
    (hE : Sink.Discreet E) (hF : Sink.Discreet F) : Sink.Discreet (Sum.LiftRel E F) where
  name s t h := by
    cases h with
    | inl h => exact hE.name _ _ h
    | inr h => exact hF.name _ _ h
  isEnabled s t h := by
    cases h with
    | inl h => exact hE.isEnabled _ _ h
    | inr h => exact hF.isEnabled _ _ h
  perform s t h task task' htask := by
    cases h with
    | inl h => exact (hE.perform _ _ h task task' htask).imp id .inl
    | inr h => exact (hF.perform _ _ h task task' htask).imp id .inr

end KeyApproval
