import KeyApproval.Proofs.Exchanges
import KeyApproval.Proofs.Settlement
import KeyApproval.Proofs.Unobserved

/-!
# The chronicle of a request

What the observer of a run is told is a chronicle of its request: each change of the stage, from the first one
on, and each pause while the request is pending, all with the number that the server granted. Whoever replays it
has the stage of the ticket, but that a failure is not told, so that of a failed ticket it is the stage in which
it failed.
-/

namespace KeyApproval

open Step

/-! ### Replays -/

namespace Event

/-- The stage after an event that is told in a stage, if it can be told there. -/
def replay? (stage : Stage) : Event → Option Stage
  | stateChanged _ before after => if before = stage then some after else none
  | pollWaiting .. => if stage = .pending then some stage else none

def number? : Event → Option UInt64
  | stateChanged number _ _ => number
  | pollWaiting number .. => some number

def move? : Event → Option (Stage × Stage)
  | stateChanged _ before after => some (before, after)
  | pollWaiting .. => none

end Event

/-- The stage that events lead to, the first of them told of a new request. -/
def replay? (events : List Event) : Option Stage := events.foldlM Event.replay? .created

def movesOf (events : List Event) : List (Stage × Stage) := events.filterMap Event.move?

/-- What may be told of a request of that number until it is in a stage. -/
inductive Chronicle (id : UInt64) : Stage → List Event → Prop where
  | created : Chronicle id .created []
  | pending : Chronicle id .pending [.stateChanged (some id) .created .pending]
  | waiting {events : List Event} (h : Chronicle id .pending events) (attempt : UInt32) (ms : Nat) :
      Chronicle id .pending (events ++ [.pollWaiting id attempt ms])
  | accepted {events : List Event} (h : Chronicle id .pending events) :
      Chronicle id .accepted (events ++ [.stateChanged (some id) .pending .accepted])
  | denied {events : List Event} (h : Chronicle id .pending events) :
      Chronicle id .denied (events ++ [.stateChanged (some id) .pending .denied])
  | fulfilled {events : List Event} (h : Chronicle id .accepted events) :
      Chronicle id .fulfilled (events ++ [.stateChanged (some id) .accepted .fulfilled])

/-- The moves that lead to a stage; nothing is told of a failure. -/
def Stage.route : Stage → List (Stage × Stage)
  | created | failed => []
  | pending => [(created, pending)]
  | accepted => [(created, pending), (pending, accepted)]
  | denied => [(created, pending), (pending, denied)]
  | fulfilled => [(created, pending), (pending, accepted), (accepted, fulfilled)]

namespace Chronicle

variable {id : UInt64} {stage : Stage} {events : List Event}

theorem replay?_concat {e : Event} {before : Stage} (h : replay? events = some before) :
    replay? (events ++ [e]) = e.replay? before := by
  unfold replay? at h ⊢
  rw [List.foldlM_append, h]
  cases he : e.replay? before <;> simp [he]

theorem replay?_eq (h : Chronicle id stage events) : replay? events = some stage := by
  induction h with
  | created => rfl
  | pending => rfl
  | waiting _ attempt ms ih => exact replay?_concat ih
  | accepted _ ih => exact replay?_concat ih
  | denied _ ih => exact replay?_concat ih
  | fulfilled _ ih => exact replay?_concat ih

theorem ne_failed (h : Chronicle id stage events) : stage ≠ .failed := by
  cases h <;> exact Stage.noConfusion

theorem movesOf_concat (e : Event) : movesOf (events ++ [e]) = movesOf events ++ e.move?.toList := by
  rw [movesOf, List.filterMap_append, List.filterMap_cons, List.filterMap_nil]
  cases e.move? <;> rfl

theorem movesOf_eq (h : Chronicle id stage events) : movesOf events = stage.route := by
  induction h with
  | created => rfl
  | pending => rfl
  | waiting _ _ _ ih => rw [movesOf_concat, ih]; rfl
  | accepted _ ih => rw [movesOf_concat, ih]; rfl
  | denied _ ih => rw [movesOf_concat, ih]; rfl
  | fulfilled _ ih => rw [movesOf_concat, ih]; rfl

theorem number?_eq (h : Chronicle id stage events) : ∀ e ∈ events, e.number? = some id := by
  have hconcat {events : List Event} {e : Event} (hevents : ∀ e ∈ events, e.number? = some id)
      (he : e.number? = some id) : ∀ f ∈ events ++ [e], f.number? = some id :=
    List.forall_mem_append.mpr ⟨hevents, List.forall_mem_singleton.mpr he⟩
  induction h with
  | created => exact nofun
  | pending => exact List.forall_mem_singleton.mpr rfl
  | waiting _ _ _ ih => exact hconcat ih rfl
  | accepted _ ih => exact hconcat ih rfl
  | denied _ ih => exact hconcat ih rfl
  | fulfilled _ ih => exact hconcat ih rfl

/-- A chronicle up to any event is one of the same request. -/
theorem of_prefix (h : Chronicle id stage events) {before : List Event} (hbefore : before <+: events) :
    ∃ stage, Chronicle id stage before := by
  induction h with
  | created =>
    rw [List.prefix_nil.mp hbefore]
    exact ⟨_, .created⟩
  | pending =>
    rcases List.prefix_cons_iff.mp hbefore with rfl | ⟨rest, rfl, hrest⟩
    · exact ⟨_, .created⟩
    · rw [List.prefix_nil.mp hrest]
      exact ⟨_, .pending⟩
  | waiting hevents attempt ms ih =>
    rcases List.prefix_concat_iff.mp hbefore with rfl | hshorter
    · exact ⟨_, hevents.waiting attempt ms⟩
    · exact ih hshorter
  | accepted hevents ih =>
    rcases List.prefix_concat_iff.mp hbefore with rfl | hshorter
    · exact ⟨_, hevents.accepted⟩
    · exact ih hshorter
  | denied hevents ih =>
    rcases List.prefix_concat_iff.mp hbefore with rfl | hshorter
    · exact ⟨_, hevents.denied⟩
    · exact ih hshorter
  | fulfilled hevents ih =>
    rcases List.prefix_concat_iff.mp hbefore with rfl | hshorter
    · exact ⟨_, hevents.fulfilled⟩
    · exact ih hshorter

/-- Pauses are told of between the first change of the stage and the second. -/
theorem movesOf_of_waiting (h : Chronicle id stage events) {before after : List Event} {number : UInt64}
    {attempt : UInt32} {ms : Nat} (hsplit : events = before ++ .pollWaiting number attempt ms :: after) :
    movesOf before = [(.created, .pending)] := by
  have hshorter : before <+: events := hsplit ▸ List.prefix_append _ _
  have hlonger : before ++ [.pollWaiting number attempt ms] <+: events :=
    ⟨after, by rw [hsplit, List.append_assoc]; rfl⟩
  obtain ⟨earlier, hbefore⟩ := h.of_prefix hshorter
  obtain ⟨later, hafter⟩ := h.of_prefix hlonger
  have hreplay := hafter.replay?_eq
  rw [replay?_concat hbefore.replay?_eq, Event.replay?] at hreplay
  split at hreplay
  next hpending => rw [hbefore.movesOf_eq, hpending]; rfl
  next => contradiction

end Chronicle

/-- Every way of a request goes along one of two routes. -/
theorem Stage.route_prefix (stage : Stage) :
    stage.route <+: fulfilled.route ∨ stage.route <+: denied.route := by
  cases stage <;> decide

/-! ### What a step tells -/

theorem World.told_record_emitted (w : World) (e : Event) : (w.record (.emitted e)).told = w.told ++ [e] := by
  rw [told, record, eventsOf, List.filterMap_append]
  rfl

theorem World.told_record_slept (w : World) (ms : Nat) : (w.record (.slept ms)).told = w.told := by
  rw [told, record, eventsOf, List.filterMap_append]
  exact List.append_nil _

namespace Session

/-- The ticket is that one, and these events were told so far. -/
structure Reads (t : Ticket) (events : List Event) (s : Session) : Prop where
  ticket : s.ticket = t
  told : s.world.told = events

/-- The ticket is stuck in that stage, or it failed there, and these events were told so far. -/
structure Stuck (stage : Stage) (events : List Event) (s : Session) : Prop where
  stage : s.ticket.stage = stage ∨ s.ticket.stage = .failed
  told : s.world.told = events

/-- What was told so far is a chronicle up to that stage, in which the ticket is stuck or failed. -/
structure Breaks (id : UInt64) (stage : Stage) (s : Session) : Prop where
  chronicle : Chronicle id stage s.world.told
  stage : s.ticket.stage = stage ∨ s.ticket.stage = .failed

/-- What was told so far is the chronicle of the ticket. -/
structure Chronicled (id : UInt64) (stage : Stage) (s : Session) : Prop where
  holds : s.Holds stage id
  chronicle : Chronicle id stage s.world.told

variable {t : Ticket} {events : List Event} {s : Session} {w : World}

theorem Reads.of_lulls (h : s.Reads t events) (hw : s.world.Lulls w) : Reads t events ⟨s.ticket, w⟩ :=
  ⟨h.ticket, hw.told.trans h.told⟩

theorem Reads.givenUp (h : s.Reads t events) (hopen : t.stage.isTerminal = false) (e : RunError) :
    (s.givenUp e).Stuck t.stage events where
  stage := .inr (Applicant.stage_fail (h.ticket ▸ hopen))
  told := (lulls_givenUp s e).told.trans h.told

/-- What is shown for every ticket and its chronicle is shown for the chronicled. -/
theorem meets_chronicled {α : Type} {x : Step α} {id : UInt64} {stage : Stage} {Q : α → Session → Prop}
    {E : Stop → Session → Prop}
    (h : ∀ t events, t.stage = stage → t.id = some id → Chronicle id stage events →
      x.Meets (Reads t events) Q E) : x.Meets (Chronicled id stage) Q E :=
  fun s hs => h _ _ hs.holds.1 hs.holds.2 hs.chronicle s ⟨rfl, rfl⟩

theorem Reads.chronicled {id : UInt64} {stage : Stage} (h : s.Reads t events) (hstage : t.stage = stage)
    (hid : t.id = some id) (hchronicle : Chronicle id stage events) : s.Chronicled id stage where
  holds := ⟨h.ticket ▸ hstage, h.ticket ▸ hid⟩
  chronicle := h.told.symm ▸ hchronicle

end Session

namespace Applicant

open Session

variable {α : Type} {a : Applicant} {t : Ticket} {events : List Event} {id : UInt64}
  {E : Stop → Session → Prop}

theorem logLine_told (level : Level) (text : String) :
    (logLine level text).Meets (Reads t events) (fun _ => Reads t events) E :=
  Meets.modify fun s hs => hs.of_lulls (World.lulls_log s.world level text)

theorem giveUp_told {e : RunError} {Q : α → Session → Prop} (hopen : t.stage.isTerminal = false) :
    (giveUp e : Step α).Meets (Reads t events) Q (fun _ => Stuck t.stage events) := by
  intro s hs
  rw [on_giveUp]
  exact hs.givenUp hopen e

theorem ask_told {c : Client} {method : Http.Method} {path : String} {body : Option String}
    {decode : Http.Response → Client.Decoded α} (hopen : t.stage.isTerminal = false) :
    (ask (c.call method path body decode)).Meets (Reads t events) (fun _ => Reads t events)
      (fun _ => Stuck t.stage events) := by
  have hsent {s : Session} {r : Request} {w : World} (hs : s.Reads t events)
      (h : c.Transmits method path body s.world r w) : Reads t events ⟨s.ticket, w⟩ :=
    ⟨hs.ticket, h.told.trans hs.told⟩
  apply ask_meets_attempts
  · exact fun s hs => hs.givenUp hopen _
  · exact fun s w e hs hw _ => (hs.of_lulls hw).givenUp hopen _
  · exact fun s r w reply b hs h _ _ => hsent hs h
  · exact fun s r w reply e hs h _ _ => (hsent hs h).givenUp hopen _
  · exact fun s r w hs h => (hsent hs h).givenUp hopen _
  · exact fun s r w hs h _ => ⟨.inl (congrArg Ticket.stage hs.ticket), (hsent hs h).told⟩

theorem sleep_told (hopen : t.stage.isTerminal = false) :
    a.sleep.Meets (Reads t events) (fun _ => Reads t events) (fun _ => Stuck t.stage events) := by
  have hslept {s : Session} {w : World} (hs : s.Reads t events)
      (hw : (s.world.record (.slept a.polling.intervalMs)).Lulls w) : Reads t events ⟨s.ticket, w⟩ :=
    ⟨hs.ticket, by rw [hw.told, World.told_record_slept, hs.told]⟩
  apply sleep_meets_lulls
  · exact fun s hs => hs.givenUp hopen _
  · exact fun s w hs hw => hslept hs hw
  · exact fun s w hs hw => (hslept hs hw).givenUp hopen _

section Observed

variable (hobserved : a.observed = true)
include hobserved

theorem tell_told (e : Event) :
    (a.tell e).Meets (Reads t events) (fun _ => Reads t (events ++ [e])) E := by
  apply tell_meets_lulls
  · intro _ s w hs hw
    exact ⟨hs.ticket, by rw [hw.told, World.told_record_emitted, hs.told]⟩
  · intro hunobserved
    rw [hobserved] at hunobserved
    contradiction

theorem moveTo_told {next : Stage} (h : t.stage.canBecome next = true) :
    (a.moveTo next).Meets (Reads t events)
      (fun _ => Reads { t with stage := next } (events ++ [.stateChanged t.id t.stage next])) E := by
  intro s hs
  rw [on_moveTo (hs.ticket ▸ h), hs.ticket]
  exact tell_told hobserved _ ⟨{ t with stage := next }, s.world⟩ ⟨rfl, hs.told⟩

/-- A move to the next stage goes on with the chronicle. -/
theorem moveTo_chronicled {stage next : Stage} (h : stage.canBecome next = true)
    (hnext : ∀ events, Chronicle id stage events →
      Chronicle id next (events ++ [.stateChanged (some id) stage next])) :
    (a.moveTo next).Meets (Chronicled id stage) (fun _ => Chronicled id next) E := by
  apply meets_chronicled
  rintro t events rfl hid hchronicle
  refine (moveTo_told hobserved h).post fun _ s hs => hs.chronicled rfl hid ?_
  rw [hid]
  exact hnext _ hchronicle

/-- Nothing is told of a request that is not granted. -/
theorem create_chronicled :
    a.create.Meets (fun s => s.ticket.stage = .created ∧ s.world.told = [])
      (fun _ s => ∃ id, s.Chronicled id .pending) (fun _ => Stuck .created []) := by
  refine Meets.bind (expectStage_meets fun _ h => h.1) fun _ => ?_
  apply Meets.get
  rintro s ⟨hstage, htold⟩
  have hopen : s.ticket.stage.isTerminal = false := by rw [hstage]; rfl
  refine Meets.pre (P := Reads s.ticket []) ?_ fun t ht => ⟨by rw [ht], by rw [ht]; exact htold⟩
  refine Meets.bind (logLine_told _ _) fun _ => ?_
  rw [Client.requestKey_eq]
  refine Meets.bind ((ask_told hopen).mono (fun _ h => h) (fun _ _ h => h) fun _ _ h => hstage ▸ h)
    fun id => ?_
  refine Meets.bind (Q := fun _ => Reads { s.ticket with id := some id } []) (Meets.modify ?_) fun _ => ?_
  · exact fun t ht => ⟨by rw [← ht.ticket], ht.told⟩
  · refine (moveTo_told hobserved (by rw [hstage]; rfl)).post fun _ t ht => ⟨id, ht.chronicled rfl rfl ?_⟩
    rw [hstage]
    exact .pending

theorem poll_chronicled :
    a.poll.Meets (Chronicled id .pending)
      (fun stage s => (stage = .pending ∨ stage = .accepted ∨ stage = .denied) ∧ s.Chronicled id stage)
      (fun _ => Breaks id .pending) := by
  apply meets_chronicled
  intro t events hstage hid hchronicle
  have hopen : t.stage.isTerminal = false := by rw [hstage]; rfl
  have hbreaks : ∀ (_ : Stop) s, Stuck t.stage events s → Breaks id .pending s :=
    fun _ s hs => ⟨hs.told.symm ▸ hchronicle, hstage ▸ hs.stage⟩
  have hreads : ∀ s, Reads t events s → Chronicled id .pending s :=
    fun s hs => hs.chronicled hstage hid hchronicle
  refine Meets.bind (P := Reads t events) (Q := fun n s => n = id ∧ Reads t events s) ?_ fun n => ?_
  · rintro s ⟨rfl, rfl⟩
    rw [on_pendingNumber hstage hid]
    exact ⟨rfl, rfl, rfl⟩
  apply Meets.given
  rintro rfl
  rw [Client.inquire_eq]
  refine Meets.bind ((ask_told hopen).mono (fun _ h => h) (fun _ _ h => h) hbreaks) fun stage => ?_
  cases stage with
  | pending => exact Meets.pure fun s hs => ⟨.inl rfl, hreads s hs⟩
  | accepted =>
    refine Meets.bind ((moveTo_chronicled hobserved rfl fun _ h => h.accepted).pre hreads) fun _ => ?_
    exact Meets.pure fun s hs => ⟨.inr (.inl rfl), hs⟩
  | denied =>
    refine Meets.bind ((moveTo_chronicled hobserved rfl fun _ h => h.denied).pre hreads) fun _ => ?_
    exact Meets.pure fun s hs => ⟨.inr (.inr rfl), hs⟩
  | created => exact (giveUp_told hopen).mono (fun _ h => h) (fun _ _ h => h) hbreaks
  | fulfilled => exact (giveUp_told hopen).mono (fun _ h => h) (fun _ _ h => h) hbreaks
  | failed => exact (giveUp_told hopen).mono (fun _ h => h) (fun _ _ h => h) hbreaks

/-- A wait breaks while the request is pending, or it ends with the decision. -/
theorem pollFrom_chronicled (answers : Nat) (attempts : UInt32) :
    (a.pollFrom id answers attempts).Meets (Chronicled id .pending) (fun _ => Chronicled id .accepted)
      (fun _ s => s.Breaks id .pending ∨ s.Chronicled id .denied) := by
  induction answers generalizing attempts with
  | zero => exact Meets.throw fun s hs => .inl ⟨hs.chronicle, .inl hs.holds.1⟩
  | succ answers ih =>
    rw [pollFrom]
    refine Meets.bind ((poll_chronicled hobserved).mono (fun _ h => h) (fun _ _ h => h)
      fun _ _ h => .inl h) fun stage => ?_
    apply Meets.given
    rintro (rfl | rfl | rfl)
    · apply meets_chronicled
      intro t events hstage hid hchronicle
      have hopen : t.stage.isTerminal = false := by rw [hstage]; rfl
      have hbreaks {events : List Event} (hchronicle : Chronicle id .pending events) (s : Session)
          (hs : Stuck t.stage events s) : s.Breaks id .pending ∨ s.Chronicled id .denied :=
        .inl ⟨hs.told.symm ▸ hchronicle, hstage ▸ hs.stage⟩
      dsimp only
      split
      · refine Meets.bind (tell_told hobserved _) fun _ => ?_
        have hwaiting := hchronicle.waiting (countUp attempts) a.polling.intervalMs
        refine Meets.bind ((sleep_told hopen).mono (fun _ h => h) (fun _ _ h => h) fun _ s hs =>
          hbreaks hwaiting s hs) fun _ => ?_
        exact (ih _).pre fun s hs => hs.chronicled hstage hid hwaiting
      · exact (giveUp_told hopen).mono (fun _ h => h) (fun _ _ h => h) fun _ s hs =>
          hbreaks hchronicle s hs
    · exact Meets.pure fun s hs => hs
    · refine Meets.bind (Q := fun _ => Chronicled id .denied) ?_ fun _ => Meets.throw fun s hs => .inr hs
      apply meets_chronicled
      intro t events hstage hid hchronicle
      exact (logLine_told _ _).post fun _ s hs => hs.chronicled hstage hid hchronicle

theorem awaitDecision_chronicled :
    a.awaitDecision.Meets (Chronicled id .pending) (fun _ => Chronicled id .accepted)
      (fun _ s => s.Breaks id .pending ∨ s.Chronicled id .denied) := by
  intro s hs
  rw [awaitDecision, on_bind_of_ok (on_pendingNumber hs.holds.1 hs.holds.2)]
  by_cases hallows : a.polling.allows 0 = true
  · rw [if_pos hallows]
    exact pollFrom_chronicled hobserved _ 0 s hs
  · have hopen : s.ticket.stage.isTerminal = false := by rw [hs.holds.1]; rfl
    rw [if_neg hallows, on_giveUp]
    exact .inl ⟨(lulls_givenUp s _).told.symm ▸ hs.chronicle, .inr (stage_fail hopen)⟩

theorem fulfill_chronicled :
    a.fulfill.Meets (Chronicled id .accepted) (fun _ => Chronicled id .fulfilled)
      (fun _ => Breaks id .accepted) := by
  refine Meets.bind (expectStage_meets fun _ h => h.holds.1) fun _ => ?_
  apply Meets.get
  intro s hs
  have hopen : s.ticket.stage.isTerminal = false := by rw [hs.holds.1]; rfl
  refine Meets.pre (P := Reads s.ticket s.world.told) ?_ fun t ht => ⟨by rw [ht], by rw [ht]⟩
  rw [hs.holds.2]
  dsimp only
  rw [Client.collect_eq]
  refine Meets.bind ((ask_told hopen).mono (fun _ h => h) (fun _ _ h => h) ?_) fun secret => ?_
  · exact fun _ t ht => ⟨ht.told.symm ▸ hs.chronicle, hs.holds.1 ▸ ht.stage⟩
  refine Meets.bind (Q := fun _ => Chronicled id .fulfilled) ?_ fun _ => ?_
  · refine (moveTo_chronicled hobserved rfl fun _ (h : Chronicle id .accepted _) => h.fulfilled).pre ?_
    exact fun t ht => ht.chronicled hs.holds.1 hs.holds.2 hs.chronicle
  · refine Meets.bind (Q := fun _ => Chronicled id .fulfilled) ?_ fun _ => Meets.pure fun _ h => h
    apply meets_chronicled
    intro t events hstage hid hchronicle
    exact (logLine_told _ _).post fun _ u hu => hu.chronicled hstage hid hchronicle

end Observed

/-! ### Runs -/

/-- The stage of the ticket at the beginning of the step that stops a run. -/
def stopsIn (a : Applicant) (s : Session) : Option Stage :=
  match a.create.on s with
  | (.error _, _) => some s.ticket.stage
  | (.ok _, t) =>
    match a.awaitDecision.on t with
    | (.error _, _) => some t.ticket.stage
    | (.ok _, u) =>
      match a.fulfill.on u with
      | (.error _, _) => some u.ticket.stage
      | (.ok _, _) => none

/-- A run of a fresh ticket tells its chronicle, up to the stage in which the ticket is or in which it
failed. -/
theorem run_chronicled (hobserved : a.observed = true) (handle : String) (w : World) :
    let ending := a.run.on (.fresh handle w)
    ∃ id stage, Chronicle id stage ending.2.world.told ∧ (stage = .created ∨ w.Grants id) ∧
      (a.stopsIn (.fresh handle w) = some .created → stage = .created) ∧
      (ending.2.ticket.stage = stage ∨
        ending.2.ticket.stage = .failed ∧ a.stopsIn (.fresh handle w) = some stage) := by
  intro ending
  rcases hcreate : a.create.on (.fresh handle w) with ⟨e | _, t⟩
  · have hend : ending = (.error e, t) := on_bind_of_error hcreate
    have hstops : a.stopsIn (.fresh handle w) = some .created := by
      rw [stopsIn, hcreate]
      rfl
    have hstuck := (create_chronicled hobserved).error ⟨rfl, rfl⟩ hcreate
    rw [hend]
    refine ⟨0, .created, ?_, .inl rfl, fun _ => rfl, hstuck.stage.imp_right fun h => ⟨h, hstops⟩⟩
    rw [hstuck.told]
    exact .created
  obtain ⟨id, ht⟩ := (create_chronicled hobserved).ok ⟨rfl, rfl⟩ hcreate
  have hgranted : w.Grants id := by
    obtain ⟨n, hn, hgranted⟩ := (create_grants w).ok ⟨rfl, rfl⟩ hcreate
    cases ht.holds.2.symm.trans hn.2
    exact hgranted
  rcases hawait : a.awaitDecision.on t with ⟨e | _, u⟩
  · have hend : ending = (.error e, u) := (on_bind_of_ok hcreate).trans (on_bind_of_error hawait)
    have hstops : a.stopsIn (.fresh handle w) = some .pending := by
      simp only [stopsIn, hcreate, hawait, ht.holds.1]
    rw [hend, hstops]
    rcases (awaitDecision_chronicled hobserved).error ht hawait with hbreaks | hdenied
    · exact ⟨id, .pending, hbreaks.chronicle, .inr hgranted, nofun, hbreaks.stage.imp_right fun h => ⟨h, rfl⟩⟩
    · exact ⟨id, .denied, hdenied.chronicle, .inr hgranted, nofun, .inl hdenied.holds.1⟩
  have hu := (awaitDecision_chronicled hobserved).ok ht hawait
  have hlater : ending = a.fulfill.on u := (on_bind_of_ok hcreate).trans (on_bind_of_ok hawait)
  rcases hfulfill : a.fulfill.on u with ⟨e | secret, v⟩
  · have hbreaks := (fulfill_chronicled hobserved).error hu hfulfill
    have hstops : a.stopsIn (.fresh handle w) = some .accepted := by
      simp only [stopsIn, hcreate, hawait, hfulfill, hu.holds.1]
    rw [hlater, hfulfill, hstops]
    exact ⟨id, .accepted, hbreaks.chronicle, .inr hgranted, nofun, hbreaks.stage.imp_right fun h => ⟨h, rfl⟩⟩
  · have hfulfilled := (fulfill_chronicled hobserved).ok hu hfulfill
    have hstops : a.stopsIn (.fresh handle w) = none := by
      simp only [stopsIn, hcreate, hawait, hfulfill]
    rw [hlater, hfulfill, hstops]
    exact ⟨id, .fulfilled, hfulfilled.chronicle, .inr hgranted, nofun, .inl hfulfilled.holds.1⟩

/-- What the observer of a run is told replays to the stage of its ticket, or to the stage in which the ticket
failed. The moves go along one of two routes, every event carries the number that the server granted, and pauses
are told of only while the request is pending. Nothing is told when the request is not granted. If the observer
does not fire the token, the run comes to the same without an observer. -/
theorem run_chronicle (a : Applicant) (handle : String) (w : World) :
    let observed : Applicant := { a with observed := true }
    let unobserved : Applicant := { a with observed := false }
    let ending := observed.run.on (.fresh handle w)
    let told := ending.2.world.told
    (∃ stage, replay? told = some stage ∧
      (ending.2.ticket.stage = .failed → observed.stopsIn (.fresh handle w) = some stage) ∧
      (ending.2.ticket.stage ≠ .failed → ending.2.ticket.stage = stage)) ∧
    (movesOf told <+: [(.created, .pending), (.pending, .accepted), (.accepted, .fulfilled)] ∨
      movesOf told <+: [(.created, .pending), (.pending, .denied)]) ∧
    (∀ e ∈ told, ∃ id, e.number? = some id ∧ w.Grants id) ∧
    (observed.stopsIn (.fresh handle w) = some .created → told = []) ∧
    (∀ before id attempt ms after, told = before ++ .pollWaiting id attempt ms :: after →
      movesOf before = [(.created, .pending)]) ∧
    (w.token.fireOnEvent = none →
      let quiet := unobserved.run.on (.fresh handle w)
      quiet.1 = ending.1 ∧ quiet.2.ticket = ending.2.ticket ∧
        quiet.2.world.requests = ending.2.world.requests) := by
  intro observed unobserved ending told
  have hobserved : observed.observed = true := rfl
  obtain ⟨id, stage, hchronicle, hgranted, hcreated, hticket⟩ := run_chronicled hobserved handle w
  have hempty : Chronicle id .created told → told = [] := by
    intro h
    generalize told = events at h
    cases h
    rfl
  refine ⟨⟨stage, hchronicle.replay?_eq, ?_, ?_⟩, ?_, ?_, ?_, ?_, ?_⟩
  · intro hfailed
    refine (hticket.resolve_left fun hstage => ?_).2
    exact hchronicle.ne_failed (hstage.symm.trans hfailed)
  · exact fun hother => hticket.resolve_right fun h => hother h.1
  · rw [hchronicle.movesOf_eq]
    exact stage.route_prefix
  · intro e he
    refine ⟨id, hchronicle.number?_eq e he, hgranted.resolve_left ?_⟩
    rintro rfl
    rw [hempty hchronicle] at he
    exact List.not_mem_nil he
  · intro hstops
    exact hempty (hcreated hstops ▸ hchronicle)
  · exact fun before number attempt ms after hsplit => hchronicle.movesOf_of_waiting hsplit
  · intro hquiet
    obtain ⟨hresult, hsame, hworlds⟩ := a.run_unobserved (Ticket.new handle) (w := { w with trace := [] }) hquiet
    exact ⟨hresult.eq.symm, hsame.symm, hworlds.requests.symm⟩

end Applicant

end KeyApproval
