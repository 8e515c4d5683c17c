import KeyApproval.Proofs.Timeless
import KeyApproval.Proofs.Turns
import KeyApproval.Proofs.Undisturbed

/-!
# The cadence of polls

Waiting for a decision is a row of rounds. In each the request is asked for once, and before all but the first
there is a pause: one notice, which counts the polls so far, and one sleep of the interval. The rounds go on as
long as the answers tell that the request is pending and the limit permits another poll.
-/

namespace KeyApproval

open Http Step

/-! ### Beats -/

/-- A request, a sleep, or the notice of one. -/
def Occurrence.isBeat : Occurrence → Bool
  | .sent _ | .slept _ | .emitted (.pollWaiting ..) => true
  | .emitted (.stateChanged ..) | .logged _ | .interrupted => false

namespace World

def beats (w : World) : List Occurrence := w.trace.filter Occurrence.isBeat

theorem filter_acts (w : World) : w.acts.filter Occurrence.isBeat = w.beats := by
  rw [acts, beats, List.filter_filter]
  refine congrArg (List.filter · w.trace) (funext fun o => ?_)
  cases o with
  | emitted e => cases e <;> rfl
  | _ => rfl

theorem beats_record (w : World) (o : Occurrence) :
    (w.record o).beats = w.beats ++ if o.isBeat then [o] else [] := by
  rw [beats, record, List.filter_append, List.filter_cons]
  rfl

theorem Lulls.beats {w w' : World} (h : w.Lulls w') : w'.beats = w.beats := by
  rw [← filter_acts, h.acts, filter_acts]

end World

theorem Client.Transmits.beats {c : Client} {method : Method} {path : String} {body : Option String}
    {w w' : World} {r : Request} (h : c.Transmits method path body w r w') :
    w'.beats = w.beats ++ [.sent r] :=
  h.lull.beats.trans (World.beats_record w (.sent r))

namespace Polling

/-- The number that a notice gives for so many polls: no greater one than there is. -/
def tally (polls : Nat) : UInt32 := .ofNat (min polls 0xFFFFFFFF)

theorem toNat_tally (polls : Nat) : (tally polls).toNat = min polls 0xFFFFFFFF := by
  rw [tally, UInt32.toNat_ofNat']
  omega

theorem countUp_tally (polls : Nat) : Applicant.countUp (tally polls) = tally (polls + 1) := by
  apply UInt32.toNat_inj.mp
  rw [Applicant.toNat_countUp, toNat_tally, toNat_tally]
  omega

end Polling

namespace Applicant

/-- What comes before the poll that follows on so many others. -/
def pause (a : Applicant) (id : UInt64) : Nat → List Occurrence
  | 0 => []
  | polls + 1 =>
    (if a.observed then [.emitted (.pollWaiting id (Polling.tally (polls + 1)) a.polling.intervalMs)]
      else []) ++ [.slept a.polling.intervalMs]

/-- Polls with the pauses between them. -/
def cadence (a : Applicant) (id : UInt64) (polls : List Request) : List Occurrence :=
  polls.zipIdx.flatMap fun (r, i) => a.pause id i ++ [.sent r]

theorem cadence_nil (a : Applicant) (id : UInt64) : a.cadence id [] = [] := rfl

theorem cadence_concat (a : Applicant) (id : UInt64) (polls : List Request) (r : Request) :
    a.cadence id (polls ++ [r]) = a.cadence id polls ++ a.pause id polls.length ++ [.sent r] := by
  simp [cadence, List.zipIdx_append]

/-- Makes a pause before all polls but the first. -/
def lead (a : Applicant) (id : UInt64) : Nat → Step Unit
  | 0 => pure ()
  | polls + 1 => do
    a.tell (.pollWaiting id (Polling.tally (polls + 1)) a.polling.intervalMs)
    a.sleep

/-- The poll that follows on so many others, with the pause before it. -/
def round (a : Applicant) (id : UInt64) (polls : Nat) : Step Stage := do
  a.lead id polls
  a.poll

/-- Polls were sent that ask for that number over that transport. -/
def Asks (a : Applicant) (transport : Transport) (id : UInt64) (r : Request) : Prop :=
  ∃ w w', w.transport = transport ∧ a.client.Transmits .get (Client.requestPath id) none w r w'

variable {a : Applicant} {id : UInt64} {s t u : Session} {polls : Nat}

theorem Asks.not_bars {transport : Transport} {r : Request} {e : ClientError}
    (h : a.Asks transport id r) (timeless : transport.IsTimeless) :
    ¬a.client.Bars transport .get (Client.requestPath id) none e := by
  obtain ⟨w, w', rfl, hsent⟩ := h
  exact hsent.not_bars timeless

theorem Asks.method_eq {transport : Transport} {r : Request} (h : a.Asks transport id r) :
    r.method = .get := by
  obtain ⟨w, w', -, hsent⟩ := h
  exact hsent.method_eq

theorem Asks.namesRequest {transport : Transport} {r : Request} (h : a.Asks transport id r) :
    r.url.NamesRequest id := by
  obtain ⟨w, w', -, hsent⟩ := h
  exact Url.namesRequest_of_join hsent.url_eq

/-! ### One round -/

/-- The session stays as it is, but for these beats. -/
structure Passes (s : Session) (beats : List Occurrence) (t : Session) : Prop where
  ticket : t.ticket = s.ticket
  transport : t.world.transport = s.world.transport
  script : t.world.script = s.world.script
  beats : t.world.beats = s.world.beats ++ beats

theorem passes_record {o : Occurrence} {w : World} (h : (s.world.record o).Lulls w)
    (hbeat : o.isBeat = true) : Passes s [o] ⟨s.ticket, w⟩ where
  ticket := rfl
  transport := h.transport
  script := h.script
  beats := by rw [h.beats, World.beats_record, if_pos hbeat]

theorem Passes.trans {beats beats' : List Occurrence} (h : Passes s beats t) (h' : Passes t beats' u) :
    Passes s (beats ++ beats') u where
  ticket := h'.ticket.trans h.ticket
  transport := h'.transport.trans h.transport
  script := h'.script.trans h.script
  beats := by rw [h'.beats, h.beats, List.append_assoc]

theorem Passes.holds {beats : List Occurrence} {stage : Stage} (h : Passes s beats t)
    (hs : s.Holds stage id) : t.Holds stage id := by
  rw [Session.Holds, h.ticket]
  exact hs

theorem beats_givenUp (s : Session) (e : RunError) : (s.givenUp e).world.beats = s.world.beats :=
  (Session.lulls_givenUp s e).beats

/-- A pause comes to its end, or it is cancelled. -/
theorem lead_passes (a : Applicant) (id : UInt64) (polls : Nat) (s : Session) :
    (a.lead id polls).Meets (· = s) (fun _ t => Passes s (a.pause id polls) t)
      (fun e t => e = .error .cancelled ∧
        ∃ tail, tail <+: a.pause id polls ∧ t.world.beats = s.world.beats ++ tail) := by
  cases polls with
  | zero =>
    refine Meets.pure ?_
    rintro t rfl
    exact ⟨rfl, rfl, rfl, (List.append_nil _).symm⟩
  | succ polls =>
    let notice : List Occurrence := if a.observed then
      [.emitted (.pollWaiting id (Polling.tally (polls + 1)) a.polling.intervalMs)] else []
    refine Meets.bind (Q := fun _ t => Passes s notice t) ?_ fun _ => ?_
    · apply tell_meets_lulls
      · rintro hobserved t w rfl hw
        simp only [notice, if_pos hobserved]
        exact passes_record hw rfl
      · rintro hunobserved t rfl
        simp only [notice, hunobserved]
        exact ⟨rfl, rfl, rfl, (List.append_nil _).symm⟩
    · apply sleep_meets_lulls
      · intro t ht
        refine ⟨rfl, notice, List.prefix_append _ _, ?_⟩
        rw [beats_givenUp, ht.beats]
      · intro t w ht hw
        exact ht.trans (passes_record hw rfl)
      · intro t w ht hw
        refine ⟨rfl, a.pause id (polls + 1), List.prefix_rfl, ?_⟩
        rw [beats_givenUp]
        exact (ht.trans (passes_record hw rfl)).beats

/-- One poll was sent between the sessions, and nothing else that is a beat. -/
def Polls (a : Applicant) (id : UInt64) (s t : Session) : Prop :=
  ∃ r, a.Asks s.world.transport id r ∧ t.world.beats = s.world.beats ++ [.sent r]

/-- A poll failed. It was sent, unless it was cancelled or barred before. -/
def Misses (a : Applicant) (id : UInt64) (s : Session) (e : Stop) (t : Session) : Prop :=
  (∀ n limit, e ≠ .error (.pollLimitExceeded n limit)) ∧
    (a.Polls id s t ∨ t.world.beats = s.world.beats ∧ (e = .error .cancelled ∨
      ∃ f, a.client.Bars s.world.transport .get (Client.requestPath id) none f))

/-- A poll was answered that takes nothing from the session but an answer. -/
structure Asked (a : Applicant) (id : UInt64) (s t : Session) : Prop where
  ticket : t.ticket = s.ticket
  transport : t.world.transport = s.world.transport
  script : t.world.script.length < s.world.script.length
  polls : a.Polls id s t

theorem inquire_asked (a : Applicant) (id : UInt64) (s : Session) :
    (ask (a.client.inquire id)).Meets (· = s) (fun stage t => stage.IsServed ∧ a.Asked id s t)
      (a.Misses id s) := by
  have hpolls {w : World} {r : Request}
      (hsent : a.client.Transmits .get (Client.requestPath id) none s.world r w) :
      a.Polls id s ⟨s.ticket, w⟩ := ⟨r, ⟨s.world, w, rfl, hsent⟩, hsent.beats⟩
  have hgivenUp {w : World} {r : Request} (e : RunError)
      (hsent : a.client.Transmits .get (Client.requestPath id) none s.world r w) :
      a.Polls id s (Session.givenUp ⟨s.ticket, w⟩ e) :=
    hpolls (hsent.lulls (Session.lulls_givenUp ⟨s.ticket, w⟩ e))
  rw [Client.inquire_eq]
  apply ask_meets_attempts
  · rintro _ rfl
    exact ⟨nofun, .inr ⟨beats_givenUp _ _, .inl rfl⟩⟩
  · rintro _ w e rfl hw hbars
    exact ⟨nofun, .inr ⟨(beats_givenUp _ _).trans hw.beats, .inr ⟨e, hbars⟩⟩⟩
  · rintro _ r w reply stage rfl hsent hreply hstage
    obtain ⟨answer, rfl, hanswer⟩ := Client.consult_eq_ok_iff.mp hstage
    have hlength := List.length_pos_iff.mpr (World.script_ne_nil hreply)
    refine ⟨(Client.decodeState_eq_ok_iff.mp hanswer).2, rfl, hsent.transport, ?_, hpolls hsent⟩
    rw [hsent.script, List.length_tail]
    omega
  · rintro _ r w reply e rfl hsent - -
    exact ⟨nofun, .inl (hgivenUp _ hsent)⟩
  · rintro _ r w rfl hsent
    exact ⟨nofun, .inl (hgivenUp _ hsent)⟩
  · rintro _ r w rfl hsent -
    exact ⟨nofun, .inl (hpolls hsent)⟩

theorem tell_stateChanged_polls {v : Session} {before after : Stage} {number : Option UInt64}
    {E : Stop → Session → Prop} (h : a.Polls id s v) :
    (a.tell (.stateChanged number before after)).Meets (· = v) (fun _ t => a.Polls id s t) E := by
  obtain ⟨r, hr, hbeats⟩ := h
  apply tell_meets_lulls
  · rintro - _ w rfl hw
    refine ⟨r, hr, ?_⟩
    rw [hw.beats, World.beats_record, hbeats]
    exact List.append_nil _
  · rintro - _ rfl
    exact ⟨r, hr, hbeats⟩

/-- A poll tells of a pending request, or of a decision. -/
theorem poll_asked (hpending : s.Holds .pending id) :
    a.poll.Meets (· = s)
      (fun stage t => stage = .pending ∧ a.Asked id s t ∨
        (stage = .accepted ∨ stage = .denied) ∧ a.Polls id s t) (a.Misses id s) := by
  intro t ht
  rw [ht, poll, on_bind_of_ok (on_pendingNumber hpending.1 hpending.2)]
  refine Meets.bind (inquire_asked a id s) (fun stage v hv => ?_) s rfl
  obtain ⟨hserved, hasked⟩ := hv
  have hmove {next : Stage} (hnext : Stage.pending.canBecome next = true)
      (hkind : next = .accepted ∨ next = .denied) :
      (do a.moveTo next; pure next : Step Stage).Meets (· = v)
        (fun stage t => stage = .pending ∧ a.Asked id s t ∨
          (stage = .accepted ∨ stage = .denied) ∧ a.Polls id s t) (a.Misses id s) := by
    refine Meets.bind (Q := fun _ t => a.Polls id s t) ?_ fun _ => Meets.pure fun t ht => .inr ⟨hkind, ht⟩
    intro u hu
    rw [hu, on_moveTo (by rw [hasked.ticket, hpending.1]; exact hnext)]
    exact tell_stateChanged_polls (v := ⟨{ v.ticket with stage := next }, v.world⟩) hasked.polls _ rfl
  cases stage with
  | pending => exact .inl ⟨rfl, hasked⟩
  | accepted => exact hmove rfl (.inl rfl) v rfl
  | denied => exact hmove rfl (.inr rfl) v rfl
  | fulfilled =>
    obtain ⟨r, hr, hbeats⟩ := hasked.polls
    exact ⟨nofun, .inl ⟨r, hr, (beats_givenUp _ _).trans hbeats⟩⟩
  | created => exact absurd rfl hserved.1
  | failed => exact absurd rfl hserved.2

theorem exists_poll_of_round {stage : Stage} (h : (a.round id polls).on s = (.ok stage, u)) :
    ∃ t, Passes s (a.pause id polls) t ∧ a.poll.on t = (.ok stage, u) := by
  have hlead := a.lead_passes id polls s s rfl
  rw [round, on_bind] at h
  rcases hled : (a.lead id polls).on s with ⟨e | _, t⟩
  · rw [hled] at h
    cases h
  · rw [hled] at h hlead
    exact ⟨t, hlead, h⟩

/-- A round that fails is cancelled in its pause, or its poll fails. -/
theorem round_of_error {e : Stop} (h : (a.round id polls).on s = (.error e, u)) :
    (e = .error .cancelled ∧ ∃ tail, tail <+: a.pause id polls ∧ u.world.beats = s.world.beats ++ tail) ∨
      ∃ t, Passes s (a.pause id polls) t ∧ a.poll.on t = (.error e, u) := by
  have hlead := a.lead_passes id polls s s rfl
  rw [round, on_bind] at h
  rcases hled : (a.lead id polls).on s with ⟨f | _, t⟩
  · rw [hled] at h hlead
    cases h
    exact .inl hlead
  · rw [hled] at h hlead
    exact .inr ⟨t, hlead, h⟩

/-! ### Rounds in a row -/

/-- So many polls in a row told of a pending request, the first of them from the first session on. -/
inductive Waited (a : Applicant) (id : UInt64) (s : Session) : Nat → Session → Prop where
  | start : Waited a id s 0 s
  | next {polls : Nat} {t u : Session} (earlier : Waited a id s polls t)
      (told : (a.round id polls).on t = (.ok .pending, u)) : Waited a id s (polls + 1) u

/-- How waiting for a decision ends. -/
inductive Awaits (a : Applicant) (id : UInt64) (s : Session) : Except Stop Unit × Session → Prop where
  | exceeded {limit : UInt32} {t : Session} (limited : a.polling.maxAttempts = some limit)
      (waited : a.Waited id s limit.toNat t) :
      Awaits a id s (.error (.error (.pollLimitExceeded id limit)),
        t.givenUp (.pollLimitExceeded id limit))
  | stopped {polls : Nat} {e : Stop} {t u : Session} (permitted : a.polling.Permits (polls + 1))
      (waited : a.Waited id s polls t) (failed : (a.round id polls).on t = (.error e, u)) :
      Awaits a id s (.error e, u)
  | denied {polls : Nat} {t u : Session} (permitted : a.polling.Permits (polls + 1))
      (waited : a.Waited id s polls t) (told : (a.round id polls).on t = (.ok .denied, u)) :
      Awaits a id s (.error (.error (.denied id)),
        ⟨u.ticket, u.world.log .warn s!"Key request {id} was denied"⟩)
  | accepted {polls : Nat} {t u : Session} (permitted : a.polling.Permits (polls + 1))
      (waited : a.Waited id s polls t) (told : (a.round id polls).on t = (.ok .accepted, u)) :
      Awaits a id s (.ok (), u)

namespace Waited

theorem unique {t' : Session} (h : a.Waited id s polls t) (h' : a.Waited id s polls t') : t = t' := by
  induction h generalizing t' with
  | start =>
    cases h'
    rfl
  | next earlier told ih =>
    cases h' with
    | next earlier' told' =>
      obtain rfl := ih earlier'
      exact congrArg Prod.snd (told.symm.trans told')

/-- Of rounds in a row, each but the last leads to another one. -/
theorem exists_next {more : Nat} (h : a.Waited id s more u) (hlt : polls < more)
    (ht : a.Waited id s polls t) : ∃ v, (a.round id polls).on t = (.ok .pending, v) := by
  induction h with
  | start => omega
  | @next k v w earlier told ih =>
    rcases Nat.lt_succ_iff_lt_or_eq.mp hlt with hless | rfl
    · exact ih hless
    · obtain rfl := ht.unique earlier
      exact ⟨w, told⟩

/-- What so many rounds leave behind. -/
structure Leaves (a : Applicant) (id : UInt64) (s : Session) (rs : List Request) (t : Session) : Prop where
  asked : ∀ r ∈ rs, a.Asks s.world.transport id r
  ticket : t.ticket = s.ticket
  transport : t.world.transport = s.world.transport
  beats : t.world.beats = s.world.beats ++ a.cadence id rs

theorem Leaves.holds {rs : List Request} (h : Leaves a id s rs t) (hpending : s.Holds .pending id) :
    t.Holds .pending id := by
  rw [Session.Holds, h.ticket]
  exact hpending

theorem Leaves.concat {rs : List Request} {v : Session} (h : Leaves a id s rs t)
    (hpassed : Passes t (a.pause id rs.length) u) (hpolled : a.Polls id u v) :
    ∃ r, (∀ q ∈ rs ++ [r], a.Asks s.world.transport id q) ∧
      v.world.beats = s.world.beats ++ a.cadence id (rs ++ [r]) := by
  obtain ⟨r, hr, hbeats⟩ := hpolled
  rw [hpassed.transport, h.transport] at hr
  refine ⟨r, List.forall_mem_append.mpr ⟨h.asked, List.forall_mem_singleton.mpr hr⟩, ?_⟩
  rw [hbeats, hpassed.beats, h.beats, cadence_concat]
  simp only [List.append_assoc]

theorem leaves (hpending : s.Holds .pending id) (h : a.Waited id s polls t) :
    ∃ rs : List Request, rs.length = polls ∧ Leaves a id s rs t := by
  induction h with
  | start => exact ⟨[], rfl, List.forall_mem_nil _, rfl, rfl, by rw [cadence_nil, List.append_nil]⟩
  | @next polls t u earlier told ih =>
    obtain ⟨rs, rfl, hrs⟩ := ih
    obtain ⟨v, hpassed, hpoll⟩ := exists_poll_of_round told
    have hholds : v.Holds .pending id := hpassed.holds (hrs.holds hpending)
    rcases (poll_asked hholds).ok rfl hpoll with ⟨-, hasked⟩ | ⟨hother, -⟩
    · obtain ⟨r, hall, hbeats⟩ := hrs.concat hpassed hasked.polls
      refine ⟨rs ++ [r], List.length_append, hall, ?_, ?_, hbeats⟩
      · rw [hasked.ticket, hpassed.ticket, hrs.ticket]
      · rw [hasked.transport, hpassed.transport, hrs.transport]
    · simp at hother

theorem holds (hpending : s.Holds .pending id) (h : a.Waited id s polls t) : t.Holds .pending id := by
  obtain ⟨rs, -, hrs⟩ := h.leaves hpending
  exact hrs.holds hpending

end Waited

/-- The fuel of the loop outlasts the script, from which every poll in vain takes a step. -/
theorem awaits_pollFrom (hpending : s.Holds .pending id) (fuel : Nat)
    (permitted : a.polling.Permits (polls + 1)) (waited : a.Waited id s polls t)
    (hfuel : t.world.script.length < fuel) :
    a.Awaits id s ((do a.lead id polls; a.pollFrom id fuel (Polling.tally polls) : Step Unit).on t) := by
  induction fuel generalizing polls t with
  | zero => omega
  | succ fuel ih =>
    rcases hlead : (a.lead id polls).on t with ⟨e | _, u⟩
    · rw [on_bind_of_error hlead]
      exact .stopped permitted waited (on_bind_of_error hlead)
    have hpassed := (a.lead_passes id polls t).ok rfl hlead
    rw [on_bind_of_ok hlead, pollFrom]
    rcases hpoll : a.poll.on u with ⟨e | stage, v⟩
    · rw [on_bind_of_error hpoll]
      exact .stopped permitted waited ((on_bind_of_ok hlead).trans hpoll)
    have hround : (a.round id polls).on t = (.ok stage, v) := (on_bind_of_ok hlead).trans hpoll
    have hholds := hpassed.holds (waited.holds hpending)
    rw [on_bind_of_ok hpoll]
    rcases (poll_asked hholds).ok rfl hpoll with ⟨rfl, hasked⟩ | ⟨rfl | rfl, -⟩
    · have hcount := Polling.toNat_tally (polls + 1)
      have hshorter := hasked.script
      rw [hpassed.script] at hshorter
      simp only [Polling.countUp_tally]
      split
      next hallows =>
        have hnext := ih ((permits_iff_allows hcount).mpr hallows) (waited.next hround) (by omega)
        rwa [lead, bind_assoc] at hnext
      next hallows =>
        obtain ⟨hlimit, heq⟩ := eq_limit_of_not_allows hcount permitted hallows
        exact .exceeded hlimit (heq.symm ▸ waited.next hround)
    · exact .accepted permitted waited hround
    · exact .denied permitted waited hround

theorem awaits_awaitDecision (hpending : s.Holds .pending id) :
    a.Awaits id s (a.awaitDecision.on s) := by
  rw [awaitDecision, on_bind_of_ok (on_pendingNumber hpending.1 hpending.2)]
  split
  next hallows =>
    have hpermitted : a.polling.Permits (0 + 1) := (permits_iff_allows rfl).mpr hallows
    exact awaits_pollFrom hpending _ hpermitted .start (Nat.lt_succ_self _)
  next hallows =>
    obtain ⟨hlimit, -⟩ := eq_limit_of_not_allows (n := 0) rfl (fun _ _ => Nat.zero_le _) hallows
    exact .exceeded hlimit .start

/-! ### What is noticed of waiting -/

theorem round_ne_exceeded {e : Stop} (hpending : s.Holds .pending id)
    (h : (a.round id polls).on s = (.error e, u)) (n : UInt64) (limit : UInt32) :
    e ≠ .error (.pollLimitExceeded n limit) := by
  rcases round_of_error h with ⟨rfl, -⟩ | ⟨t, hpassed, hpoll⟩
  · nofun
  · exact ((poll_asked (hpassed.holds hpending)).error rfl hpoll).1 n limit

/-- The limit is what ends waiting if as many polls as it permits were in vain, and never otherwise. -/
theorem Awaits.exceeded_iff {ending : Except Stop Unit × Session} (hpending : s.Holds .pending id)
    (h : a.Awaits id s ending) {n : UInt64} {limit : UInt32} :
    ending.1 = .error (.error (.pollLimitExceeded n limit)) ↔
      n = id ∧ a.polling.maxAttempts = some limit ∧ ∃ t, a.Waited id s limit.toNat t := by
  constructor
  · intro hend
    cases h with
    | exceeded limited waited =>
      cases hend
      exact ⟨rfl, limited, _, waited⟩
    | stopped permitted waited failed =>
      exact absurd (Except.error.inj hend) (round_ne_exceeded (waited.holds hpending) failed n limit)
    | denied => cases hend
    | accepted => cases hend
  · rintro ⟨rfl, hlimit, t, hwaited⟩
    -- a round that was permitted was in vain as well
    have hvain {k : Nat} {u v : Session} {result : Except Stop Stage}
        (permitted : a.polling.Permits (k + 1)) (waited : a.Waited n s k u)
        (hround : (a.round n k).on u = (result, v)) : result = .ok .pending := by
      obtain ⟨v', hv'⟩ := hwaited.exists_next (permitted limit hlimit) waited
      exact congrArg Prod.fst (hround.symm.trans hv')
    cases h with
    | exceeded limited =>
      cases limited.symm.trans hlimit
      rfl
    | stopped permitted waited failed => cases hvain permitted waited failed
    | denied permitted waited told => cases hvain permitted waited told
    | accepted permitted waited told => cases hvain permitted waited told

/-- What others notice of waiting: polls in their cadence, and the beginning of a pause after the last one if
the wait is cancelled there. -/
structure Marks (a : Applicant) (id : UInt64) (s : Session) (rs : List Request) (tail : List Occurrence)
    (ending : Except Stop Unit × Session) : Prop where
  asked : ∀ r ∈ rs, a.Asks s.world.transport id r
  permitted : a.polling.Permits rs.length
  beats : ending.2.world.beats = s.world.beats ++ (a.cadence id rs ++ tail)
  rest : tail <+: a.pause id rs.length
  broken : s.world.transport.IsTimeless → tail ≠ [] → ending.1 = .error (.error .cancelled)

/-- Where the last poll was sent, nothing is left of a pause. -/
theorem Waited.Leaves.marks {rs : List Request} {ending : Except Stop Unit × Session} {v : Session}
    (h : Waited.Leaves a id s rs t) (permitted : a.polling.Permits (rs.length + 1))
    (hpassed : Passes t (a.pause id rs.length) u) (hpolled : a.Polls id u v)
    (hlull : v.world.Lulls ending.2.world) : ∃ rs tail, a.Marks id s rs tail ending := by
  obtain ⟨r, hall, hbeats⟩ := h.concat hpassed hpolled
  refine ⟨rs ++ [r], [], hall, ?_, ?_, List.nil_prefix, fun _ hnil => absurd rfl hnil⟩
  · rwa [List.length_append]
  · rw [hlull.beats, hbeats, List.append_nil]

theorem Awaits.marks {ending : Except Stop Unit × Session} (hpending : s.Holds .pending id)
    (h : a.Awaits id s ending) : ∃ rs tail, a.Marks id s rs tail ending := by
  -- a poll that decides was sent
  have hdecided {k : Nat} {stage : Stage} {t u : Session} {ending : Except Stop Unit × Session}
      (permitted : a.polling.Permits (k + 1)) (waited : a.Waited id s k t)
      (told : (a.round id k).on t = (.ok stage, u)) (hstage : stage ≠ .pending)
      (hlull : u.world.Lulls ending.2.world) : ∃ rs tail, a.Marks id s rs tail ending := by
    obtain ⟨rs, rfl, hrs⟩ := waited.leaves hpending
    obtain ⟨v, hpassed, hpoll⟩ := exists_poll_of_round told
    have hholds := hpassed.holds (waited.holds hpending)
    have hpolled := ((poll_asked hholds).ok rfl hpoll).resolve_left fun h => hstage h.1
    exact hrs.marks permitted hpassed hpolled.2 hlull
  cases h with
  | @exceeded limit t limited waited =>
    obtain ⟨rs, hlength, hrs⟩ := waited.leaves hpending
    refine ⟨rs, [], hrs.asked, ?_, ?_, List.nil_prefix, fun _ hnil => absurd rfl hnil⟩
    · intro limit' hlimit'
      cases limited.symm.trans hlimit'
      exact hlength.le
    · rw [List.append_nil]
      exact (beats_givenUp t _).trans hrs.beats
  | @stopped k e t u permitted waited failed =>
    obtain ⟨rs, rfl, hrs⟩ := waited.leaves hpending
    have hpermitted : a.polling.Permits rs.length := fun limit hlimit =>
      Nat.le_of_succ_le (permitted limit hlimit)
    have hunpolled {tail : List Occurrence} (htail : tail <+: a.pause id rs.length)
        (hbeats : u.world.beats = t.world.beats ++ tail)
        (hcause : e = .error .cancelled ∨
          ∃ f, a.client.Bars s.world.transport .get (Client.requestPath id) none f) :
        ∃ rs tail, a.Marks id s rs tail (.error e, u) := by
      refine ⟨rs, tail, hrs.asked, hpermitted, ?_, htail, fun timeless hne => ?_⟩
      · rw [hbeats, hrs.beats, List.append_assoc]
      · rcases hcause with rfl | ⟨f, hbars⟩
        · rfl
        · cases rs with
          | nil => exact absurd (List.prefix_nil.mp htail) hne
          | cons r rest => exact absurd hbars ((hrs.asked r List.mem_cons_self).not_bars timeless)
    rcases round_of_error failed with ⟨rfl, tail, htail, hbeats⟩ | ⟨v, hpassed, hpoll⟩
    · exact hunpolled htail hbeats (.inl rfl)
    · have hholds := hpassed.holds (waited.holds hpending)
      rcases ((poll_asked hholds).error rfl hpoll).2 with hpolled | ⟨hbeats, hcause⟩
      · exact hrs.marks permitted hpassed hpolled (.refl _)
      · rw [hpassed.transport, hrs.transport] at hcause
        exact hunpolled List.prefix_rfl (hbeats.trans hpassed.beats) hcause
  | denied permitted waited told =>
    exact hdecided permitted waited told nofun (World.lulls_log _ _ _)
  | accepted permitted waited told => exact hdecided permitted waited told nofun (.refl _)

/-- A poll that is answered that the request is pending leaves the ticket as it was, whatever that is. -/
theorem ticket_of_poll (h : a.poll.on s = (.ok .pending, u)) : u.ticket = s.ticket := by
  by_cases hstage : s.ticket.stage = .pending
  · cases hid : s.ticket.id with
    | none =>
      rw [poll, on_bind_of_error (on_pendingNumber_of_none hstage hid)] at h
      cases h
    | some id =>
      rcases (poll_asked ⟨hstage, hid⟩).ok rfl h with ⟨-, hasked⟩ | ⟨hother, -⟩
      · exact hasked.ticket
      · simp at hother
  · rw [poll, pendingNumber, bind_assoc, on_bind_of_error (on_expectStage_of_ne hstage)] at h
    cases h

/-- Waiting for the decision about a pending request, whatever the answers, the token and the limit are. The
polls are so many as the limit permits at most; between two of them there is one notice, which tells how many
polls there were, and one sleep of the interval, and after the last one there is at most the beginning of a
pause, when the wait is cancelled there. The limit is exceeded if and only if as many polls as it says told in
a row that the request is pending, cancelled or not, and then the ticket is failed. No poll that tells so
touches the ticket. -/
theorem awaitDecision_cadence (a : Applicant) (id : UInt64) (handle : String) (w : World) :
    let s : Session := ⟨⟨some id, handle, .pending⟩, w⟩
    let ending := a.awaitDecision.on s
    (∃ rs tail, (∀ r ∈ rs, r.method = .get ∧ r.url.NamesRequest id) ∧
      a.polling.Permits rs.length ∧
      ending.2.world.beats = w.beats ++ (a.cadence id rs ++ tail) ∧
      tail <+: a.pause id rs.length ∧
      (w.transport.check = Request.check ∨ w.transport.IsTimeless → tail ≠ [] →
        ending.1 = .error (.error .cancelled))) ∧
    (∀ n limit, ending.1 = .error (.error (.pollLimitExceeded n limit)) ↔
      n = id ∧ a.polling.maxAttempts = some limit ∧ ∃ t, a.Waited id s limit.toNat t) ∧
    (∀ n limit, ending.1 = .error (.error (.pollLimitExceeded n limit)) →
      ending.2.ticket = ⟨some id, handle, .failed⟩) ∧
    ∀ t u, a.poll.on t = (.ok .pending, u) → u.ticket = t.ticket := by
  intro s ending
  have hpending : s.Holds .pending id := ⟨rfl, rfl⟩
  have hends : a.Awaits id s ending := awaits_awaitDecision hpending
  obtain ⟨rs, tail, hmarks⟩ := hends.marks hpending
  refine ⟨⟨rs, tail, ?_, hmarks.permitted, hmarks.beats, hmarks.rest,
      fun h => hmarks.broken (h.elim Transport.isTimeless_of_check fun htimeless => htimeless)⟩,
    fun n limit => hends.exceeded_iff hpending, ?_, fun t u => ticket_of_poll⟩
  · exact fun r hr => ⟨(hmarks.asked r hr).method_eq, (hmarks.asked r hr).namesRequest⟩
  · intro n limit hend
    clear_value ending
    cases hends with
    | exceeded limited waited =>
      obtain ⟨rs, -, hwaited⟩ := waited.leaves hpending
      rw [Session.givenUp, hwaited.ticket]
      rfl
    | stopped permitted waited failed =>
      exact absurd (Except.error.inj hend) (round_ne_exceeded (waited.holds hpending) failed n limit)
    | denied => cases hend
    | accepted => cases hend

end Applicant

end KeyApproval
