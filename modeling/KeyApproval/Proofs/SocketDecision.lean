import KeyApproval.Proofs.ActivationVariables

/-!
# The decision for a socket

Whether the module of the activated socket is enabled is up to the command line, else to the last table that says
so, and a table that is refused says nothing. When the module starts it takes the one socket that was passed, if
it is enabled and the socket can be listened to, and takes offence at any other number. While it is disabled any
socket at all is a mistake, but variables that cannot be read are none. A module that took its socket can serve
until it is cleaned up.
-/

namespace KeyApproval

/-! ### Flags -/

/-- The boolean that stands under a key. -/
def Toml.Table.flag? (table : Toml.Table) (key : String) : Option Bool :=
  match table.get? key with
  | some (.boolean b) => some b
  | _ => none

/-- Something else than a boolean stands under the key. -/
def Toml.Table.Misuses (table : Toml.Table) (key : String) : Prop :=
  ∃ v, table.get? key = some v ∧ ∀ b, v ≠ .boolean b

/-- What reading a flag gives. It fails for what is not a boolean, and then there is no flag. -/
inductive ReadsFlag (key : String) (table : Toml.Table) : Except Failure (Option Bool) → Prop where
  | read (h : ¬ table.Misuses key) : ReadsFlag key table (.ok (table.flag? key))
  | failed {f : Failure} (h : table.Misuses key) (hflag : table.flag? key = none) : ReadsFlag key table (.error f)

theorem readFlag_reads (key : String) (table : Toml.Table) : ReadsFlag key table (readFlag key table) := by
  cases hentry : table.get? key with
  | none =>
    have hread : readFlag key table = .ok (table.flag? key) := by rw [readFlag, Toml.Table.flag?, hentry]
    exact hread ▸ .read (by simp [Toml.Table.Misuses, hentry])
  | some v =>
    cases v with
    | boolean b =>
      have hread : readFlag key table = .ok (table.flag? key) := by rw [readFlag, Toml.Table.flag?, hentry]
      exact hread ▸ .read (by simp [Toml.Table.Misuses, hentry])
    | string _ | integer _ | float _ | datetime _ | array _ | table _ =>
      obtain ⟨f, hread⟩ : ∃ f, readFlag key table = .error f := ⟨_, by rw [readFlag, hentry]⟩
      have hflag : table.flag? key = none := by rw [Toml.Table.flag?, hentry]
      exact hread ▸ .failed (by simp [Toml.Table.Misuses, hentry]) hflag

namespace SocketSink

variable {m : SocketSink} {table : Toml.Table}

/-! ### Configuring -/

/-- What comes of a table. One that is refused changes nothing. -/
inductive Configures (table : Toml.Table) (m : SocketSink) : Except Failure Unit × SocketSink → Prop where
  | fixed (h : m.commandLine.isSome = true) : Configures table m (.ok (), m)
  | followed (h : ¬ m.commandLine.isSome = true) (hgood : ¬ table.Misuses "use_socket") :
      Configures table m (.ok (), { m with enabled := (table.flag? "use_socket").getD m.enabled })
  | refused {f : Failure} (h : ¬ m.commandLine.isSome = true) (hbad : table.Misuses "use_socket")
      (hflag : table.flag? "use_socket" = none) : Configures table m (.error f, m)

theorem configure_configures (table : Toml.Table) (m : SocketSink) : Configures table m (configure table m) := by
  by_cases hfixed : m.commandLine.isSome = true
  · rw [configure, if_pos hfixed]
    exact .fixed hfixed
  · rw [configure, if_neg hfixed]
    have hread := readFlag_reads "use_socket" table
    generalize readFlag "use_socket" table = result at hread ⊢
    cases hread with
    | read hgood => exact .followed hfixed hgood
    | failed hbad hflag => exact .refused hfixed hbad hflag

theorem configure_eq_ok_iff :
    (configure table m).1 = .ok () ↔ m.commandLine.isSome = true ∨ ¬ table.Misuses "use_socket" := by
  have hconfigures := configure_configures table m
  generalize configure table m = result at hconfigures ⊢
  cases hconfigures with
  | fixed h => exact iff_of_true rfl (.inl h)
  | followed _ hgood => exact iff_of_true rfl (.inr hgood)
  | refused h hbad _ => exact iff_of_false (by simp) (not_or_intro h (not_not_intro hbad))

theorem configure_of_error {f : Failure} (h : (configure table m).1 = .error f) : (configure table m).2 = m := by
  have hconfigures := configure_configures table m
  generalize configure table m = result at hconfigures h ⊢
  cases hconfigures with
  | fixed _ | refused _ _ _ => rfl
  | followed _ _ => exact absurd h (by simp)

/-- The flag once that was said of it, if anything. What the command line says is not changed. -/
def flagAfter (m : SocketSink) (said : Option Bool) : Bool :=
  if m.commandLine.isSome then m.enabled else said.getD m.enabled

theorem configure_snd (m : SocketSink) (table : Toml.Table) :
    (configure table m).2 = { m with enabled := m.flagAfter (table.flag? "use_socket") } := by
  have hconfigures := configure_configures table m
  generalize configure table m = result at hconfigures ⊢
  cases hconfigures with
  | fixed h => rw [flagAfter, if_pos h]
  | followed h _ => rw [flagAfter, if_neg h]
  | refused h _ hflag => rw [flagAfter, if_neg h, hflag, Option.getD_none]

/-- The module after these tables, whether it refuses some of them or not. -/
def configureAll (tables : List Toml.Table) (m : SocketSink) : SocketSink :=
  tables.foldl (fun m table => (configure table m).2) m

def lastFlag? (tables : List Toml.Table) : Option Bool := (tables.filterMap (·.flag? "use_socket")).getLast?

theorem lastFlag?_append_singleton (tables : List Toml.Table) (table : Toml.Table) :
    lastFlag? (tables ++ [table]) = (table.flag? "use_socket").or (lastFlag? tables) := by
  rw [lastFlag?, List.filterMap_append, List.getLast?_append]
  cases hflag : table.flag? "use_socket" with
  | none => simp [hflag, lastFlag?]
  | some b => simp [hflag]

theorem configureAll_eq (tables : List Toml.Table) (m : SocketSink) :
    m.configureAll tables = { m with enabled := m.flagAfter (lastFlag? tables) } := by
  -- from the back, where the last word is
  induction tables using List.reverseRecOn with
  | nil =>
    have hunsaid : m.flagAfter (lastFlag? []) = m.enabled := ite_self _
    rw [hunsaid]
    rfl
  | append_singleton tables table ih =>
    have hflag : flagAfter { m with enabled := m.flagAfter (lastFlag? tables) } (table.flag? "use_socket") =
        m.flagAfter (lastFlag? (tables ++ [table])) := by
      rw [lastFlag?_append_singleton]
      unfold flagAfter
      by_cases hfixed : m.commandLine.isSome = true
      · simp only [if_pos hfixed]
      · simp only [if_neg hfixed]
        cases table.flag? "use_socket" <;> rfl
    calc m.configureAll (tables ++ [table])
        = (configure table (m.configureAll tables)).2 := by
          rw [configureAll, configureAll, List.foldl_append, List.foldl_cons, List.foldl_nil]
      _ = { m with enabled := m.flagAfter (lastFlag? (tables ++ [table])) } := by
          rw [configure_snd, ih, hflag]

/-! ### Starting -/

variable {environment : Environment} {a : Activation}

theorem inherit_of_count_eq_zero (h : a.count = 0) : inherit a = .error .socketMissing := by
  rw [inherit, h]
  rfl

theorem inherit_of_count_eq_one (h : a.count = 1) : inherit a = .ok (.inherited 3) := by
  rw [inherit, h]
  rfl

theorem inherit_of_two_le (h : 2 ≤ a.count) : inherit a = .error (.tooManySockets a.count) := by
  obtain ⟨n, hn⟩ := Nat.exists_eq_add_of_le' h
  rw [inherit, hn]
  rfl

theorem findListener_of_enabled (h : m.enabled = true) (hpreset : m.preset = none) (a : Activation) :
    m.findListener (.ok a) = (inherit a).map some := by
  rw [findListener, if_pos h, hpreset]
  change (inherit a >>= fun l => pure (some l)) = (inherit a).map some
  cases inherit a <;> rfl

theorem findListener_error_of_enabled (h : m.enabled = true) (e : DeliveryError) :
    m.findListener (.error e) = .error e := by
  rw [findListener, if_pos h]
  rfl

theorem findListener_of_disabled (h : m.enabled = false) (a : Activation) :
    m.findListener (.ok a) = if 0 < a.count then .error .socketDisabled else .ok none := by
  rw [findListener, if_neg (by simp [h])]

theorem findListener_error_of_disabled (h : m.enabled = false) (e : DeliveryError) :
    m.findListener (.error e) = .ok none := by
  rw [findListener, if_neg (by simp [h])]

theorem start_of_error (henvironment : m.environment = some environment) {e : DeliveryError}
    (h : m.findListener environment = .error e) :
    m.start = (.error (.ofText e.message), { m with environment := none }) := by
  simp only [start, henvironment, Option.getD_some, h]

theorem start_of_none (henvironment : m.environment = some environment)
    (h : m.findListener environment = .ok none) : m.start = (.ok (), { m with environment := none }) := by
  simp only [start, henvironment, Option.getD_some, h]

theorem start_of_some (henvironment : m.environment = some environment) {l : Listener}
    (h : m.findListener environment = .ok (some l)) (husable : m.faults.registration? = none) :
    m.start = (.ok (), { m with environment := none, preset := none, listener := some l }) := by
  simp only [start, henvironment, Option.getD_some, h, husable]

theorem start_of_registration (henvironment : m.environment = some environment) {l : Listener}
    (h : m.findListener environment = .ok (some l)) {f : Failure} (hfault : m.faults.registration? = some f) :
    m.start = (.error f, { m with environment := none, preset := none }) := by
  simp only [start, henvironment, Option.getD_some, h, hfault]

/-- What comes of the start of a module that has no socket yet: the result, and the socket that it took. A fault
is in the way of listening to the one socket that there is. -/
inductive Outcome (fault : Option Failure) :
    (enabled : Bool) → ActivationReading → Except Failure Unit → Option Listener → Prop where
  | took {a : Activation} (h : a.count = 1) (husable : fault = none) :
      Outcome fault true (.read a) (.ok ()) (some (.inherited 3))
  | unusable {a : Activation} {f : Failure} (h : a.count = 1) (hfault : fault = some f) :
      Outcome fault true (.read a) (.error f) none
  | missing {a : Activation} (h : a.count = 0) :
      Outcome fault true (.read a) (.error (.ofText DeliveryError.socketMissing.message)) none
  | tooMany {a : Activation} (h : 2 ≤ a.count) :
      Outcome fault true (.read a) (.error (.ofText (DeliveryError.tooManySockets a.count).message)) none
  | unreadable (e : DeliveryError) : Outcome fault true (.rejected e) (.error (.ofText e.message)) none
  | unwanted {a : Activation} (h : 1 ≤ a.count) :
      Outcome fault false (.read a) (.error (.ofText DeliveryError.socketDisabled.message)) none
  | unneeded {a : Activation} (h : a.count = 0) : Outcome fault false (.read a) (.ok ()) none
  | ignored (e : DeliveryError) : Outcome fault false (.rejected e) (.ok ()) none

/-- A module as it is before it starts: it will look at variables that were read, and it has no socket. -/
structure Awaits (m : SocketSink) (reading : ActivationReading) : Prop where
  environment : m.environment = reading.environment?
  read : reading.environment? ≠ none
  preset : m.preset = none
  listener : m.listener = none

theorem start_outcome {reading : ActivationReading} (h : m.Awaits reading) :
    Outcome m.faults.registration? m.enabled reading m.start.1 m.start.2.listener := by
  obtain ⟨henvironment, hread, hpreset, hlistener⟩ := h
  cases reading with
  | unallocatable count => exact absurd rfl hread
  | rejected e =>
    cases henabled : m.enabled with
    | true =>
      rw [start_of_error henvironment (findListener_error_of_enabled henabled e)]
      exact hlistener ▸ .unreadable e
    | false =>
      rw [start_of_none henvironment (findListener_error_of_disabled henabled e)]
      exact hlistener ▸ .ignored e
  | read a =>
    cases henabled : m.enabled with
    | true =>
      have hfound := findListener_of_enabled henabled hpreset a
      obtain hzero | hone | htwo : a.count = 0 ∨ a.count = 1 ∨ 2 ≤ a.count := by omega
      · rw [inherit_of_count_eq_zero hzero] at hfound
        rw [start_of_error henvironment hfound]
        exact hlistener ▸ .missing hzero
      · rw [inherit_of_count_eq_one hone] at hfound
        cases hfault : m.faults.registration? with
        | none =>
          rw [start_of_some henvironment hfound hfault]
          exact .took hone rfl
        | some f =>
          rw [start_of_registration henvironment hfound hfault]
          change Outcome _ _ _ _ m.listener
          rw [hlistener]
          exact .unusable hone rfl
      · rw [inherit_of_two_le htwo] at hfound
        rw [start_of_error henvironment hfound]
        exact hlistener ▸ .tooMany htwo
    | false =>
      have hfound := findListener_of_disabled henabled a
      by_cases hcount : 0 < a.count
      · rw [if_pos hcount] at hfound
        rw [start_of_error henvironment hfound]
        exact hlistener ▸ .unwanted hcount
      · rw [if_neg hcount] at hfound
        rw [start_of_none henvironment hfound]
        exact hlistener ▸ .unneeded (Nat.eq_zero_of_not_pos hcount)

section Outcome

variable {fault : Option Failure} {enabled : Bool} {reading : ActivationReading} {result : Except Failure Unit}
  {l : Option Listener}

theorem Outcome.took_iff (h : Outcome fault enabled reading result l) :
    l = some (.inherited 3) ↔ enabled = true ∧ (∃ a, reading = .read a ∧ a.count = 1) ∧ fault = none := by
  cases h with
  | took hone husable => exact iff_of_true rfl ⟨rfl, ⟨_, rfl, hone⟩, husable⟩
  | unusable _ hfault => exact iff_of_false (by simp) (by simp [hfault])
  | missing hzero => exact iff_of_false (by simp) (by simp [hzero])
  | tooMany htwo => exact iff_of_false (by simp) (by simp; omega)
  | unreadable _ | unwanted _ | unneeded _ | ignored _ => exact iff_of_false (by simp) (by simp)

theorem Outcome.result_of_unusable {f : Failure} (h : Outcome (some f) true (.read a) result l)
    (hcount : a.count = 1) : result = .error f ∧ l = none := by
  cases h with
  | took _ husable => exact nomatch husable
  | unusable _ hfault => exact ⟨by rw [Option.some.inj hfault], rfl⟩
  | missing _ | tooMany _ => omega

theorem Outcome.result_of_rejected {e : DeliveryError} (h : Outcome fault true (.rejected e) result l) :
    result = .error (.ofText e.message) := by
  cases h
  rfl

theorem Outcome.result_of_missing (h : Outcome fault true (.read a) result l) (hcount : a.count = 0) :
    result = .error (.ofText DeliveryError.socketMissing.message) := by
  cases h with
  | took _ _ | unusable _ _ | tooMany _ => omega
  | missing _ => rfl

theorem Outcome.result_of_tooMany (h : Outcome fault true (.read a) result l) (hcount : 2 ≤ a.count) :
    result = .error (.ofText (DeliveryError.tooManySockets a.count).message) := by
  cases h with
  | took _ _ | unusable _ _ | missing _ => omega
  | tooMany _ => rfl

theorem Outcome.unwanted_iff (h : Outcome fault false reading result l) :
    result = .error (.ofText DeliveryError.socketDisabled.message) ↔
      ∃ a, reading = .read a ∧ 1 ≤ a.count := by
  cases h with
  | unwanted hcount => exact iff_of_true rfl ⟨_, rfl, hcount⟩
  | unneeded hcount => exact iff_of_false (by simp) (by simp [hcount])
  | ignored _ => exact iff_of_false (by simp) (by simp)

theorem Outcome.unneeded_iff (h : Outcome fault false reading result l) :
    result = .ok () ↔ ¬ ∃ a, reading = .read a ∧ 1 ≤ a.count := by
  cases h with
  | unwanted hcount => exact iff_of_false (by simp) (not_not_intro ⟨_, rfl, hcount⟩)
  | unneeded hcount => exact iff_of_true rfl (by simp [hcount])
  | ignored _ => exact iff_of_true rfl (by simp)

theorem Outcome.isSome_of_ok (h : Outcome fault true reading (.ok ()) l) : l.isSome = true := by
  cases h
  rfl

end Outcome

/-! ### Serving -/

def performAll (tasks : List Task) (m : SocketSink) : SocketSink :=
  tasks.foldl (fun m task => (Sink.perform task m).2) m

/-- Only cleaning up takes a socket away. -/
theorem isSome_listener_perform (h : m.listener.isSome = true) {task : Task} (htask : task ≠ .cleanUp) :
    (Sink.perform task m).2.listener.isSome = true := by
  cases task with
  | configure table =>
    change (configure table m).2.listener.isSome = true
    rw [configure_snd]
    exact h
  | start =>
    change m.start.2.listener.isSome = true
    unfold start
    dsimp only
    split
    · exact h
    · exact h
    · split
      · exact h
      · rfl
  | deliver secret =>
    change (deliver secret m).2.listener.isSome = true
    unfold deliver
    split <;> exact h
  | report error => exact h
  | cleanUp => exact absurd rfl htask

theorem isSome_listener_performAll (h : m.listener.isSome = true) {tasks : List Task}
    (htasks : ∀ task ∈ tasks, task ≠ .cleanUp) : (m.performAll tasks).listener.isSome = true := by
  induction tasks generalizing m with
  | nil => exact h
  | cons task tasks ih =>
    apply ih (isSome_listener_perform h (htasks task List.mem_cons_self))
    exact fun later hlater => htasks later (List.mem_cons_of_mem task hlater)

/-- What fails with a client there has a cause. -/
theorem causes_of_transmit {faults : SocketFaults} {bytes : List UInt8} {f : Failure}
    (h : (faults.transmit bytes).1 = .error f) : f.causes ≠ [] := by
  have hclosing : faults.closing = .error f → f.causes ≠ [] := by
    unfold SocketFaults.closing
    split
    · rintro ⟨⟩
      exact List.cons_ne_nil _ _
    · nofun
  unfold SocketFaults.transmit at h
  split at h
  · exact hclosing h
  · split at h
    · exact hclosing h
    · obtain rfl := Except.error.inj h
      exact List.cons_ne_nil _ _

theorem deliver_eq_error_iff (secret : String) :
    (deliver secret m).1 = .error (.ofText "Socket module was not initialized") ↔ m.listener = none := by
  unfold deliver
  cases m.listener with
  | none => exact iff_of_true rfl rfl
  | some l =>
    refine iff_of_false ?_ (by simp)
    cases m.faults.accept with
    | some cause => simp [Failure.ofText]
    | none => exact fun h => causes_of_transmit h rfl

/-! ### The decision -/

open Activation hiding none

/-- A new module, with a flag from the command line or without one, and what will be wrong with its socket. -/
def made (commandLine : Option Bool) (faults : SocketFaults) : SocketSink :=
  commandLine.elim { faults } (fix { faults })

/-- What a module decides that has seen these tables and will look at variables of that reading. -/
structure Decides (commandLine : Option Bool) (faults : SocketFaults) (tables : List Toml.Table)
    (reading : ActivationReading) (m : SocketSink) : Prop where
  flag : m.enabled = commandLine.getD ((lastFlag? tables).getD false)
  accepts : commandLine.isSome = true → ∀ table, (configure table m).1 = .ok ()
  refuses : ∀ table f, (configure table m).1 = .error f → (configure table m).2 = m
  takes : m.start.2.listener = some (.inherited 3) ↔
    m.enabled = true ∧ (∃ a, reading = .read a ∧ a.count = 1) ∧ faults.registration? = none
  unusable : m.enabled = true → ∀ a, reading = .read a → a.count = 1 → ∀ f, faults.registration? = some f →
    m.start.1 = .error f ∧ m.start.2.listener = none
  unreadable : m.enabled = true → ∀ e, reading = .rejected e → m.start.1 = .error (.ofText e.message)
  missing : m.enabled = true → ∀ a, reading = .read a → a.count = 0 →
    m.start.1 = .error (.ofText DeliveryError.socketMissing.message)
  tooMany : m.enabled = true → ∀ a, reading = .read a → 2 ≤ a.count →
    m.start.1 = .error (.ofText (DeliveryError.tooManySockets a.count).message)
  unwanted : m.enabled = false →
    (m.start.1 = .error (.ofText DeliveryError.socketDisabled.message) ↔
      ∃ a, reading = .read a ∧ 1 ≤ a.count)
  unneeded : m.enabled = false → (m.start.1 = .ok () ↔ ¬ ∃ a, reading = .read a ∧ 1 ≤ a.count)
  /-- Whatever else is done with it, but for cleaning it up. -/
  serves : m.enabled = true → m.start.1 = .ok () → ∀ tasks : List Task, (∀ task ∈ tasks, task ≠ .cleanUp) →
    ∀ secret, (deliver secret (m.start.2.performAll tasks)).1 ≠
      .error (.ofText "Socket module was not initialized")
  idles : m.start.2.listener = none → ∀ secret, (deliver secret m.start.2).1 =
    .error (.ofText "Socket module was not initialized")

theorem decides_of_awaits {commandLine : Option Bool} {faults : SocketFaults} {tables : List Toml.Table}
    {reading : ActivationReading} (hawaits : m.Awaits reading) (hcommandLine : m.commandLine = commandLine)
    (hfaults : m.faults = faults) (hflag : m.enabled = commandLine.getD ((lastFlag? tables).getD false)) :
    Decides commandLine faults tables reading m := by
  have houtcome := start_outcome hawaits
  rw [hfaults] at houtcome
  exact {
    flag := hflag
    accepts := fun hfixed table => configure_eq_ok_iff.mpr (.inl (hcommandLine ▸ hfixed))
    refuses := fun table f => configure_of_error
    takes := houtcome.took_iff
    unusable := by
      intro henabled a hreading hcount f hfault
      rw [henabled, hreading, hfault] at houtcome
      exact houtcome.result_of_unusable hcount
    unreadable := by
      intro henabled e hreading
      rw [henabled, hreading] at houtcome
      exact houtcome.result_of_rejected
    missing := by
      intro henabled a hreading hcount
      rw [henabled, hreading] at houtcome
      exact houtcome.result_of_missing hcount
    tooMany := by
      intro henabled a hreading hcount
      rw [henabled, hreading] at houtcome
      exact houtcome.result_of_tooMany hcount
    unwanted := by
      intro henabled
      rw [henabled] at houtcome
      exact houtcome.unwanted_iff
    unneeded := by
      intro henabled
      rw [henabled] at houtcome
      exact houtcome.unneeded_iff
    serves := by
      intro henabled hstart tasks htasks secret
      rw [henabled, hstart] at houtcome
      rw [Ne, deliver_eq_error_iff, ← Option.not_isSome_iff_eq_none, not_not]
      exact isSome_listener_performAll houtcome.isSome_of_ok htasks
    idles := fun hlistener secret => (deliver_eq_error_iff secret).mpr hlistener }

theorem made_spec (commandLine : Option Bool) (faults : SocketFaults) :
    (made commandLine faults).commandLine = commandLine ∧ (made commandLine faults).preset = none ∧
      (made commandLine faults).listener = none ∧ (made commandLine faults).faults = faults := by
  cases commandLine <;> exact ⟨rfl, rfl, rfl, rfl⟩

/-- The command line goes before the tables, and these before the default. -/
theorem flagAfter_made (commandLine : Option Bool) (faults : SocketFaults) (said : Option Bool) :
    (made commandLine faults).flagAfter said = commandLine.getD (said.getD false) := by
  cases commandLine <;> rfl

/-- The command line decides on a module, else the last table that says something of it, and a table that is
refused changes nothing. With variables whose names a list can hold, the module takes the socket if it is enabled,
there is exactly one, and the system lets it be listened to. It is assumed that memory for names is there when a
list can hold them. -/
theorem decides_of_room (commandLine : Option Bool) (faults : SocketFaults) (lookup : String → Option String)
    (pid : UInt32)
    (hroom : ∀ count, IsAddressed lookup pid → Counts (lookup "LISTEN_FDS") count → count * 24 ≤ 2 ^ 63 - 1) :
    ∃ m, (made commandLine faults).lookAt? lookup pid = some m ∧
      ∀ tables, Decides commandLine faults tables (ofVariables lookup pid) (m.configureAll tables) := by
  obtain ⟨environment, henvironment⟩ := (ends_iff.mpr hroom).exists_environment
  obtain ⟨hcommandLine, hpreset, hlistener, hfaults⟩ := made_spec commandLine faults
  refine ⟨{ made commandLine faults with environment := some environment }, ?_, fun tables => ?_⟩
  · rw [lookAt?, henvironment, Option.map_some]
  · rw [configureAll_eq]
    apply decides_of_awaits
    · exact ⟨henvironment.symm, by rw [henvironment]; exact Option.some_ne_none _, hpreset, hlistener⟩
    · exact hcommandLine
    · exact hfaults
    · exact flagAfter_made commandLine faults (lastFlag? tables)

def single (name : String) : Option String :=
  if name = "LISTEN_PID" then some "10" else if name = "LISTEN_FDS" then some " +1\n" else none

theorem room_single (count : Nat) (h : Counts (single "LISTEN_FDS") count) : count * 24 ≤ 2 ^ 63 - 1 := by
  have hread : readNumber? UInt64.size " +1\n" = some 1 := by decide
  have htext : single "LISTEN_FDS" = some " +1\n" := by decide
  rw [htext] at h
  cases h with
  | set hnumeral hlt =>
    have hcount := (readNumber?_eq_some_iff.mpr ⟨hnumeral, hlt⟩).symm.trans hread
    rw [Option.some.inj hcount]
    decide

theorem decides_of_room_single :
    (∀ count, IsAddressed single 10 → Counts (single "LISTEN_FDS") count → count * 24 ≤ 2 ^ 63 - 1) ∧
    (∃ m, (made none {}).lookAt? single 10 = some m ∧
      (m.configureAll [[("use_socket", .boolean true)]]).start.2.listener = some (.inherited 3)) ∧
    ∃ m, (made (some true) { register := some "closed" }).lookAt? single 10 = some m ∧
      (m.configureAll []).start.1 = .error ⟨"Failed to register socket", ["closed"]⟩ := by
  have hroom : ∀ count, IsAddressed single 10 → Counts (single "LISTEN_FDS") count → count * 24 ≤ 2 ^ 63 - 1 :=
    fun count _ => room_single count
  have hreading : ofVariables single 10 = .read ⟨1, ["unknown"]⟩ := by rfl
  have hflag : lastFlag? [[("use_socket", .boolean true)]] = some true := by rfl
  obtain ⟨m, hm, hdecides⟩ := decides_of_room none {} single 10 hroom
  obtain ⟨m', hm', hdecides'⟩ := decides_of_room (some true) { register := some "closed" } single 10 hroom
  have hdecided := hdecides [[("use_socket", .boolean true)]]
  refine ⟨hroom, ⟨m, hm, hdecided.takes.mpr ⟨?_, ⟨_, hreading, rfl⟩, rfl⟩⟩, m', hm', ?_⟩
  · rw [hdecided.flag, hflag]
    rfl
  · exact ((hdecides' []).unusable (hdecides' []).flag _ hreading rfl _ rfl).1

/-- A module that is enabled does not get as far as to complain about so many sockets, and one that is disabled
does not get as far as to complain about any. -/
theorem not_tooMany_crowd :
    (¬ ∃ m, (made (some true) {}).lookAt? crowd 10 = some m ∧
      m.start.1 = .error (.ofText (DeliveryError.tooManySockets 384307168202282326).message)) ∧
    ¬ ∃ m, (made none {}).lookAt? crowd 10 = some m ∧
      m.start.1 = .error (.ofText DeliveryError.socketDisabled.message) := by
  have hnone (m : SocketSink) : m.lookAt? crowd 10 = none := by
    rw [lookAt?_eq_none_iff, ofVariables_crowd]
    nofun
  simp [hnone]

end SocketSink

end KeyApproval
