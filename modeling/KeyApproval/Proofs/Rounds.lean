import KeyApproval.Delivery.Registry

/-!
# Rounds

A round gives one task to the modules that it is meant for, in the order of their registration, up to and
including the first that fails. Cleaning up goes on after a failure and leaves no module out.
-/

namespace KeyApproval

/-- The elements up to and including the first of that kind. -/
def throughFirst {α : Type} (p : α → Bool) : List α → List α
  | [] => []
  | a :: rest => if p a then [a] else a :: throughFirst p rest

theorem throughFirst_sublist {α : Type} (p : α → Bool) (l : List α) : (throughFirst p l).Sublist l := by
  induction l with
  | nil => exact List.nil_sublist []
  | cons a rest ih =>
    rw [throughFirst]
    split
    · exact List.Sublist.cons_cons a (List.nil_sublist rest)
    · exact ih.cons_cons a

theorem throughFirst_of_all {α : Type} {p : α → Bool} {l : List α} (h : ∀ a ∈ l, p a = false) :
    throughFirst p l = l := by
  induction l with
  | nil => rfl
  | cons a rest ih =>
    rw [throughFirst, h a List.mem_cons_self, ih fun b hb => h b (List.mem_cons_of_mem a hb)]
    rfl

variable {σ : Type} [Sink σ]

def Member.failsAt (m : Member σ) (task : Task) : Bool := (m.call task).error?.isSome

/-- The task for all modules of that kind, and nothing for the others. -/
def Plan.giveTo (p : Member σ → Bool) (task : Task) (m : Member σ) : Plan :=
  if p m then .give task else .pass

namespace Visit

/-- Every call of a visit is what was planned for its module. -/
theorem mem_calls_run {plan : Member σ → Plan} {members : List (Member σ)} {c : Call σ}
    (h : c ∈ (run plan members).calls) :
    ∃ m ∈ members, ∃ task, plan m = .give task ∧ c = m.call task := by
  induction members with
  | nil => exact nomatch h
  | cons m rest ih =>
    have hlater (h : c ∈ (run plan rest).calls) :
        ∃ m' ∈ m :: rest, ∃ task, plan m' = .give task ∧ c = m'.call task := by
      obtain ⟨m', hm', hplan⟩ := ih h
      exact ⟨m', List.mem_cons_of_mem m hm', hplan⟩
    cases hp : plan m with
    | pass =>
      simp only [run, hp] at h
      exact hlater h
    | refuse e =>
      simp only [run, hp] at h
      exact absurd h List.not_mem_nil
    | give task =>
      cases hf : (m.call task).error? with
      | none =>
        simp only [run, hp, hf, List.mem_cons] at h
        exact h.elim (fun h => ⟨m, List.mem_cons_self, task, hp, h⟩) hlater
      | some e =>
        simp only [run, hp, hf, List.mem_singleton] at h
        exact ⟨m, List.mem_cons_self, task, hp, h⟩

/-- A visit calls modules in their order, and none twice. -/
theorem numbers_calls_run (plan : Member σ → Plan) (members : List (Member σ)) :
    ((run plan members).calls.map fun c => c.before.number).Sublist (members.map Member.number) := by
  induction members with
  | nil => exact List.nil_sublist _
  | cons m rest ih =>
    cases hp : plan m with
    | pass =>
      simp only [run, hp, List.map_cons]
      exact ih.cons _
    | refuse e =>
      simp only [run, hp]
      exact List.nil_sublist _
    | give task =>
      cases hf : (m.call task).error? with
      | none =>
        simp only [run, hp, hf, List.map_cons]
        exact ih.cons_cons _
      | some e =>
        simp only [run, hp, hf, List.map_cons]
        exact (List.nil_sublist _).cons_cons _

variable (p : Member σ → Bool) (task : Task) (members : List (Member σ))

theorem calls_run :
    (run (Plan.giveTo p task) members).calls =
      (throughFirst (·.failsAt task) (members.filter p)).map (·.call task) := by
  induction members with
  | nil => rfl
  | cons m rest ih =>
    by_cases hp : p m = true
    · cases hf : (m.call task).error? with
      | none => simp [run, Plan.giveTo, hp, hf, throughFirst, Member.failsAt, ih]
      | some e => simp [run, Plan.giveTo, hp, hf, throughFirst, Member.failsAt]
    · simp [run, Plan.giveTo, hp, ih]

theorem failure_run :
    (run (Plan.giveTo p task) members).failure =
      (members.filter p).findSome? fun m => (m.call task).error? := by
  induction members with
  | nil => rfl
  | cons m rest ih =>
    by_cases hp : p m = true
    · cases hf : (m.call task).error? with
      | none => simp [run, Plan.giveTo, hp, hf, ih]
      | some e => simp [run, Plan.giveTo, hp, hf]
    · simp [run, Plan.giveTo, hp, ih]

/-- No call fails but the one that ended the visit. -/
theorem faults_run :
    (run (Plan.giveTo p task) members).calls.filterMap Call.error? =
      (run (Plan.giveTo p task) members).failure.toList := by
  induction members with
  | nil => rfl
  | cons m rest ih =>
    by_cases hp : p m = true
    · cases hf : (m.call task).error? with
      | none => simp [run, Plan.giveTo, hp, hf, ih]
      | some e => simp [run, Plan.giveTo, hp, hf]
    · simp [run, Plan.giveTo, hp, ih]

variable {p task members}

/-- When no module fails, each of them has done its task. -/
theorem members_run (h : (run (Plan.giveTo p task) members).failure = none) :
    (run (Plan.giveTo p task) members).members =
      members.map fun m => if p m then (m.call task).after else m := by
  induction members with
  | nil => rfl
  | cons m rest ih =>
    by_cases hp : p m = true
    · cases hf : (m.call task).error? with
      | none =>
        simp only [run, Plan.giveTo, hp, if_true, hf] at h ⊢
        rw [List.map_cons, if_pos hp, ← ih h]
      | some e => simp [run, Plan.giveTo, hp, hf] at h
    · simp only [run, Plan.giveTo, hp] at h ⊢
      rw [List.map_cons, if_neg hp, ← ih h]
      rfl

end Visit

namespace Registry

variable (r : Registry σ)

omit [Sink σ] in
theorem error?_visit_mk (registry : Registry σ) (calls : List (Call σ)) (failure : Option DeliveryError) :
    Round.error? ⟨registry, calls, failure.toList⟩ = failure := by
  cases failure <;> rfl

theorem start_eq : r.start = r.visit (Plan.giveTo (fun _ => true) .start) := rfl

omit [Sink σ] in
theorem filter_all (members : List (Member σ)) : members.filter (fun _ => true) = members :=
  List.filter_eq_self.mpr fun _ _ => rfl

theorem calls_start :
    r.start.calls = (throughFirst (·.failsAt .start) r.members).map (·.call .start) := by
  rw [start_eq, visit]
  simp only [Visit.calls_run, filter_all]

theorem error?_start_eq_none_iff :
    r.start.error? = none ↔ r.members.any (·.failsAt .start) = false := by
  rw [start_eq, visit, error?_visit_mk, Visit.failure_run, filter_all, List.findSome?_eq_none_iff,
    List.any_eq_false]
  apply forall₂_congr
  intro m _
  rw [Member.failsAt, Option.not_isSome_iff_eq_none]

theorem members_start (h : r.start.error? = none) :
    r.start.registry.members = r.members.map fun m => (m.call .start).after := by
  rw [start_eq, visit, error?_visit_mk] at h
  exact Visit.members_run h

theorem dispatched_start : r.start.registry.dispatched = r.dispatched := rfl

theorem numbers_visit (plan : Member σ → Plan) :
    (r.visit plan).registry.members.map Member.number = r.members.map Member.number :=
  Visit.numbers_run plan r.members

theorem numbers_start : r.start.registry.members.map Member.number = r.members.map Member.number :=
  r.numbers_visit _

/-- A visit ends with its first failure. -/
theorem failures_visit (plan : Member σ → Plan) :
    (r.visit plan).failures = (r.visit plan).error?.toList := by
  rw [visit, error?_visit_mk]

theorem failures_start : r.start.failures = r.start.error?.toList := r.failures_visit _

theorem faults_start : r.start.calls.filterMap Call.error? = r.start.failures := by
  rw [start_eq]
  exact Visit.faults_run _ _ _

theorem task_configure (document : Toml.Table) :
    ∀ c ∈ (r.configure document).calls, ∃ table, c.task = .configure table := by
  intro c hc
  obtain ⟨m, -, task, hplan, rfl⟩ := Visit.mem_calls_run hc
  split at hplan
  · contradiction
  · exact ⟨_, (Plan.give.inj hplan).symm⟩
  · contradiction

theorem task_start : ∀ c ∈ r.start.calls, c.task = .start := by
  intro c hc
  rw [calls_start] at hc
  obtain ⟨m, -, rfl⟩ := List.mem_map.mp hc
  rfl

theorem task_cleanUp : ∀ c ∈ r.cleanUp.calls, c.task = .cleanUp := by
  intro c hc
  obtain ⟨m, -, rfl⟩ := List.mem_map.mp hc
  rfl

variable {r}

theorem dispatch_eq (h : r.dispatched = false) (task : Task) :
    r.dispatch task = { r with dispatched := true }.visit (Plan.giveTo Member.isEnabled task) := by
  rw [dispatch, h]
  rfl

theorem calls_dispatch (h : r.dispatched = false) (task : Task) :
    (r.dispatch task).calls =
      (throughFirst (·.failsAt task) (r.members.filter Member.isEnabled)).map (·.call task) := by
  rw [dispatch_eq h]
  exact Visit.calls_run _ _ _

theorem failures_dispatch (h : r.dispatched = false) (task : Task) :
    (r.dispatch task).failures = (r.dispatch task).error?.toList := by
  rw [dispatch_eq h]
  exact failures_visit _ _

theorem faults_dispatch (h : r.dispatched = false) (task : Task) :
    (r.dispatch task).calls.filterMap Call.error? = (r.dispatch task).failures := by
  rw [dispatch_eq h]
  exact Visit.faults_run _ _ _

theorem task_dispatch (h : r.dispatched = false) (task : Task) :
    ∀ c ∈ (r.dispatch task).calls, c.task = task := by
  intro c hc
  rw [calls_dispatch h] at hc
  obtain ⟨m, -, rfl⟩ := List.mem_map.mp hc
  rfl

/-- When no module fails, every enabled module is called. -/
theorem calls_dispatch_of_ok (h : r.dispatched = false) {task : Task}
    (hok : (r.dispatch task).error? = none) :
    (r.dispatch task).calls = (r.members.filter Member.isEnabled).map (·.call task) := by
  rw [calls_dispatch h, throughFirst_of_all]
  rw [dispatch_eq h, visit, error?_visit_mk, Visit.failure_run, List.findSome?_eq_none_iff] at hok
  intro m hm
  rw [Member.failsAt, hok m hm]
  rfl

/-- The modules that are enabled after a dispatch are those that it called, if their flags are not changed
by that. -/
theorem enabledNames_dispatch (h : r.dispatched = false) {task : Task}
    (hok : (r.dispatch task).error? = none)
    (hflag : ∀ c ∈ (r.dispatch task).calls, c.after.isEnabled = c.before.isEnabled) :
    (r.dispatch task).registry.enabledNames = (r.dispatch task).calls.map fun c => c.after.name := by
  let next (m : Member σ) : Member σ := if m.isEnabled then (m.call task).after else m
  have hmembers : (r.dispatch task).registry.members = r.members.map next := by
    rw [dispatch_eq h] at hok ⊢
    rw [visit, error?_visit_mk] at hok
    exact Visit.members_run hok
  have hnext : ∀ m ∈ r.members, (next m).isEnabled = m.isEnabled := by
    intro m hm
    by_cases henabled : m.isEnabled = true
    · have hcalled : m.call task ∈ (r.dispatch task).calls := by
        rw [calls_dispatch_of_ok h hok]
        exact List.mem_map_of_mem (List.mem_filter.mpr ⟨hm, henabled⟩)
      simp only [next, henabled, if_true]
      exact (hflag _ hcalled).trans henabled
    · simp only [next, henabled, if_false, Bool.false_eq_true]
  calc (r.dispatch task).registry.enabledNames
      = ((r.members.map next).filter Member.isEnabled).map Member.name := by
        rw [enabledNames, hmembers]
    _ = ((r.members.filter Member.isEnabled).map next).map Member.name := by
        rw [List.filter_map]
        exact congrArg (fun l => (l.map next).map Member.name) (List.filter_congr hnext)
    _ = ((r.members.filter Member.isEnabled).map (·.call task)).map fun c => c.after.name := by
        rw [List.map_map, List.map_map]
        refine List.map_congr_left fun m hm => ?_
        simp only [Function.comp_apply, next, (List.mem_filter.mp hm).2, if_true]
    _ = (r.dispatch task).calls.map fun c => c.after.name := by
        rw [calls_dispatch_of_ok h hok]

theorem numbers_dispatch (task : Task) :
    (r.dispatch task).registry.members.map Member.number = r.members.map Member.number := by
  unfold dispatch
  split
  · rfl
  · exact numbers_visit _ _

end Registry

end KeyApproval
