import KeyApproval.Proofs.Faults
import Mathlib.Data.List.Induction

/-!
# The lives of modules

What becomes of modules over any history of their registry, with runs, failures and resets in any order.
Every module has a number of its own, and the calls so far are kept beside the registry. A dispatch uses up
the flag of the registry and only a reset gives it back, but a reset also drops all modules, and so does a
clean-up. That is why no module is given a second outcome, and none is called after its clean-up.
-/

namespace KeyApproval

namespace Task

def isOutcome : Task → Bool
  | deliver _ | report _ => true
  | configure _ | start | cleanUp => false

def isCleanUp : Task → Bool
  | cleanUp => true
  | configure _ | start | deliver _ | report _ => false

end Task

/-! ### Operations and their history -/

inductive Operation (σ : Type) where
  | register (state : σ)
  | configure (document : Toml.Table)
  | start
  | deliver (secret : String)
  | report (error : RunError)
  | cleanUp
  | reset

namespace Operation

variable {σ : Type}

/-- The outcome that the operation dispatches. -/
def outcome? : Operation σ → Option Task
  | deliver secret => some (.deliver secret)
  | report error => some (.report error)
  | register _ | configure _ | start | cleanUp | reset => none

def isReset : Operation σ → Bool
  | reset => true
  | register _ | configure _ | start | deliver _ | report _ | cleanUp => false

theorem isReset_of_outcome? {o : Operation σ} (h : o.outcome?.isSome = true) : o.isReset = false := by
  cases o with
  | reset => contradiction
  | _ => rfl

/-- There was a dispatch, and no reset after it. -/
def Spent (ops : List (Operation σ)) : Prop :=
  ∃ earlier first later, ops = earlier ++ first :: later ∧ first.outcome?.isSome = true ∧
    ∀ o ∈ later, o.isReset = false

theorem spent_concat_iff {ops : List (Operation σ)} {o : Operation σ} :
    Spent (ops ++ [o]) ↔ o.isReset = false ∧ (Spent ops ∨ o.outcome?.isSome = true) := by
  constructor
  · rintro ⟨earlier, first, later, hops, hfirst, hlater⟩
    rcases List.eq_nil_or_concat' later with rfl | ⟨init, last, rfl⟩
    · obtain ⟨rfl, hlast⟩ := List.append_inj' hops rfl
      obtain rfl := List.singleton_inj.mp hlast
      exact ⟨isReset_of_outcome? hfirst, .inr hfirst⟩
    · rw [← List.cons_append, ← List.append_assoc] at hops
      obtain ⟨rfl, hlast⟩ := List.append_inj' hops rfl
      obtain rfl := List.singleton_inj.mp hlast
      have hinit : ∀ o ∈ init, o.isReset = false := fun o ho => hlater o (List.mem_append_left _ ho)
      exact ⟨hlater o (List.mem_append_right _ List.mem_cons_self),
        .inl ⟨earlier, first, init, rfl, hfirst, hinit⟩⟩
  · rintro ⟨hreset, ⟨earlier, first, later, rfl, hfirst, hlater⟩ | houtcome⟩
    · refine ⟨earlier, first, later ++ [o], ?_, hfirst, fun o' ho' => ?_⟩
      · rw [List.append_assoc, List.cons_append]
      · rcases List.mem_append.mp ho' with ho' | ho'
        · exact hlater o' ho'
        · rw [List.mem_singleton.mp ho']
          exact hreset
    · exact ⟨ops, o, [], rfl, houtcome, nofun⟩

/-- The operations of a whole run, by how the asking for the key ends. The modules are started; if none fails, the
outcome is given; and unless the run hangs they are cleaned up. -/
def ofRun [Sink σ] (r : Registry σ) (asked : Except Stop String) : List (Operation σ) :=
  match r.start.error?, asked with
  | some _, _ => [start, cleanUp]
  | none, .ok secret => [start, deliver secret, cleanUp]
  | none, .error (.error e) => [start, report e, cleanUp]
  | none, .error .hung => [start]

end Operation

namespace Registry

variable {σ : Type} [Sink σ]

def operate (r : Registry σ) : Operation σ → Round σ
  | .register state => ⟨r.register state, [], []⟩
  | .configure document => r.configure document
  | .start => r.start
  | .deliver secret => r.deliver secret
  | .report error => r.report error
  | .cleanUp => r.cleanUp
  | .reset => ⟨r.reset, [], []⟩

omit [Sink σ] in
def numbers (r : Registry σ) : List Nat := r.members.map Member.number

end Registry

/-- A registry and all calls that its operations made so far. -/
structure ModuleHistory (σ : Type) where
  registry : Registry σ
  calls : List (Call σ)

namespace ModuleHistory

variable {σ : Type} [Sink σ]

omit [Sink σ] in
def empty : ModuleHistory σ := ⟨.empty, []⟩

def perform (h : ModuleHistory σ) (o : Operation σ) : ModuleHistory σ :=
  ⟨(h.registry.operate o).registry, h.calls ++ (h.registry.operate o).calls⟩

def performAll (h : ModuleHistory σ) (ops : List (Operation σ)) : ModuleHistory σ := ops.foldl perform h

theorem performAll_append (h : ModuleHistory σ) (ops later : List (Operation σ)) :
    h.performAll (ops ++ later) = (h.performAll ops).performAll later := List.foldl_append

theorem performAll_concat (h : ModuleHistory σ) (ops : List (Operation σ)) (o : Operation σ) :
    h.performAll (ops ++ [o]) = (h.performAll ops).perform o := h.performAll_append ops [o]

end ModuleHistory

/-! ### What an operation does -/

namespace Registry

variable {σ : Type} [Sink σ] {r : Registry σ}

/-- What may come of an operation. Modules are called in their order and none twice. Numbers are given in
order. A clean-up leaves no modules. An outcome is only given while the flag is unset and sets it, and
where the flag is taken back there are no modules either. -/
structure Leads (r : Registry σ) (round : Round σ) : Prop where
  called : (round.calls.map fun c => c.before.number).Sublist r.numbers
  numbered : r.numbers.Sublist (List.range r.registered) →
    round.registry.numbers.Sublist (List.range round.registry.registered)
  counted : r.registered ≤ round.registry.registered
  entered : ∀ n ∈ round.registry.numbers, n ∈ r.numbers ∨ r.registered ≤ n
  emptied : ∀ c ∈ round.calls, c.task.isCleanUp = true → round.registry.numbers = []
  spent : ∀ c ∈ round.calls, c.task.isOutcome = true →
    r.dispatched = false ∧ round.registry.dispatched = true
  restored : round.registry.dispatched = false → r.dispatched = false ∨ round.registry.numbers = []

omit [Sink σ] in
theorem numbers_register (state : σ) : (r.register state).numbers = r.numbers ++ [r.registered] := by
  rw [numbers, register, List.map_append]
  rfl

omit [Sink σ] in
theorem leads_of_calls_eq_nil {round : Round σ} (hcalls : round.calls = [])
    (hnumbered : r.numbers.Sublist (List.range r.registered) →
      round.registry.numbers.Sublist (List.range round.registry.registered))
    (hcounted : r.registered ≤ round.registry.registered)
    (hentered : ∀ n ∈ round.registry.numbers, n ∈ r.numbers ∨ r.registered ≤ n)
    (hrestored : round.registry.dispatched = false → r.dispatched = false ∨ round.registry.numbers = []) :
    r.Leads round where
  called := hcalls ▸ List.nil_sublist _
  numbered := hnumbered
  counted := hcounted
  entered := hentered
  emptied _ hc := absurd (hcalls ▸ hc) List.not_mem_nil
  spent _ hc := absurd (hcalls ▸ hc) List.not_mem_nil
  restored := hrestored

omit [Sink σ] in
theorem leads_register (state : σ) : r.Leads ⟨r.register state, [], []⟩ := by
  refine leads_of_calls_eq_nil rfl (fun h => ?_) (Nat.le_succ _) (fun n hn => ?_) .inl
  · rw [numbers_register, register, List.range_succ]
    exact h.append_right _
  · rw [numbers_register, List.mem_append, List.mem_singleton] at hn
    exact hn.imp_right fun hlast => hlast.ge

omit [Sink σ] in
theorem leads_reset : r.Leads ⟨r.reset, [], []⟩ :=
  leads_of_calls_eq_nil rfl (fun _ => List.nil_sublist _) (Nat.le_refl _) (fun _ hn => nomatch hn)
    fun _ => .inr rfl

/-- A visit that sets the flag if it gives outcomes, and does not take it back. -/
theorem leads_visit {plan : Member σ → Plan} (flag : Bool)
    (hkept : ∀ c ∈ ({ r with dispatched := flag }.visit plan).calls, c.task.isCleanUp = false)
    (hspent : ∀ c ∈ ({ r with dispatched := flag }.visit plan).calls, c.task.isOutcome = true →
      r.dispatched = false ∧ flag = true)
    (hflag : flag = false → r.dispatched = false) :
    r.Leads ({ r with dispatched := flag }.visit plan) := by
  have hnumbers : ({ r with dispatched := flag }.visit plan).registry.numbers = r.numbers :=
    Visit.numbers_run plan r.members
  exact {
    called := Visit.numbers_calls_run plan r.members
    numbered := fun h => by
      rw [hnumbers]
      exact h
    counted := Nat.le_refl _
    entered := fun n hn => .inl (hnumbers ▸ hn)
    emptied := fun c hc hcleanUp => absurd ((hkept c hc).symm.trans hcleanUp) Bool.false_ne_true
    spent := hspent
    restored := fun h => .inl (hflag h) }

theorem leads_configure (document : Toml.Table) : r.Leads (r.configure document) := by
  refine leads_visit r.dispatched (fun c hc => ?_) (fun c hc houtcome => ?_) id
  · obtain ⟨table, htask⟩ := r.task_configure document c hc
    rw [htask]
    rfl
  · obtain ⟨table, htask⟩ := r.task_configure document c hc
    rw [htask] at houtcome
    contradiction

theorem leads_start : r.Leads r.start := by
  refine leads_visit r.dispatched (fun c hc => ?_) (fun c hc houtcome => ?_) id
  · rw [r.task_start c hc]
    rfl
  · rw [r.task_start c hc] at houtcome
    contradiction

theorem leads_dispatch {task : Task} (htask : task.isCleanUp = false) : r.Leads (r.dispatch task) := by
  cases hdispatched : r.dispatched with
  | true =>
    rw [dispatch, if_pos hdispatched]
    exact leads_of_calls_eq_nil rfl id (Nat.le_refl _) (fun _ => .inl) .inl
  | false =>
    have hgiven := task_dispatch hdispatched task
    rw [dispatch_eq hdispatched] at hgiven ⊢
    refine leads_visit true (fun c hc => ?_) (fun _ _ _ => ⟨hdispatched, rfl⟩) (by simp)
    rw [hgiven c hc]
    exact htask

theorem leads_cleanUp : r.Leads r.cleanUp where
  called := by
    rw [cleanUp, List.map_map]
    exact List.Sublist.refl _
  numbered _ := List.nil_sublist _
  counted := Nat.le_refl _
  entered _ hn := nomatch hn
  emptied _ _ _ := rfl
  spent := by
    intro c hc houtcome
    rw [r.task_cleanUp c hc] at houtcome
    contradiction
  restored _ := .inr rfl

namespace Leads

variable {round : Round σ}

omit [Sink σ] in
theorem mem_numbers (h : r.Leads round) {c : Call σ} (hc : c ∈ round.calls) :
    c.before.number ∈ r.numbers :=
  h.called.subset (List.mem_map_of_mem hc)

omit [Sink σ] in
/-- A number that is out of use is never used again. -/
theorem notMem_numbers (h : r.Leads round) {n : Nat} (hn : n < r.registered) (hout : n ∉ r.numbers) :
    n ∉ round.registry.numbers := by
  intro hmem
  rcases h.entered n hmem with hin | hle
  · exact hout hin
  · omega

end Leads

theorem leads_operate (r : Registry σ) (o : Operation σ) : r.Leads (r.operate o) := by
  cases o with
  | register state => exact leads_register state
  | configure document => exact leads_configure document
  | start => exact leads_start
  | deliver secret => exact leads_dispatch rfl
  | report error => exact leads_dispatch rfl
  | cleanUp => exact leads_cleanUp
  | reset => exact leads_reset

end Registry

/-! ### What stays true of every history -/

namespace ModuleHistory

variable {σ : Type} [Sink σ] {h : ModuleHistory σ}

/-- A module that was given its outcome is gone before the flag is unset again, and one that was cleaned up
is gone. -/
structure Sound (h : ModuleHistory σ) : Prop where
  numbered : h.registry.numbers.Sublist (List.range h.registry.registered)
  past : ∀ c ∈ h.calls, c.before.number < h.registry.registered
  gone : ∀ c ∈ h.calls, c.task.isCleanUp = true → c.before.number ∉ h.registry.numbers
  spent : h.registry.dispatched = false →
    ∀ c ∈ h.calls, c.task.isOutcome = true → c.before.number ∉ h.registry.numbers
  last : h.calls.Pairwise fun c c' => c.task.isCleanUp = true → c'.before.number ≠ c.before.number
  once : h.calls.Pairwise fun c c' => c.task.isOutcome = true → c'.task.isOutcome = true →
    c'.before.number ≠ c.before.number

omit [Sink σ] in
theorem empty_sound : (empty : ModuleHistory σ).Sound where
  numbered := List.nil_sublist _
  past _ hc := nomatch hc
  gone _ hc := nomatch hc
  spent _ _ hc := nomatch hc
  last := .nil
  once := .nil

namespace Sound

variable (hs : h.Sound) (o : Operation σ)
include hs

/-- The modules that an operation calls are registered, and no two of its calls reach one module. -/
theorem distinct :
    (h.registry.operate o).calls.Pairwise fun c c' => c'.before.number ≠ c.before.number := by
  have hnumbers := (h.registry.leads_operate o).called.trans hs.numbered
  exact List.pairwise_map.mp ((List.pairwise_lt_range.sublist hnumbers).imp Nat.ne_of_gt)

theorem perform : (h.perform o).Sound := by
  have hleads := h.registry.leads_operate o
  have hpast : ∀ c ∈ (h.registry.operate o).calls, c.before.number < h.registry.registered :=
    fun c hc => List.mem_range.mp (hs.numbered.subset (hleads.mem_numbers hc))
  exact {
    numbered := hleads.numbered hs.numbered
    past := by
      intro c hc
      refine Nat.lt_of_lt_of_le ?_ hleads.counted
      exact (List.mem_append.mp hc).elim (hs.past c) (hpast c)
    gone := by
      intro c hc hcleanUp
      rcases List.mem_append.mp hc with hc | hc
      · exact hleads.notMem_numbers (hs.past c hc) (hs.gone c hc hcleanUp)
      · exact hleads.emptied c hc hcleanUp ▸ List.not_mem_nil
    spent := by
      intro hunset c hc houtcome
      rcases List.mem_append.mp hc with hc | hc
      · rcases hleads.restored hunset with hbefore | hempty
        · exact hleads.notMem_numbers (hs.past c hc) (hs.spent hbefore c hc houtcome)
        · exact hempty ▸ List.not_mem_nil
      · exact absurd (hunset.symm.trans (hleads.spent c hc houtcome).2) Bool.false_ne_true
    last := by
      refine List.pairwise_append.mpr ⟨hs.last, (hs.distinct o).imp ?_, ?_⟩
      · exact fun hne _ => hne
      intro c hc c' hc' hcleanUp hsame
      exact hs.gone c hc hcleanUp (hsame ▸ hleads.mem_numbers hc')
    once := by
      refine List.pairwise_append.mpr ⟨hs.once, (hs.distinct o).imp ?_, ?_⟩
      · exact fun hne _ _ => hne
      -- another outcome needs the flag to be unset, and whoever had one is gone then
      intro c hc c' hc' houtcome houtcome' hsame
      have hunset := (hleads.spent c' hc' houtcome').1
      exact hs.spent hunset c hc houtcome (hsame ▸ hleads.mem_numbers hc') }

omit o

theorem performAll (ops : List (Operation σ)) : (h.performAll ops).Sound := by
  induction ops generalizing h with
  | nil => exact hs
  | cons o rest ih => exact ih (hs.perform o)

/-- Whatever is done later, the calls are for modules that are registered now or later. -/
theorem exists_later (ops : List (Operation σ)) :
    ∃ later, (h.performAll ops).calls = h.calls ++ later ∧
      ∀ c ∈ later, c.before.number ∈ h.registry.numbers ∨ h.registry.registered ≤ c.before.number := by
  induction ops generalizing h with
  | nil => exact ⟨[], (List.append_nil _).symm, nofun⟩
  | cons o rest ih =>
    have hleads := h.registry.leads_operate o
    obtain ⟨later, hcalls, hlater⟩ := ih (hs.perform o)
    refine ⟨(h.registry.operate o).calls ++ later, ?_, fun c hc => ?_⟩
    · rw [← List.append_assoc]
      exact hcalls
    · rcases List.mem_append.mp hc with hc | hc
      · exact .inl (hleads.mem_numbers hc)
      · rcases hlater c hc with hin | hle
        · exact hleads.entered _ hin
        · exact .inr (hleads.counted.trans hle)

end Sound

/-! ### When an outcome is given -/

theorem dispatched_operate (r : Registry σ) (o : Operation σ) :
    (r.operate o).registry.dispatched = (!o.isReset && (r.dispatched || o.outcome?.isSome)) := by
  have hdispatch (task : Task) : (r.dispatch task).registry.dispatched = true := by
    unfold Registry.dispatch
    split
    · assumption
    · rfl
  cases o with
  | deliver secret => exact (hdispatch _).trans (Bool.or_true _).symm
  | report error => exact (hdispatch _).trans (Bool.or_true _).symm
  | reset => rfl
  | _ => exact (Bool.or_false _).symm

/-- The flag of a registry says whether its outcome is spent. -/
theorem dispatched_iff (ops : List (Operation σ)) :
    ((empty.performAll ops).registry.dispatched = true) ↔ Operation.Spent ops := by
  induction ops using List.reverseRecOn with
  | nil =>
    refine iff_of_false nofun ?_
    rintro ⟨earlier, first, later, hops, -⟩
    exact List.append_ne_nil_of_right_ne_nil earlier (List.cons_ne_nil first later) hops.symm
  | append_singleton ops o ih =>
    rw [performAll_concat, perform, dispatched_operate, Operation.spent_concat_iff, ← ih]
    simp only [Bool.and_eq_true, Bool.not_eq_true', Bool.or_eq_true]

theorem operate_of_outcome? {r : Registry σ} {o : Operation σ} {task : Task} (h : o.outcome? = some task) :
    r.operate o = r.dispatch task := by
  cases o with
  | deliver secret => exact congrArg r.dispatch (Option.some.inj h)
  | report error => exact congrArg r.dispatch (Option.some.inj h)
  | _ => contradiction

/-- Outcomes are given by nothing but their dispatch. -/
theorem outcome?_of_mem_calls {r : Registry σ} {o : Operation σ} {c : Call σ}
    (hc : c ∈ (r.operate o).calls) (houtcome : c.task.isOutcome = true) : o.outcome? = some c.task := by
  have hdispatch (task : Task) (hc : c ∈ (r.dispatch task).calls) : c.task = task := by
    cases hdispatched : r.dispatched with
    | true =>
      rw [Registry.dispatch, if_pos hdispatched] at hc
      exact absurd hc List.not_mem_nil
    | false => exact Registry.task_dispatch hdispatched task c hc
  cases o with
  | register state => exact absurd hc List.not_mem_nil
  | configure document =>
    obtain ⟨table, htask⟩ := r.task_configure document c hc
    rw [htask] at houtcome
    contradiction
  | start =>
    rw [r.task_start c hc] at houtcome
    contradiction
  | deliver secret => exact congrArg some (hdispatch _ hc).symm
  | report error => exact congrArg some (hdispatch _ hc).symm
  | cleanUp =>
    rw [r.task_cleanUp c hc] at houtcome
    contradiction
  | reset => exact absurd hc List.not_mem_nil

/-! ### Every module is cleaned up -/

/-- The module is registered, or it was cleaned up. -/
def Minds (h : ModuleHistory σ) (n : Nat) : Prop :=
  n ∈ h.registry.numbers ∨ ∃ c ∈ h.calls, c.before.number = n ∧ c.task.isCleanUp = true

/-- Nothing but a reset drops a module that was not cleaned up. -/
theorem Minds.perform {n : Nat} (hn : h.Minds n) {o : Operation σ} (hreset : o.isReset = false) :
    (h.perform o).Minds n := by
  rcases hn with hn | ⟨c, hc, hcleaned⟩
  · have hkept {r : Registry σ} (hr : r.members.map Member.number = h.registry.numbers) :
        n ∈ r.numbers := by
      rw [Registry.numbers, hr]
      exact hn
    cases o with
    | register state =>
      refine .inl ?_
      rw [ModuleHistory.perform, Registry.operate, Registry.numbers_register]
      exact List.mem_append_left _ hn
    | configure document => exact .inl (hkept (h.registry.numbers_visit _))
    | start => exact .inl (hkept h.registry.numbers_start)
    | deliver secret => exact .inl (hkept (Registry.numbers_dispatch _))
    | report error => exact .inl (hkept (Registry.numbers_dispatch _))
    | cleanUp =>
      obtain ⟨m, hm, rfl⟩ := List.mem_map.mp hn
      exact .inr ⟨m.call .cleanUp, List.mem_append_right _ (List.mem_map_of_mem hm), rfl, rfl⟩
    | reset => contradiction
  · exact .inr ⟨c, List.mem_append_left _ hc, hcleaned⟩

theorem Minds.performAll {n : Nat} (hn : h.Minds n) {ops : List (Operation σ)}
    (hreset : ∀ o ∈ ops, o.isReset = false) : (h.performAll ops).Minds n := by
  induction ops generalizing h with
  | nil => exact hn
  | cons o rest ih =>
    exact ih (hn.perform (hreset o List.mem_cons_self)) fun o' ho' =>
      hreset o' (List.mem_cons_of_mem o ho')

/-! ### Whole runs -/

section Run

open Activity Handover

theorem performAll_close {ops : List (Operation σ)} {o : Outcome σ} {earlier : List (Activity σ)}
    (hops : h.performAll ops = ⟨o.registry, h.calls ++ callsOf (earlier ++ o.activity)⟩) :
    h.performAll (ops ++ [.cleanUp]) =
      ⟨((close o).after earlier).registry, h.calls ++ callsOf ((close o).after earlier).activity⟩ := by
  have hcalls : callsOf ((close o).after earlier).activity =
      callsOf (earlier ++ o.activity) ++ o.registry.cleanUp.calls := by
    rw [Report.after, callsOf_append, callsOf_append, callsOf_close, List.append_assoc]
  have hregistry : ((close o).after earlier).registry = o.registry.cleanUp.registry := registry_close o
  rw [performAll_concat, hops, hcalls, hregistry, ← List.append_assoc]
  rfl

/-- The operations of a whole run make all of its calls. -/
theorem performAll_ofRun (a : Applicant) (handle : String) (w : World) :
    let report := Handover.run a handle h.registry w
    h.performAll (Operation.ofRun h.registry (a.run.on (.fresh handle w)).1) =
      ⟨report.registry, h.calls ++ callsOf report.activity⟩ := by
  intro report
  have hcourse : Course a handle h.registry w report := course_run a handle h.registry w
  generalize report = found at hcourse
  unfold Operation.ofRun
  cases hcourse with
  | unstarted hstart =>
    rw [hstart]
    change h.performAll ([.start] ++ [.cleanUp]) = _
    refine performAll_close ?_
    rw [List.append_nil, callsOf_ofRound]
    rfl
  | @reported e s hstart hasked =>
    rw [hstart, hasked]
    change h.performAll ([.start, .report e] ++ [.cleanUp]) = _
    refine performAll_close ?_
    obtain ⟨last, hactivity, hcalls, -⟩ := exists_activity_giveUp e h.registry.start.registry
      ⟨s.ticket, { s.world with trace := [] }⟩
    rw [hactivity, callsOf_append, callsOf_append, callsOf_append, callsOf_ofRound, callsOf_happened,
      callsOf_ofRound, hcalls, List.append_nil, List.append_nil, ← List.append_assoc]
    rfl
  | @delivered secret s hstart hasked =>
    rw [hstart, hasked]
    change h.performAll ([.start, .deliver secret] ++ [.cleanUp]) = _
    refine performAll_close ?_
    rw [callsOf_append, callsOf_append, callsOf_ofRound, callsOf_happened, List.append_nil,
      ← List.append_assoc]
    exact congrArg (ModuleHistory.mk _) (congrArg _ (callsOf_ofRound _).symm)
  | hung hstart hasked =>
    rw [hstart, hasked, callsOf_append, callsOf_ofRound, callsOf_happened, List.append_nil]
    rfl

end Run

/-! ### Once in a life -/

theorem countP_le_one {α : Type} {p : α → Bool} {l : List α}
    (h : l.Pairwise fun a b => p a = true → p b = false) : l.countP p ≤ 1 := by
  induction h with
  | nil => exact Nat.zero_le 1
  | @cons a rest hfirst _ ih =>
    by_cases ha : p a = true
    · have hrest : rest.countP p = 0 := List.countP_eq_zero.mpr fun b hb => by
        rw [hfirst b hb ha]
        exact Bool.false_ne_true
      rw [List.countP_cons_of_pos ha, hrest]
    · rw [List.countP_cons_of_neg ha]
      exact ih

/-- How often the module was called with a task of that kind. -/
def count (h : ModuleHistory σ) (kind : Task → Bool) (n : Nat) : Nat :=
  h.calls.countP fun c => c.before.number = n && kind c.task

namespace Sound

variable (hs : h.Sound) (n : Nat)
include hs

omit [Sink σ] in
theorem count_isOutcome_le : h.count Task.isOutcome n ≤ 1 := by
  refine countP_le_one (hs.once.imp ?_)
  intro c c' honce hc
  rw [Bool.and_eq_true, decide_eq_true_eq] at hc
  rw [Bool.and_eq_false_iff, decide_eq_false_iff_not, ← Bool.not_eq_true, ← not_and_or]
  rintro ⟨hn, houtcome⟩
  exact honce hc.2 houtcome (hn.trans hc.1.symm)

omit [Sink σ] in
theorem count_isCleanUp_le : h.count Task.isCleanUp n ≤ 1 := by
  refine countP_le_one (hs.last.imp ?_)
  intro c c' hlast hc
  rw [Bool.and_eq_true, decide_eq_true_eq] at hc
  rw [Bool.and_eq_false_iff, decide_eq_false_iff_not]
  exact .inl fun hn => hlast hc.2 (hn.trans hc.1.symm)

end Sound

/-- A module that is registered is cleaned up once by then, unless there is a reset in between. -/
theorem count_isCleanUp_eq (front mid back : List (Operation σ)) (state : σ)
    (hreset : ∀ o ∈ mid, o.isReset = false) :
    ((empty.performAll (front ++ .register state :: (mid ++ .cleanUp :: back))).count Task.isCleanUp
      (empty.performAll front).registry.registered) = 1 := by
  set before : ModuleHistory σ := empty.performAll front with hbefore
  let cleaned := ((before.perform (.register state)).performAll mid).perform .cleanUp
  have hends : empty.performAll (front ++ .register state :: (mid ++ .cleanUp :: back)) =
      cleaned.performAll back := by
    rw [performAll_append, ← hbefore]
    exact (performAll_append (before.perform (.register state)) mid _)
  have hcleaned : cleaned.Sound := (((empty_sound.performAll front).perform _).performAll mid).perform _
  have hregistered : (before.perform (.register state)).Minds before.registry.registered := by
    refine .inl ?_
    rw [ModuleHistory.perform, Registry.operate, Registry.numbers_register]
    exact List.mem_append_right _ List.mem_cons_self
  obtain ⟨c, hc, hnumber, hcleanUp⟩ :=
    ((hregistered.performAll hreset).perform (o := .cleanUp) rfl).resolve_left List.not_mem_nil
  obtain ⟨later, hcalls, -⟩ := hcleaned.exists_later back
  refine Nat.le_antisymm ?_ (List.countP_pos_iff.mpr ⟨c, ?_, ?_⟩)
  · exact (hends ▸ hcleaned.performAll back).count_isCleanUp_le _
  · rw [hends, hcalls]
    exact List.mem_append_left _ hc
  · rw [hnumber, hcleanUp, Bool.and_true, decide_eq_true_eq]

/-- In every history of a registry an outcome is given only by the first dispatch after a reset: by that
one to the enabled modules up to the first that fails, and every later dispatch is refused and changes
nothing. Every module is given at most one outcome and cleaned up at most once, exactly once if there is a
clean-up after its registration and no reset in between; after its clean-up, and after a reset, it is never
called again. A whole run is nothing but such operations: the start, at most one outcome, and the clean-up. -/
theorem outcome_once_and_cleanUp_once (σ : Type) [Sink σ] :
    (∀ (ops : List (Operation σ)) (o : Operation σ) (task : Task), o.outcome? = some task →
      let r := (empty.performAll ops).registry
      (Operation.Spent ops → r.operate o = ⟨r, [], [.alreadyDispatched]⟩) ∧
        (¬Operation.Spent ops → (r.operate o).calls =
          (throughFirst (·.failsAt task) (r.members.filter Member.isEnabled)).map (·.call task))) ∧
    (∀ (ops : List (Operation σ)) (o : Operation σ),
      ∀ c ∈ ((empty.performAll ops).registry.operate o).calls,
      c.task.isOutcome = true → o.outcome? = some c.task) ∧
    (∀ (ops : List (Operation σ)) (n : Nat), (empty.performAll ops).count Task.isOutcome n ≤ 1 ∧
      (empty.performAll ops).count Task.isCleanUp n ≤ 1) ∧
    (∀ (front mid back : List (Operation σ)) (state : σ), (∀ o ∈ mid, o.isReset = false) →
      (empty.performAll (front ++ .register state :: (mid ++ .cleanUp :: back))).count Task.isCleanUp
        (empty.performAll front).registry.registered = 1) ∧
    (∀ ops : List (Operation σ), (empty.performAll ops).calls.Pairwise fun c c' =>
      c.task.isCleanUp = true → c'.before.number ≠ c.before.number) ∧
    (∀ front back : List (Operation σ), ∃ later,
      (empty.performAll (front ++ .reset :: back)).calls = (empty.performAll front).calls ++ later ∧
        ∀ c ∈ later, (empty.performAll front).registry.registered ≤ c.before.number) ∧
    ∀ (a : Applicant) (handle : String) (w : World) (h : ModuleHistory σ),
      h.performAll (Operation.ofRun h.registry (a.run.on (.fresh handle w)).1) =
        ⟨(Handover.run a handle h.registry w).registry,
          h.calls ++ Activity.callsOf (Handover.run a handle h.registry w).activity⟩ := by
  have hsound (ops : List (Operation σ)) := (empty_sound (σ := σ)).performAll ops
  refine ⟨fun ops o task htask => ⟨fun hspent => ?_, fun hunspent => ?_⟩,
    fun _ _ _ => outcome?_of_mem_calls,
    fun ops n => ⟨(hsound ops).count_isOutcome_le n, (hsound ops).count_isCleanUp_le n⟩,
    fun front mid back state => count_isCleanUp_eq front mid back state, fun ops => (hsound ops).last,
    fun front back => ?_,
    fun a handle w _ => performAll_ofRun a handle w⟩
  · rw [operate_of_outcome? htask, Registry.dispatch, if_pos ((dispatched_iff ops).mpr hspent)]
  · have hfresh := Bool.eq_false_iff.mpr fun h => hunspent ((dispatched_iff ops).mp h)
    rw [operate_of_outcome? htask]
    exact Registry.calls_dispatch hfresh task
  · obtain ⟨later, hcalls, hlater⟩ := ((hsound front).perform .reset).exists_later back
    refine ⟨later, ?_, fun c hc => (hlater c hc).resolve_left List.not_mem_nil⟩
    rw [performAll_append]
    refine hcalls.trans ?_
    rw [ModuleHistory.perform, Registry.operate, List.append_nil]

end ModuleHistory

end KeyApproval
