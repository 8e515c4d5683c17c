import KeyApproval.Program
import KeyApproval.Proofs.Rounds
import KeyApproval.Proofs.SocketDecision

/-!
# Routing of a configuration

A document is handed out to the modules of a registry in their order: each gets the table that stands under its
name, and a module that the document does not mention is passed over. The first module that is refused its entry,
or refuses it, ends this, and those after it are left as they are. So nothing else in the document matters. For
the program's own registry this says which documents are faulty, and which modules are enabled by the others.
-/

namespace KeyApproval

/-- Something else than a table stands under the name. -/
def Toml.Table.HasNoTable (document : Toml.Table) (name : String) : Prop :=
  ∃ v, document.get? name = some v ∧ ∀ table, v ≠ .table table

/-- The table under the name has something else than a boolean under the key. -/
def Toml.Table.MisusesIn (document : Toml.Table) (name key : String) : Prop :=
  ∃ table : Toml.Table, document.get? name = some (.table table) ∧ table.Misuses key

/-- The boolean under the key in the table under the name. -/
def Toml.Table.flagIn? (document : Toml.Table) (name key : String) : Option Bool :=
  match document.get? name with
  | some (.table table) => Toml.Table.flag? table key
  | _ => none

section Registry

variable {σ : Type} [Sink σ]

/-! ### One module -/

namespace Member

/-- The call that gives a module the table that stands under its name, if there is one. -/
def configuring? (document : Toml.Table) (m : Member σ) : Option (Call σ) :=
  match document.get? m.name with
  | some (.table table) => some (m.call (.configure table))
  | _ => none

def configured (document : Toml.Table) (m : Member σ) : Member σ :=
  ((m.configuring? document).map Call.after).getD m

inductive Accepts (document : Toml.Table) (m : Member σ) : Prop where
  | unmentioned (h : document.get? m.name = none)
  | taken {table : Toml.Table} (h : document.get? m.name = some (.table table))
      (hok : (m.call (.configure table)).result = .ok ())

/-- Why the round ends at a module. One that refuses its table is named as it is called after that. -/
inductive Refuses (document : Toml.Table) (m : Member σ) : DeliveryError → Prop where
  | noTable (h : document.HasNoTable m.name) : Refuses document m (.invalidConfig m.name "expected a table")
  | refused {table : Toml.Table} {f : Failure} (h : document.get? m.name = some (.table table))
      (hf : (m.call (.configure table)).result = .error f) :
      Refuses document m (.invalidConfig (m.configured document).name f.text)

variable {document : Toml.Table} {m : Member σ}

theorem accepts_or_refuses (document : Toml.Table) (m : Member σ) :
    m.Accepts document ∨ ∃ e, m.Refuses document e := by
  cases hentry : document.get? m.name with
  | none => exact .inl (.unmentioned hentry)
  | some v =>
    by_cases htable : ∃ table, v = .table table
    · obtain ⟨table, rfl⟩ := htable
      cases hresult : (m.call (.configure table)).result with
      | ok _ => exact .inl (.taken hentry hresult)
      | error f => exact .inr ⟨_, .refused hentry hresult⟩
    · exact .inr ⟨_, .noTable ⟨v, hentry, fun table h => htable ⟨table, h⟩⟩⟩

theorem Refuses.not_accepts {e : DeliveryError} (h : m.Refuses document e) : ¬ m.Accepts document := by
  intro haccepts
  cases h with
  | noTable h =>
    obtain ⟨v, hv, hne⟩ := h
    cases haccepts with
    | unmentioned hnone => exact absurd (hnone.symm.trans hv) (by simp)
    | taken htable _ => exact hne _ (Option.some.inj (hv.symm.trans htable))
  | refused htable hf =>
    cases haccepts with
    | unmentioned hnone => exact absurd (hnone.symm.trans htable) (by simp)
    | taken htable' hok =>
      obtain rfl := Toml.Value.table.inj (Option.some.inj (htable.symm.trans htable'))
      exact absurd (hok.symm.trans hf) (by simp)

theorem accepts_iff :
    m.Accepts document ↔ ¬ document.HasNoTable m.name ∧
      ∀ table, document.get? m.name = some (.table table) → (m.call (.configure table)).result = .ok () := by
  constructor
  · intro haccepts
    refine ⟨fun h => (Refuses.noTable h).not_accepts haccepts, fun table htable => ?_⟩
    cases hresult : (m.call (.configure table)).result with
    | ok _ => rfl
    | error f => exact absurd haccepts (Refuses.refused htable hresult).not_accepts
  · rintro ⟨htable, hok⟩
    refine (accepts_or_refuses document m).resolve_right ?_
    rintro ⟨e, hrefuses⟩
    cases hrefuses with
    | noTable h => exact htable h
    | refused h hf => exact absurd ((hok _ h).symm.trans hf) (by simp)

theorem configured_of_table {table : Toml.Table} (h : document.get? m.name = some (.table table)) :
    m.configured document = (m.call (.configure table)).after := by
  simp [configured, configuring?, h]

theorem configured_of_not_table (h : ¬ ∃ table : Toml.Table, document.get? m.name = some (.table table)) :
    m.configured document = m := by
  unfold configured configuring?
  split
  · next table htable => exact absurd ⟨table, htable⟩ h
  · rfl

theorem flagIn?_of_not_table {name key : String}
    (h : ¬ ∃ table : Toml.Table, document.get? name = some (.table table)) : document.flagIn? name key = none := by
  unfold Toml.Table.flagIn?
  split
  · next table htable => exact absurd ⟨table, htable⟩ h
  · rfl

/-- A module whose flag follows what its tables say of it. -/
theorem isEnabled_configured {key : String} (follow : Option Bool → Bool) (hunsaid : follow none = m.isEnabled)
    (hsaid : ∀ table, (m.call (.configure table)).after.isEnabled = follow (table.flag? key)) :
    (m.configured document).isEnabled = follow (document.flagIn? m.name key) := by
  by_cases h : ∃ table : Toml.Table, document.get? m.name = some (.table table)
  · obtain ⟨table, htable⟩ := h
    have hflag : document.flagIn? m.name key = table.flag? key := by simp [Toml.Table.flagIn?, htable]
    rw [configured_of_table htable, hsaid, hflag]
  · rw [configured_of_not_table h, flagIn?_of_not_table h, hunsaid]

theorem name_configured (h : ∀ table, (m.call (.configure table)).after.name = m.name) :
    (m.configured document).name = m.name := by
  by_cases htable : ∃ table : Toml.Table, document.get? m.name = some (.table table)
  · obtain ⟨table, htable⟩ := htable
    rw [configured_of_table htable, h]
  · rw [configured_of_not_table htable]

end Member

/-! ### A round -/

def Plan.handOut (document : Toml.Table) (m : Member σ) : Plan :=
  match document.get? m.name with
  | none => .pass
  | some (.table table) => .give (.configure table)
  | some _ => .refuse (.invalidConfig m.name "expected a table")

namespace Visit

variable {document : Toml.Table} {m : Member σ}

theorem run_of_accepts (h : m.Accepts document) (rest : List (Member σ)) :
    run (.handOut document) (m :: rest) =
      ⟨m.configured document :: (run (.handOut document) rest).members,
        (m.configuring? document).toList ++ (run (.handOut document) rest).calls,
        (run (.handOut document) rest).failure⟩ := by
  cases h with
  | unmentioned h => simp [run, Plan.handOut, Member.configured, Member.configuring?, h]
  | @taken table h hok =>
    have hnone : (m.call (.configure table)).error? = none := by
      rw [Call.error?, hok]
    simp [run, Plan.handOut, Member.configured, Member.configuring?, h, hnone]

theorem run_of_refuses {e : DeliveryError} (h : m.Refuses document e) (rest : List (Member σ)) :
    run (.handOut document) (m :: rest) =
      ⟨m.configured document :: rest, (m.configuring? document).toList, some e⟩ := by
  cases h with
  | noTable h =>
    obtain ⟨v, hv, hne⟩ := h
    cases v with
    | table table => exact absurd rfl (hne table)
    | string _ | integer _ | float _ | boolean _ | datetime _ | array _ =>
      simp [run, Plan.handOut, Member.configured, Member.configuring?, hv]
  | @refused table f h hf =>
    have hsome : (m.call (.configure table)).error? =
        some (.invalidConfig (m.call (.configure table)).after.name f.text) := by
      rw [Call.error?, hf]
      rfl
    simp [run, Plan.handOut, Member.configured, Member.configuring?, h, hsome]

/-- Modules that accept what the document has for them do not end the visit. -/
theorem run_append_of_accepts {before : List (Member σ)} (h : ∀ m ∈ before, m.Accepts document)
    (rest : List (Member σ)) :
    run (.handOut document) (before ++ rest) =
      ⟨before.map (·.configured document) ++ (run (.handOut document) rest).members,
        before.filterMap (·.configuring? document) ++ (run (.handOut document) rest).calls,
        (run (.handOut document) rest).failure⟩ := by
  induction before with
  | nil => rfl
  | cons m before ih =>
    have hrest := ih fun m' hm' => h m' (List.mem_cons_of_mem m hm')
    rw [List.cons_append, run_of_accepts (h m List.mem_cons_self), hrest]
    cases hcall : m.configuring? document <;> simp [hcall]

/-- A visit looks at nothing but what is planned for its modules. -/
theorem run_congr {plan plan' : Member σ → Plan} {members : List (Member σ)}
    (h : ∀ m ∈ members, plan m = plan' m) : run plan members = run plan' members := by
  induction members with
  | nil => rfl
  | cons m rest ih =>
    have hrest := ih fun m' hm' => h m' (List.mem_cons_of_mem m hm')
    rw [run, run, h m List.mem_cons_self, hrest]

end Visit

namespace Registry

variable {r : Registry σ} {document : Toml.Table}

/-- What a round may be that hands out a document: every module accepts what is there for it, or the round ends
at the first that does not. -/
inductive Routes (document : Toml.Table) (r : Registry σ) : Round σ → Prop where
  | all (h : ∀ m ∈ r.members, m.Accepts document) :
      Routes document r ⟨{ r with members := r.members.map (·.configured document) },
        r.members.filterMap (·.configuring? document), []⟩
  | upTo {before after : List (Member σ)} {m : Member σ} {e : DeliveryError}
      (hmembers : r.members = before ++ m :: after) (hbefore : ∀ m ∈ before, m.Accepts document)
      (hm : m.Refuses document e) :
      Routes document r
        ⟨{ r with members := before.map (·.configured document) ++ m.configured document :: after },
          before.filterMap (·.configuring? document) ++ (m.configuring? document).toList, [e]⟩

theorem configure_eq (r : Registry σ) (document : Toml.Table) :
    r.configure document = r.visit (.handOut document) := rfl

theorem accept_or_first_refuses (document : Toml.Table) (members : List (Member σ)) :
    (∀ m ∈ members, m.Accepts document) ∨ ∃ before m after e, members = before ++ m :: after ∧
      (∀ m ∈ before, m.Accepts document) ∧ m.Refuses document e := by
  induction members with
  | nil => exact .inl fun m hm => absurd hm List.not_mem_nil
  | cons m rest ih =>
    cases m.accepts_or_refuses document with
    | inr hrefuses =>
      obtain ⟨e, he⟩ := hrefuses
      exact .inr ⟨[], m, rest, e, rfl, fun m' hm' => absurd hm' List.not_mem_nil, he⟩
    | inl haccepts =>
      apply ih.imp
      · exact fun hrest => List.forall_mem_cons.mpr ⟨haccepts, hrest⟩
      · rintro ⟨before, m', after, e, rfl, hbefore, he⟩
        exact ⟨m :: before, m', after, e, rfl, List.forall_mem_cons.mpr ⟨haccepts, hbefore⟩, he⟩

theorem routes_configure (r : Registry σ) (document : Toml.Table) :
    r.Routes document (r.configure document) := by
  rw [configure_eq, visit]
  cases accept_or_first_refuses document r.members with
  | inl hall =>
    have hrun := Visit.run_append_of_accepts hall []
    rw [List.append_nil] at hrun
    rw [hrun]
    simpa [Visit.run] using Routes.all hall
  | inr hfirst =>
    obtain ⟨before, m, after, e, hmembers, hbefore, hm⟩ := hfirst
    have hrun := Visit.run_append_of_accepts hbefore (m :: after)
    rw [Visit.run_of_refuses hm, ← hmembers] at hrun
    rw [hrun]
    exact .upTo hmembers hbefore hm

/-- Only the entries under the names of modules are looked at. -/
theorem configure_congr {document' : Toml.Table}
    (h : ∀ m ∈ r.members, document.get? m.name = document'.get? m.name) :
    r.configure document = r.configure document' := by
  have hplans : ∀ m ∈ r.members, Plan.handOut document m = Plan.handOut document' m := fun m hm => by
    rw [Plan.handOut, Plan.handOut, h m hm]
  rw [configure_eq, configure_eq, visit, visit, Visit.run_congr hplans]

theorem Routes.error?_eq_none_iff {round : Round σ} (h : r.Routes document round) :
    round.error? = none ↔ ∀ m ∈ r.members, m.Accepts document := by
  cases h with
  | all h => exact iff_of_true rfl h
  | @upTo before after m e hmembers _ hm =>
    refine iff_of_false (Option.some_ne_none e) fun hall => hm.not_accepts (hall m ?_)
    rw [hmembers]
    exact List.mem_append_right before List.mem_cons_self

theorem Routes.members_of_all {round : Round σ} (h : r.Routes document round)
    (hall : ∀ m ∈ r.members, m.Accepts document) :
    round.registry.members = r.members.map (·.configured document) := by
  cases h with
  | all _ => rfl
  | upTo hmembers _ hm =>
    refine absurd (hall _ ?_) hm.not_accepts
    rw [hmembers]
    exact List.mem_append_right _ List.mem_cons_self

end Registry

end Registry

namespace WriterSink

variable {table : Toml.Table} {m : WriterSink}

theorem configure_eq_ok_iff : (configure table m).1 = .ok () ↔ ¬ table.Misuses "enabled" := by
  unfold configure
  have hread := readFlag_reads "enabled" table
  generalize readFlag "enabled" table = result at hread ⊢
  cases hread with
  | read hgood => exact iff_of_true rfl hgood
  | failed hbad _ => exact iff_of_false (by simp) (not_not_intro hbad)

theorem enabled_configure : (configure table m).2.enabled = (table.flag? "enabled").getD m.enabled := by
  unfold configure
  have hread := readFlag_reads "enabled" table
  generalize readFlag "enabled" table = result at hread ⊢
  cases hread with
  | read _ => rfl
  | failed _ hflag => rw [hflag, Option.getD_none]

end WriterSink

namespace Program

/-! ### The registry of the program -/

variable {document : Toml.Table}

def writerMember (p : Surroundings) : Member Outlet := ⟨0, .inl { writer := p.output }⟩

def socketMember (a : Arguments) (p : Surroundings) : Member Outlet := ⟨1, .inr (socketModule a p)⟩

theorem members_newRegistry (a : Arguments) (p : Surroundings) :
    (newRegistry a p).members = [writerMember p, socketMember a p] := rfl

theorem writerMember_accepts_iff {p : Surroundings} : (writerMember p).Accepts document ↔
    ¬ document.HasNoTable "stdout" ∧ ¬ document.MisusesIn "stdout" "enabled" := by
  have hresult (table : Toml.Table) : ((writerMember p).call (.configure table)).result =
      (WriterSink.configure table { writer := p.output }).1 := rfl
  rw [Member.accepts_iff]
  simp only [hresult, WriterSink.configure_eq_ok_iff, Toml.Table.MisusesIn, not_exists, not_and]
  rfl

theorem isSome_commandLine_socketModule (a : Arguments) (p : Surroundings) :
    (socketModule a p).commandLine.isSome = a.sdSocket := by
  cases h : a.sdSocket <;> simp [socketModule, h, SocketSink.fix]

theorem socketMember_accepts_iff {a : Arguments} {p : Surroundings} :
    (socketMember a p).Accepts document ↔ ¬ document.HasNoTable "sd_socket" ∧
      ¬ (a.sdSocket = false ∧ document.MisusesIn "sd_socket" "use_socket") := by
  have hresult (table : Toml.Table) : ((socketMember a p).call (.configure table)).result =
      (SocketSink.configure table (socketModule a p)).1 := rfl
  rw [Member.accepts_iff]
  simp only [hresult, SocketSink.configure_eq_ok_iff, isSome_commandLine_socketModule]
  apply and_congr Iff.rfl
  cases a.sdSocket with
  | true => simp
  | false => simp [Toml.Table.MisusesIn]; rfl

/-- The documents for which the program has no registry. -/
def IsFaulty (a : Arguments) (document : Toml.Table) : Prop :=
  document.HasNoTable "stdout" ∨ document.HasNoTable "sd_socket" ∨ document.MisusesIn "stdout" "enabled" ∨
    a.sdSocket = false ∧ document.MisusesIn "sd_socket" "use_socket"

theorem accept_iff_not_isFaulty (a : Arguments) (p : Surroundings) :
    (∀ m ∈ (newRegistry a p).members, m.Accepts document) ↔ ¬ IsFaulty a document := by
  rw [members_newRegistry, List.forall_mem_cons, List.forall_mem_singleton, writerMember_accepts_iff,
    socketMember_accepts_iff, IsFaulty]
  tauto

variable {a : Arguments} {d : Config.Document} (p : Surroundings)

theorem registryFor_of_isFaulty (h : IsFaulty a d.tables) : ∃ e, registryFor a d p = .error e := by
  have herror : ((newRegistry a p).configure d.tables).error? ≠ none := by
    rw [Ne, (Registry.routes_configure _ _).error?_eq_none_iff, accept_iff_not_isFaulty]
    exact not_not_intro h
  obtain ⟨e, he⟩ := Option.ne_none_iff_exists'.mp herror
  refine ⟨e, ?_⟩
  rw [registryFor, he]

theorem registryFor_of_not_isFaulty (h : ¬ IsFaulty a d.tables) :
    registryFor a d p = .ok ((newRegistry a p).configure d.tables).registry := by
  have herror : ((newRegistry a p).configure d.tables).error? = none := by
    rw [(Registry.routes_configure _ _).error?_eq_none_iff, accept_iff_not_isFaulty]
    exact h
  rw [registryFor, herror]

variable {p}

theorem isEnabled_writerMember :
    ((writerMember p).configured document).isEnabled = (document.flagIn? "stdout" "enabled").getD true :=
  Member.isEnabled_configured (fun said => said.getD true) rfl fun _ => WriterSink.enabled_configure

theorem isEnabled_socketMember :
    ((socketMember a p).configured document).isEnabled =
      (a.sdSocket || (document.flagIn? "sd_socket" "use_socket").getD false) := by
  have hfollow : ((socketMember a p).configured document).isEnabled =
      (socketModule a p).flagAfter (document.flagIn? "sd_socket" "use_socket") := by
    apply Member.isEnabled_configured (socketModule a p).flagAfter
    · exact ite_self _
    · intro table
      exact congrArg SocketSink.enabled (SocketSink.configure_snd (socketModule a p) table)
  rw [hfollow, SocketSink.flagAfter, isSome_commandLine_socketModule]
  cases h : a.sdSocket <;> simp [socketModule, h, SocketSink.fix]

theorem enabledNames_configured (h : ¬ IsFaulty a document) :
    ((newRegistry a p).configure document).registry.enabledNames =
      (if (document.flagIn? "stdout" "enabled").getD true then ["stdout"] else []) ++
        if a.sdSocket || (document.flagIn? "sd_socket" "use_socket").getD false then ["sd_socket"] else [] := by
  have hmembers := (Registry.routes_configure (newRegistry a p) document).members_of_all
    ((accept_iff_not_isFaulty a p).mpr h)
  have hwriter : ((writerMember p).configured document).name = "stdout" := Member.name_configured fun _ => rfl
  have hsocket : ((socketMember a p).configured document).name = "sd_socket" :=
    Member.name_configured fun _ => rfl
  rw [Registry.enabledNames, hmembers, members_newRegistry, List.map_cons, List.map_singleton, List.filter_cons,
    List.filter_singleton, isEnabled_writerMember, isEnabled_socketMember]
  cases (document.flagIn? "stdout" "enabled").getD true <;>
    cases a.sdSocket || (document.flagIn? "sd_socket" "use_socket").getD false <;> simp [hwriter, hsocket]

end Program

/-- A document is handed out in the order of the modules, up to the first that is refused, and only what stands
under their names is looked at. So the registry of the program depends on two tables, which say whether there is
one at all, and which of its modules are enabled. -/
theorem configuration_is_routed {σ : Type} [Sink σ] (r : Registry σ) (document : Toml.Table) (a : Arguments)
    (d : Config.Document) (p : Program.Surroundings) :
    r.Routes document (r.configure document) ∧
    (∀ document' : Toml.Table, (∀ m ∈ r.members, document.get? m.name = document'.get? m.name) →
      r.configure document = r.configure document') ∧
    ((∃ e, Program.registryFor a d p = .error e) ↔ Program.IsFaulty a d.tables) ∧
    (∀ registry, Program.registryFor a d p = .ok registry → registry.enabledNames =
      (if (d.tables.flagIn? "stdout" "enabled").getD true then ["stdout"] else []) ++
        if a.sdSocket || (d.tables.flagIn? "sd_socket" "use_socket").getD false then ["sd_socket"] else []) ∧
    ∀ d' : Config.Document, d.tables.get? "stdout" = d'.tables.get? "stdout" →
      d.tables.get? "sd_socket" = d'.tables.get? "sd_socket" →
      Program.registryFor a d p = Program.registryFor a d' p := by
  refine ⟨r.routes_configure document, fun document' => Registry.configure_congr, ?_, fun registry hok => ?_,
    fun d' hstdout hsocket => ?_⟩
  · constructor
    · rintro ⟨e, herror⟩
      by_contra hgood
      rw [Program.registryFor_of_not_isFaulty p hgood] at herror
      contradiction
    · exact Program.registryFor_of_isFaulty p
  · have hgood : ¬ Program.IsFaulty a d.tables := fun hfaulty => by
      obtain ⟨e, herror⟩ := Program.registryFor_of_isFaulty p hfaulty
      exact absurd (herror.symm.trans hok) (by simp)
    rw [Program.registryFor_of_not_isFaulty p hgood, Except.ok.injEq] at hok
    rw [← hok, Program.enabledNames_configured hgood]
  · have hsame : ∀ m ∈ (Program.newRegistry a p).members,
        d.tables.get? m.name = d'.tables.get? m.name := by
      rw [Program.members_newRegistry]
      exact List.forall_mem_cons.mpr ⟨hstdout, List.forall_mem_singleton.mpr hsocket⟩
    rw [Program.registryFor, Program.registryFor, Registry.configure_congr hsame]

end KeyApproval
