import KeyApproval.Config.Settings
import Mathlib.Logic.Basic

/-!
# Which setting counts

Settings come from three places. Each one is looked up by itself: on the command line, then in the document, then
among the defaults. The settings of a run are made of the eight values that are found, and of nothing else, so
two ways to give the same values come to the same end.
-/

namespace KeyApproval.Config

/-! ### Settings by name -/

inductive Setting where
  | host
  | port
  | user
  | secret
  | skipValidation
  | pollInterval
  | maxPolls
  | timeout
  deriving DecidableEq

namespace Setting

abbrev Value : Setting → Type
  | host | user | secret => String
  | port => UInt16
  | skipValidation => Bool
  | pollInterval | timeout => UInt64
  | maxPolls => UInt32

/-- What holds when nobody says anything. -/
def default? : (s : Setting) → Option s.Value
  | host | user | secret => none
  | port => some 443
  | skipValidation => some false
  | pollInterval => some 1
  | maxPolls | timeout => none

end Setting

end Config

open Config

namespace Arguments

/-- The value that is set on the command line. A switch can only be thrown. -/
def given? (a : Arguments) : (s : Setting) → Option s.Value
  | .host => a.host
  | .port => a.port
  | .user => a.user
  | .secret => a.secret
  | .skipValidation => if a.skipValidation then some true else none
  | .pollInterval => a.pollInterval
  | .maxPolls => a.maxPolls
  | .timeout => a.timeout

/-- The same command line without a setting. -/
def unset (a : Arguments) : Setting → Arguments
  | .host => { a with host := none }
  | .port => { a with port := none }
  | .user => { a with user := none }
  | .secret => { a with secret := none }
  | .skipValidation => { a with skipValidation := false }
  | .pollInterval => { a with pollInterval := none }
  | .maxPolls => { a with maxPolls := none }
  | .timeout => { a with timeout := none }

theorem given?_unset (a : Arguments) (s : Setting) : (a.unset s).given? s = none := by
  cases s <;> rfl

theorem given?_unset_of_ne (a : Arguments) {s t : Setting} (h : t ≠ s) : (a.unset s).given? t = a.given? t := by
  cases s <;> cases t <;> first | rfl | exact absurd rfl h

end Arguments

namespace Config

namespace Document

def given? (d : Document) : (s : Setting) → Option s.Value
  | .host => d.client.host
  | .port => d.client.port
  | .user => d.client.user
  | .secret => d.client.secret
  | .skipValidation => d.client.skipValidation
  | .pollInterval => d.polling.intervalSecs
  | .maxPolls => d.polling.maxAttempts
  | .timeout => d.client.timeout

/-- The same document with another value of a setting, or without one. -/
def write (d : Document) : (s : Setting) → Option s.Value → Document
  | .host, v => { d with client := { d.client with host := v } }
  | .port, v => { d with client := { d.client with port := v } }
  | .user, v => { d with client := { d.client with user := v } }
  | .secret, v => { d with client := { d.client with secret := v } }
  | .skipValidation, v => { d with client := { d.client with skipValidation := v } }
  | .pollInterval, v => { d with polling := { d.polling with intervalSecs := v } }
  | .maxPolls, v => { d with polling := { d.polling with maxAttempts := v } }
  | .timeout, v => { d with client := { d.client with timeout := v } }

theorem given?_write (d : Document) (s : Setting) (v : Option s.Value) : (d.write s v).given? s = v := by
  cases s <;> rfl

theorem given?_write_of_ne (d : Document) {s t : Setting} (v : Option s.Value) (h : t ≠ s) :
    (d.write s v).given? t = d.given? t := by
  cases s <;> cases t <;> first | rfl | exact absurd rfl h

end Document

/-! ### The values that count -/

/-- The value from the first place that has one. -/
def effective? (a : Arguments) (d : Document) (s : Setting) : Option s.Value :=
  a.given? s <|> d.given? s <|> s.default?

variable {a a' : Arguments} {d d' : Document} {s t : Setting}

theorem effective?_of_given {v : s.Value} (h : a.given? s = some v) : effective? a d s = some v := by
  rw [effective?, h]
  rfl

theorem effective?_of_unset {v : s.Value} (ha : a.given? s = none) (hd : d.given? s = some v) :
    effective? a d s = some v := by
  rw [effective?, ha, hd]
  rfl

theorem effective?_of_default (ha : a.given? s = none) (hd : d.given? s = none) :
    effective? a d s = s.default? := by
  rw [effective?, ha, hd]
  rfl

/-- Without a default, a value counts only if somebody gave it. -/
theorem effective?_eq_none_iff (h : s.default? = none) :
    effective? a d s = none ↔ a.given? s = none ∧ d.given? s = none := by
  cases ha : a.given? s with
  | some v =>
    rw [effective?_of_given ha]
    exact iff_of_false (Option.some_ne_none v) fun hnone => Option.some_ne_none v hnone.1
  | none =>
    cases hd : d.given? s with
    | some v =>
      rw [effective?_of_unset ha hd]
      exact iff_of_false (Option.some_ne_none v) fun hnone => Option.some_ne_none v hnone.2
    | none =>
      rw [effective?_of_default ha hd]
      exact iff_of_true h ⟨rfl, rfl⟩

/-- The document does not matter where the command line speaks. -/
theorem effective?_congr (h : a.given? s = none → d.given? s = d'.given? s) :
    effective? a d s = effective? a d' s := by
  cases hgiven : a.given? s with
  | some v => rw [effective?_of_given hgiven, effective?_of_given hgiven]
  | none => rw [effective?, effective?, h hgiven]

/-- A check is skipped if either side says so. -/
theorem effective?_skipValidation (a : Arguments) (d : Document) :
    effective? a d .skipValidation = some (a.skipValidation || d.client.skipValidation.getD false) := by
  unfold effective? Arguments.given? Document.given?
  cases a.skipValidation <;> cases d.client.skipValidation <;> rfl

/-! ### What is wrong with them -/

namespace SettingsError

/-- The mistakes in the order in which they are looked for. -/
def inOrder : List SettingsError := [noHostname, invalidPort, noSecret, noUsername]

def Applies (a : Arguments) (d : Document) : SettingsError → Prop
  | noHostname => effective? a d .host = none
  | invalidPort => effective? a d .port = some 0
  | noSecret => effective? a d .secret = none
  | noUsername => effective? a d .user = none

instance (a : Arguments) (d : Document) : DecidablePred (Applies a d)
  | noHostname => inferInstanceAs (Decidable (effective? a d .host = none))
  | invalidPort => inferInstanceAs (Decidable (effective? a d .port = some 0))
  | noSecret => inferInstanceAs (Decidable (effective? a d .secret = none))
  | noUsername => inferInstanceAs (Decidable (effective? a d .user = none))

/-- The first mistake that was made, if there is one. -/
def first? (a : Arguments) (d : Document) : Option SettingsError := inOrder.find? (Applies a d ·)

theorem first?_eq_some_iff {e : SettingsError} : first? a d = some e ↔
    ∃ before after, inOrder = before ++ e :: after ∧ e.Applies a d ∧ ∀ f ∈ before, ¬f.Applies a d := by
  simp only [first?, List.find?_eq_some_iff_append, decide_eq_true_eq, Bool.not_eq_true', decide_eq_false_iff_not]
  constructor
  · rintro ⟨happlies, before, after, horder, hbefore⟩
    exact ⟨before, after, horder, happlies, hbefore⟩
  · rintro ⟨before, after, horder, happlies, hbefore⟩
    exact ⟨happlies, before, after, horder, hbefore⟩

theorem first?_eq_none_iff : first? a d = none ↔ ∀ e : SettingsError, ¬e.Applies a d := by
  simp only [first?, List.find?_eq_none, decide_eq_true_eq]
  refine ⟨fun h e => h e ?_, fun h e _ => h e⟩
  cases e <;> decide

end SettingsError

/-! ### Settings that are made of them -/

/-- The settings show this value, or that there is none. -/
def Settings.Shows (x : Settings) : (s : Setting) → Option s.Value → Prop
  | .host, v => v = some x.endpoint.host
  | .port, v => v = some x.endpoint.port
  | .user, v => v = some x.credentials.username
  | .secret, v => v = some x.credentials.secret
  | .skipValidation, v => v = some (!x.endpoint.verifyTls)
  | .pollInterval, v => v.map (fun seconds => seconds.toNat * 1000) = some x.polling.intervalMs
  | .maxPolls, v => v = x.polling.maxAttempts
  | .timeout, v => v = x.timeoutSecs

theorem Settings.eq_of_shows {x y : Settings} {v : (s : Setting) → Option s.Value} (hx : ∀ s, x.Shows s (v s))
    (hy : ∀ s, y.Shows s (v s)) : x = y := by
  have hhost : x.endpoint.host = y.endpoint.host := Option.some.inj ((hx .host).symm.trans (hy .host))
  have hport : x.endpoint.port = y.endpoint.port := Option.some.inj ((hx .port).symm.trans (hy .port))
  have htls : x.endpoint.verifyTls = y.endpoint.verifyTls :=
    Bool.not_inj (Option.some.inj ((hx .skipValidation).symm.trans (hy .skipValidation)))
  have huser : x.credentials.username = y.credentials.username := Option.some.inj ((hx .user).symm.trans (hy .user))
  have hsecret : x.credentials.secret = y.credentials.secret :=
    Option.some.inj ((hx .secret).symm.trans (hy .secret))
  have hinterval : x.polling.intervalMs = y.polling.intervalMs :=
    Option.some.inj ((hx .pollInterval).symm.trans (hy .pollInterval))
  have hlimit : x.polling.maxAttempts = y.polling.maxAttempts := (hx .maxPolls).symm.trans (hy .maxPolls)
  have htimeout : x.timeoutSecs = y.timeoutSecs := (hx .timeout).symm.trans (hy .timeout)
  obtain ⟨⟨_, _, _⟩, ⟨_, _⟩, ⟨_, _⟩, _⟩ := x
  obtain ⟨⟨_, _, _⟩, ⟨_, _⟩, ⟨_, _⟩, _⟩ := y
  subst hhost hport htls huser hsecret hinterval hlimit htimeout
  rfl

/-! ### Putting them together -/

theorem exists_effective?_port (a : Arguments) (d : Document) : ∃ port, effective? a d .port = some port := by
  unfold effective? Arguments.given? Document.given?
  cases a.port <;> cases d.client.port <;> exact ⟨_, rfl⟩

theorem first?_eq (a : Arguments) (d : Document) : SettingsError.first? a d =
    if effective? a d .host = none then some .noHostname
    else if effective? a d .port = some 0 then some .invalidPort
    else if effective? a d .secret = none then some .noSecret
    else if effective? a d .user = none then some .noUsername
    else none := by
  simp only [SettingsError.first?, SettingsError.inOrder, List.find?_cons, SettingsError.Applies, List.find?_nil]
  repeat' split
  all_goals simp_all

/-- The settings in terms of the values that count. -/
theorem resolve_eq (a : Arguments) (d : Document) {port : UInt16} (hport : effective? a d .port = some port) :
    Settings.resolve a d = do
      let host ← require (effective? a d .host) .noHostname
      if port = 0 then throw .invalidPort
      let secret ← require (effective? a d .secret) .noSecret
      let username ← require (effective? a d .user) .noUsername
      return {
        endpoint := ⟨host, port, !(a.skipValidation || d.client.skipValidation.getD false)⟩
        credentials := ⟨username, secret⟩
        polling := pollingOf (a.pollInterval <|> d.polling.intervalSecs) (a.maxPolls <|> d.polling.maxAttempts)
        timeoutSecs := a.timeout <|> d.client.timeout } := by
  have hgiven {s : Setting} (h : s.default? = none) : effective? a d s = (a.given? s <|> d.given? s) := by
    rw [effective?, h]
    cases a.given? s <;> cases d.given? s <;> rfl
  have hresolved : (a.port <|> d.client.port).getD defaultPort = port := by
    have hfound : (a.port <|> d.client.port <|> some 443) = some port := hport
    revert hfound
    cases a.port <;> cases d.client.port <;> exact Option.some.inj
  rw [hgiven rfl, hgiven rfl, hgiven rfl, Settings.resolve, hresolved]
  rfl

/-- Settings that were made of the values that count show them. -/
theorem shows_of_effective? {host secret username : String} {port : UInt16}
    (hhost : effective? a d .host = some host) (hport : effective? a d .port = some port)
    (hsecret : effective? a d .secret = some secret) (huser : effective? a d .user = some username) (s : Setting) :
    Settings.Shows {
      endpoint := ⟨host, port, !(a.skipValidation || d.client.skipValidation.getD false)⟩
      credentials := ⟨username, secret⟩
      polling := pollingOf (a.pollInterval <|> d.polling.intervalSecs) (a.maxPolls <|> d.polling.maxAttempts)
      timeoutSecs := a.timeout <|> d.client.timeout } s (effective? a d s) := by
  cases s with
  | host => exact hhost
  | port => exact hport
  | user => exact huser
  | secret => exact hsecret
  | skipValidation =>
    rw [effective?_skipValidation]
    exact congrArg some (Bool.not_not _).symm
  | pollInterval =>
    simp only [Settings.Shows, effective?, Arguments.given?, Document.given?, Setting.default?, pollingOf]
    cases a.pollInterval <;> cases d.polling.intervalSecs <;> rfl
  | maxPolls =>
    simp only [Settings.Shows, effective?, Arguments.given?, Document.given?, Setting.default?, pollingOf]
    cases a.maxPolls <;> cases d.polling.maxAttempts <;> rfl
  | timeout =>
    simp only [Settings.Shows, effective?, Arguments.given?, Document.given?, Setting.default?]
    cases a.timeout <;> cases d.client.timeout <;> rfl

/-- Either there is a first mistake and it is told, or the settings show the values that count. -/
theorem resolve_cases (a : Arguments) (d : Document) :
    (∃ e, SettingsError.first? a d = some e ∧ Settings.resolve a d = .error e) ∨
      (SettingsError.first? a d = none ∧
        ∃ x, Settings.resolve a d = .ok x ∧ ∀ s, x.Shows s (effective? a d s)) := by
  obtain ⟨port, hport⟩ := exists_effective?_port a d
  rw [first?_eq, resolve_eq a d hport, hport]
  cases hhost : effective? a d .host with
  | none => exact .inl ⟨.noHostname, rfl, rfl⟩
  | some host =>
    by_cases hzero : port = 0
    · subst hzero
      exact .inl ⟨.invalidPort, rfl, rfl⟩
    · have hstarted : some port ≠ some 0 := fun h => hzero (Option.some.inj h)
      rw [if_neg (Option.some_ne_none host), if_neg hstarted]
      simp only [if_neg hzero]
      cases hsecret : effective? a d .secret with
      | none => exact .inl ⟨.noSecret, rfl, rfl⟩
      | some secret =>
        cases huser : effective? a d .user with
        | none => exact .inl ⟨.noUsername, rfl, rfl⟩
        | some username => exact .inr ⟨rfl, _, rfl, shows_of_effective? hhost hport hsecret huser⟩

theorem resolve_eq_error_iff {e : SettingsError} :
    Settings.resolve a d = .error e ↔ SettingsError.first? a d = some e := by
  obtain ⟨f, hfirst, hresolve⟩ | ⟨hfirst, x, hresolve, -⟩ := resolve_cases a d
  · rw [hfirst, hresolve, Except.error.injEq, Option.some.injEq]
  · rw [hfirst, hresolve]
    exact iff_of_false (by simp) (by simp)

theorem resolve_eq_ok_iff {x : Settings} : Settings.resolve a d = .ok x ↔
    SettingsError.first? a d = none ∧ ∀ s, x.Shows s (effective? a d s) := by
  obtain ⟨f, hfirst, hresolve⟩ | ⟨hfirst, y, hresolve, hshows⟩ := resolve_cases a d
  · rw [hfirst, hresolve]
    exact iff_of_false (by simp) (by simp)
  · rw [hresolve, Except.ok.injEq]
    constructor
    · rintro rfl
      exact ⟨hfirst, hshows⟩
    · exact fun h => Settings.eq_of_shows hshows h.2

/-- The settings are told by the values that count. -/
theorem resolve_congr (h : ∀ s, effective? a d s = effective? a' d' s) :
    Settings.resolve a d = Settings.resolve a' d' := by
  have hfirst : SettingsError.first? a d = SettingsError.first? a' d' := by
    rw [first?_eq, first?_eq, h .host, h .port, h .secret, h .user]
  cases hresolve : Settings.resolve a' d' with
  | error e => rwa [resolve_eq_error_iff, hfirst, ← resolve_eq_error_iff]
  | ok x =>
    rw [resolve_eq_ok_iff, hfirst]
    simp only [h]
    exact resolve_eq_ok_iff.mp hresolve

theorem exists_resolve_eq_ok_iff (a : Arguments) (d : Document) : (∃ x, Settings.resolve a d = .ok x) ↔
    (∀ s ∈ [.host, .secret, .user], a.given? s ≠ none ∨ d.given? s ≠ none) ∧ effective? a d .port ≠ some 0 := by
  have hgiven {s : Setting} (h : s.default? = none) :
      effective? a d s ≠ none ↔ a.given? s ≠ none ∨ d.given? s ≠ none := by
    rw [ne_eq, effective?_eq_none_iff h, Decidable.not_and_iff_or_not]
  have hexists : (∃ x, Settings.resolve a d = .ok x) ↔ SettingsError.first? a d = none := by
    obtain ⟨f, hfirst, hresolve⟩ | ⟨hfirst, y, hresolve, -⟩ := resolve_cases a d
    · rw [hfirst, hresolve]
      exact iff_of_false (by simp) (by simp)
    · exact iff_of_true ⟨y, hresolve⟩ hfirst
  rw [hexists, SettingsError.first?_eq_none_iff]
  constructor
  · intro h
    refine ⟨fun s hs => ?_, h .invalidPort⟩
    obtain rfl | rfl | rfl : s = .host ∨ s = .secret ∨ s = .user := by simpa using hs
    · exact (hgiven rfl).mp (h .noHostname)
    · exact (hgiven rfl).mp (h .noSecret)
    · exact (hgiven rfl).mp (h .noUsername)
  · rintro ⟨hset, hport⟩ e
    cases e with
    | noHostname => exact (hgiven rfl).mpr (hset .host (by decide))
    | invalidPort => exact hport
    | noSecret => exact (hgiven rfl).mpr (hset .secret (by decide))
    | noUsername => exact (hgiven rfl).mpr (hset .user (by decide))

/-! ### From the command line to the document -/

/-- Takes a setting off the command line and writes it into the document. -/
def moveToDocument (a : Arguments) (d : Document) (s : Setting) : Arguments × Document :=
  match a.given? s with
  | some v => (a.unset s, d.write s (some v))
  | none => (a, d)

/-- Moves some settings, one after the other. -/
def moveAll (a : Arguments) (d : Document) : List Setting → Arguments × Document
  | [] => (a, d)
  | s :: rest => moveAll (moveToDocument a d s).1 (moveToDocument a d s).2 rest

theorem effective?_moveToDocument (a : Arguments) (d : Document) (s t : Setting) :
    effective? (moveToDocument a d s).1 (moveToDocument a d s).2 t = effective? a d t := by
  unfold moveToDocument
  cases hgiven : a.given? s with
  | none => rfl
  | some v =>
    by_cases hsame : t = s
    · subst hsame
      rw [effective?_of_given hgiven]
      exact effective?_of_unset (a.given?_unset t) (d.given?_write t (some v))
    · rw [effective?, effective?, a.given?_unset_of_ne hsame, d.given?_write_of_ne (some v) hsame]

theorem resolve_moveAll (a : Arguments) (d : Document) (settings : List Setting) :
    Settings.resolve (moveAll a d settings).1 (moveAll a d settings).2 = Settings.resolve a d := by
  induction settings generalizing a d with
  | nil => rfl
  | cons s rest ih =>
    rw [moveAll, ih]
    exact resolve_congr (effective?_moveToDocument a d s)

/-- For every command line and every document: settings are found exactly when a host, a secret and a user are
given somewhere and the port that counts is not zero. They show the values that count, which come from the
command line where it gives one, else from the document, else from the defaults; and certificates are checked
unless one side says not to. Otherwise the first mistake is told. So what the command line overrides may be
anything in the document, two documents that agree on all else lead to the same end, and it does not matter
whether a value stands on the command line or was moved from there into the document. -/
theorem resolve_precedence (a : Arguments) (d : Document) :
    ((∃ x, Settings.resolve a d = .ok x) ↔
      (∀ s ∈ [.host, .secret, .user], a.given? s ≠ none ∨ d.given? s ≠ none) ∧ effective? a d .port ≠ some 0) ∧
    (∀ x, Settings.resolve a d = .ok x →
      (∀ s, (∀ v, a.given? s = some v → x.Shows s (some v)) ∧
        (a.given? s = none → ∀ v, d.given? s = some v → x.Shows s (some v)) ∧
        (a.given? s = none → d.given? s = none → x.Shows s s.default?)) ∧
      (x.endpoint.verifyTls = true ↔ a.skipValidation = false ∧ d.client.skipValidation ≠ some true)) ∧
    (∀ e, Settings.resolve a d = .error e ↔
      ∃ before after, SettingsError.inOrder = before ++ e :: after ∧ e.Applies a d ∧
        ∀ f ∈ before, ¬f.Applies a d) ∧
    SettingsError.inOrder.map SettingsError.message =
      ["No hostname given", "Invalid port given", "No secret given", "No username given"] ∧
    (∀ d', (∀ s, a.given? s = none → d.given? s = d'.given? s) → Settings.resolve a d = Settings.resolve a d') ∧
    (∀ s v, a.given? s ≠ none → Settings.resolve a (d.write s v) = Settings.resolve a d) ∧
    ∀ settings, Settings.resolve (moveAll a d settings).1 (moveAll a d settings).2 = Settings.resolve a d := by
  refine ⟨exists_resolve_eq_ok_iff a d, fun x hx => ?_, fun e => ?_, by decide, fun d' hagree => ?_, fun s v hgiven => ?_,
    resolve_moveAll a d⟩
  · have hshows := (resolve_eq_ok_iff.mp hx).2
    refine ⟨fun s => ⟨fun v hv => ?_, fun ha v hd => ?_, fun ha hd => ?_⟩, ?_⟩
    · exact effective?_of_given hv ▸ hshows s
    · exact effective?_of_unset ha hd ▸ hshows s
    · exact effective?_of_default ha hd ▸ hshows s
    · have hskip : some _ = some (!x.endpoint.verifyTls) :=
        (effective?_skipValidation a d).symm.trans (hshows .skipValidation)
      rw [← Bool.not_eq_false', ← Option.some.inj hskip]
      cases a.skipValidation <;> rcases d.client.skipValidation with _ | _ | _ <;> simp
  · rw [resolve_eq_error_iff, SettingsError.first?_eq_some_iff]
  · exact resolve_congr fun s => effective?_congr (hagree s)
  · refine resolve_congr fun t => effective?_congr fun hnone => ?_
    have hother : t ≠ s := fun h => hgiven (h ▸ hnone)
    exact d.given?_write_of_ne v hother

end KeyApproval.Config
