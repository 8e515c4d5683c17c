import KeyApproval.Proofs.ResourcePath

/-!
# Base URLs

A URL whose scheme names a host has an authority, however its text was written, and so has every base URL
that a client takes from one. The paths of the protocol can be joined to it, and a client that has such a
base URL can prepare all its requests.
-/

namespace KeyApproval.Url

variable {scheme : String} {s : List Char} {u : Url}

theorem isSome_authority_readWithAuthority (h : readWithAuthority scheme s = .ok u) :
    u.authority.isSome = true := by
  unfold readWithAuthority at h
  cases hread : readAuthority scheme s with
  | error e => simp [hread, bind, Except.bind] at h
  | ok found =>
    simp only [hread, bind, Except.bind, pure, Except.pure, Except.ok.injEq] at h
    rw [← h]
    rfl

theorem isSome_authority_readFileAfterSlashes (h : readFileAfterSlashes s = .ok u) :
    u.authority.isSome = true := by
  unfold readFileAfterSlashes at h
  cases hread : readFileHost s with
  | error e => simp [hread, bind, Except.bind] at h
  | ok found =>
    simp only [hread, bind, Except.bind, pure, Except.pure, Except.ok.injEq] at h
    rw [← h]
    rfl

theorem isSome_authority_readFile (h : readFile none s = .ok u) : u.authority.isSome = true := by
  unfold readFile at h
  split at h
  · cases h
    rfl
  · split at h
    · split at h
      · split at h
        · exact isSome_authority_readFileAfterSlashes h
        · cases h
          rfl
      · cases h
        rfl
    · cases h
      rfl

/-- Only a URL of another scheme may lack an authority. -/
theorem isSome_authority_of_parse {text : String} (h : parse text = .ok u) (hkind : u.kind ≠ .other) :
    u.authority.isSome = true := by
  unfold parse readAgainst at h
  split at h
  · next scheme rest _ =>
      unfold readWithScheme at h
      split at h
      · exact isSome_authority_readFile h
      · next hother =>
          unfold readOther at h
          dsimp only at h
          split at h
          · exact isSome_authority_readWithAuthority h
          · cases h
            exact absurd hother hkind
          · cases h
            exact absurd hother hkind
      · exact isSome_authority_readWithAuthority h
  · cases h

theorem setPort?_eq_some {v : Url} {port : UInt16} (h : u.setPort? port = some v) :
    v.scheme = u.scheme ∧ v.authority.isSome = true := by
  unfold setPort? at h
  split at h
  · contradiction
  · split at h
    · contradiction
    · cases h
      exact ⟨rfl, rfl⟩

theorem closePath_spec (u : Url) :
    u.closePath.scheme = u.scheme ∧ u.closePath.authority = u.authority := by
  unfold closePath
  repeat' split
  all_goals exact ⟨rfl, rfl⟩

end KeyApproval.Url

namespace KeyApproval.Client

open Url

/-- The clients that can be made. -/
inductive Made : Client → Prop where
  | new {endpoint : Endpoint} {credentials : Credentials} {c : Client}
      (h : Client.new endpoint credentials = .ok c) : Made c
  | rebase {c c' : Client} {text : String} (made : Made c) (h : c.rebase text = .ok c') : Made c'

variable {c : Client}

/-- The base URL of a client was read from a text, with its port set or its path closed at most. -/
theorem Made.exists_parse (h : c.Made) : ∃ text url, Url.parse text = .ok url ∧
    (c.baseUrl = url ∨ (∃ port, url.setPort? port = some c.baseUrl) ∨ c.baseUrl = url.closePath) := by
  cases h with
  | @new endpoint credentials _ h =>
    unfold Client.new Endpoint.baseUrl at h
    cases hparse : Url.parse ("https://" ++ endpoint.host ++ "/") with
    | error e => simp [hparse, bind, Except.bind] at h
    | ok url =>
      simp only [hparse, bind, Except.bind, pure, Except.pure, Except.ok.injEq] at h
      subst h
      refine ⟨_, url, hparse, ?_⟩
      cases hport : url.setPort? endpoint.port with
      | none => exact .inl rfl
      | some v => exact .inr (.inl ⟨endpoint.port, hport⟩)
  | @rebase _ _ text _ h =>
    unfold Client.rebase at h
    split at h
    · next url hparse =>
        cases h
        exact ⟨text, url, hparse, .inr (.inr rfl)⟩
    · cases h

theorem Made.isSome_authority (h : c.Made) (hkind : c.baseUrl.kind ≠ .other) :
    c.baseUrl.authority.isSome = true := by
  obtain ⟨text, url, hparse, hbase | ⟨port, hport⟩ | hbase⟩ := h.exists_parse
  · rw [hbase] at hkind ⊢
    exact isSome_authority_of_parse hparse hkind
  · exact (setPort?_eq_some hport).2
  · obtain ⟨hscheme, hauthority⟩ := url.closePath_spec
    rw [hbase, kind, hscheme] at hkind
    rw [hbase, hauthority]
    exact isSome_authority_of_parse hparse hkind

/-- The client talks to its server over HTTP, with or without TLS. -/
def SpeaksHttp (c : Client) : Prop := c.baseUrl.scheme = "http" ∨ c.baseUrl.scheme = "https"

theorem kind_of_speaksHttp (h : c.SpeaksHttp) : c.baseUrl.kind = .special := by
  rw [kind]
  rcases h with h | h <;> rw [h] <;> decide

/-- There is always a header to sign. -/
theorem exists_authorize (now : Calendar.Instant) (credentials : Credentials) (body : Option String) :
    ∃ headers, Signing.authorize (signedHeaders now) credentials body = .ok headers := ⟨_, rfl⟩

theorem exists_prepare (hmade : c.Made) (hhttp : c.SpeaksHttp) {segments : List (List Char)}
    {path : String} (hpath : path.toList = Text.join '/' segments) (hne : segments ≠ [])
    (hplain : ∀ s ∈ segments, IsPlain s) (method : Http.Method) (body : Option String)
    (now : Calendar.Instant) : ∃ r, c.prepare method path body now = .ok r := by
  have hkind := kind_of_speaksHttp hhttp
  have hauthority := hmade.isSome_authority (by rw [hkind]; decide)
  obtain ⟨url, hurl⟩ : ∃ url, c.baseUrl.join path = .ok url :=
    ⟨_, join_of_special hkind hauthority hpath hne hplain⟩
  obtain ⟨headers, hheaders⟩ := exists_authorize now c.credentials body
  exact ⟨⟨method, url, describeContent method headers, body⟩, by simp [prepare, hurl, hheaders, Except.map]⟩

theorem exists_prepare_requestsPath (hmade : c.Made) (hhttp : c.SpeaksHttp) (method : Http.Method)
    (body : Option String) (now : Calendar.Instant) :
    ∃ r, c.prepare method requestsPath body now = .ok r :=
  exists_prepare hmade hhttp toList_requestsPath (List.cons_ne_nil _ _) isPlain_requestsPath method body
    now

theorem exists_prepare_requestPath (hmade : c.Made) (hhttp : c.SpeaksHttp) (id : UInt64)
    (method : Http.Method) (body : Option String) (now : Calendar.Instant) :
    ∃ r, c.prepare method (requestPath id) body now = .ok r :=
  exists_prepare hmade hhttp (toList_requestPath id) (List.cons_ne_nil _ _) (isPlain_numbered id.toNat)
    method body now

def loopback : Client :=
  ⟨⟨"myuser", "1234"⟩,
    ⟨"https", some ⟨"", none, .ipv6 [0, 0, 0, 0, 0, 0, 0, 1], none⟩, .segments [""], none, none⟩⟩

theorem made_loopback : loopback.Made := by
  have hbase : Endpoint.baseUrl ⟨"[::1]", 443, true⟩ = .ok loopback.baseUrl := by decide +kernel
  have hnew : Client.new ⟨"[::1]", 443, true⟩ ⟨"myuser", "1234"⟩ = .ok loopback := by
    rw [Client.new, hbase]
    rfl
  exact .new hnew

end KeyApproval.Client
