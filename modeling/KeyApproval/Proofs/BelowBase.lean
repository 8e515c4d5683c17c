import KeyApproval.Proofs.LongNames
import KeyApproval.Proofs.Traffic

/-!
# Requests below a base

A client that is given a base URL makes its requests below the path of that URL: on the same server, as the
same user, and with nothing of the query and the fragment. Its base URL, read again from its text, is the same
base URL, as long as the labels of its host can be read again.
-/

namespace KeyApproval.Url

open Text

variable {u v : Url}

/-- The path of a URL, ended by a slash. -/
def closedPathText (u : Url) : String :=
  if u.pathText.toList.getLast? = some '/' then u.pathText else u.pathText ++ "/"

/-- That a URL leads from a base down a relative path. -/
structure LiesBelow (v base : Url) (path : String) : Prop where
  scheme : v.scheme = base.scheme
  authority : v.authority = base.authority
  path : v.pathText = base.closedPathText ++ path
  query : v.query = none
  fragment : v.fragment = none

/-! ### Closed paths -/

theorem render_segments_append (front rest : List String) :
    (Path.segments (front ++ rest)).render = (Path.segments front).render ++ (Path.segments rest).render := by
  rw [Path.render, Path.render, Path.render, List.map_append, String.join_append]

theorem render_segments_singleton (s : String) : (Path.segments [s]).render = "/" ++ s := by
  simp [Path.render, String.join_cons]

/-- The last character of a path is that of its last segment, or the slash before it. -/
theorem getLast?_render_segments (front : List String) (s : String) :
    (Path.segments (front ++ [s])).render.toList.getLast? = ('/' :: s.toList).getLast? := by
  rw [render_segments_append, render_segments_singleton, String.toList_append, String.toList_append]
  change (_ ++ '/' :: s.toList).getLast? = _
  rw [List.getLast?_append, List.getLast?_cons, Option.some_or]

theorem exists_closePath (h : u.IsNormal) :
    ∃ front, u.closePath = { u with path := .segments (front ++ [""]) } ∧
      u.closedPathText = (Path.segments front).render ++ "/" ∧ IsNormalPath (front ++ [""]) := by
  obtain ⟨list, hpath, hlist⟩ := h.path
  obtain ⟨front, last, rfl⟩ := List.eq_nil_or_concat' list |>.resolve_left hlist.ne_nil
  have hclosed : IsNormalPath ((front ++ [last]) ++ [""]) := by
    refine ⟨by simp, fun s hs => ?_⟩
    rcases List.mem_append.mp hs with hs | hs
    · exact hlist.segments s hs
    · rw [List.mem_singleton.mp hs]
      exact isSegment_nil
  by_cases hempty : last = ""
  · subst hempty
    refine ⟨front, ?_, ?_, hlist⟩
    · rw [closePath, hpath]
      simp [← hpath]
    · rw [closedPathText, pathText, hpath, getLast?_render_segments, if_pos (by simp), render_segments_append,
        render_segments_singleton]
      simp
  · refine ⟨front ++ [last], ?_, ?_, hclosed⟩
    · rw [closePath, hpath]
      simp [hempty]
    · obtain ⟨c, rest, hcons⟩ := List.exists_cons_of_ne_nil fun h => hempty (String.toList_eq_nil_iff.mp h)
      have hlast : ('/' :: last.toList).getLast? ≠ some '/' := by
        intro hslash
        rw [hcons, List.getLast?_cons_cons, ← hcons] at hslash
        have hfree := (hlist.segments last (by simp)).slashless '/' (List.mem_of_getLast? hslash)
        contradiction
      rw [closedPathText, pathText, hpath, getLast?_render_segments, if_neg hlast]

theorem isNormal_closePath (h : u.IsNormal) : u.closePath.IsNormal := by
  obtain ⟨front, hclose, -, hpath⟩ := exists_closePath h
  rw [hclose]
  exact ⟨h.kind, h.authority, ⟨_, rfl, hpath⟩, h.query, h.fragment⟩

theorem closePath_closePath (h : u.IsNormal) : u.closePath.closePath = u.closePath := by
  obtain ⟨front, hclose, -, -⟩ := exists_closePath h
  rw [hclose]
  simp [closePath]

/-! ### Joining -/

variable {segments : List (List Char)} {path : String}

theorem render_segments_join (hpath : path.toList = Text.join '/' segments) (hne : segments ≠ []) :
    (Path.segments (segments.map String.ofList)).render = "/" ++ path := by
  rw [← String.toList_inj, toList_render_segments (by simpa using hne), String.toList_append, hpath,
    List.map_map]
  simp [Function.comp_def]

/-- A relative path of plain segments leads below the closed path. -/
theorem join_closePath (h : u.IsNormal) (hpath : path.toList = Text.join '/' segments) (hne : segments ≠ [])
    (hplain : ∀ s ∈ segments, IsPlain s) :
    ∃ v, u.closePath.join path = .ok v ∧ v.LiesBelow u path := by
  obtain ⟨front, hclose, hclosed, -⟩ := exists_closePath h
  obtain ⟨a, ha, -⟩ := h.authority
  have hauthority : u.closePath.authority.isSome = true := by simp [hclose, ha]
  have hkind : u.closePath.kind = .special := (isNormal_closePath h).kind
  have hfront : (pathSegments u.closePath).dropLast = front := by simp [hclose, pathSegments]
  refine ⟨{ u.closePath with
    path := .segments (front ++ segments.map String.ofList), query := none, fragment := none }, ?_, ?_⟩
  · rw [join_of_special hkind hauthority hpath hne hplain, hfront]
  · refine ⟨by rw [hclose], by rw [hclose], ?_, rfl, rfl⟩
    rw [pathText, render_segments_append, render_segments_join hpath hne, hclosed, String.append_assoc]

theorem LiesBelow.render_eq {base : Url} (h : v.LiesBelow base path) {a : Authority}
    (ha : base.authority = some a) :
    v.render = base.scheme ++ ":" ++ ("//" ++ a.render) ++ (base.closedPathText ++ path) := by
  have hauthority : v.authorityText = "//" ++ a.render := by simp [authorityText, h.authority, ha]
  rw [render, h.query, h.fragment, h.scheme, h.path, hauthority]
  simp

/-- The text of a URL below a base tells the path that led there. -/
theorem LiesBelow.unique {base v' : Url} {path' : String} (hv : v.LiesBelow base path)
    (hv' : v'.LiesBelow base path') {a : Authority} (ha : base.authority = some a)
    (h : v.render = v'.render) : path = path' := by
  rw [hv.render_eq ha, hv'.render_eq ha, ← String.toList_inj] at h
  exact String.toList_inj.mp (by simpa using h)

end KeyApproval.Url

namespace KeyApproval.Client

open Url

variable {c c' : Client} {text path : String} {u : Url}

/-- The request that is made goes below the base. If it passes the check it is sent, and else nothing is. -/
def SendsBelow (c : Client) (base : Url) (method : Http.Method) (path : String) (body : Option String)
    (w w' : World) : Prop :=
  ∃ r, c.prepare method path body w.readClock.1 = .ok r ∧ r.url.LiesBelow base path ∧
    (w.transport.check r = .ok () → w'.requests = w.requests ++ [r]) ∧
    ∀ e, w.transport.check r = .error e → w'.requests = w.requests

theorem rebase_of_parse (c : Client) (hu : Url.parse text = .ok u) :
    c.rebase text = .ok { c with baseUrl := u.closePath } := by
  rw [rebase, hu]

theorem prepare_below (hbase : c.baseUrl = u.closePath) (h : u.IsNormal) {segments : List (List Char)}
    (hpath : path.toList = Text.join '/' segments) (hne : segments ≠ []) (hplain : ∀ s ∈ segments, IsPlain s)
    (method : Http.Method) (body : Option String) (now : Calendar.Instant) :
    ∃ r, c.prepare method path body now = .ok r ∧ r.url.LiesBelow u path := by
  obtain ⟨v, hjoin, hbelow⟩ := join_closePath h hpath hne hplain
  obtain ⟨headers, hheaders⟩ := exists_authorize now c.credentials body
  refine ⟨⟨method, v, describeContent method headers, body⟩, ?_, hbelow⟩
  rw [prepare, hbase, hjoin]
  dsimp only
  rw [hheaders]
  rfl

theorem call_sendsBelow {α : Type} (decode : Http.Response → Decoded α) {method : Http.Method}
    {body : Option String} (w : World)
    (hprepare : ∀ now, ∃ r, c.prepare method path body now = .ok r ∧ r.url.LiesBelow u path) :
    c.SendsBelow u method path body w (c.call method path body decode w).2 := by
  obtain ⟨r, hr, hbelow⟩ := hprepare w.readClock.1
  exact ⟨r, hr, hbelow, requests_call_of_passed decode hr, fun e => requests_call_of_refused decode hr⟩

/-- Taking the base URL again from its text changes nothing, as long as its host can be read again. -/
theorem rebase_render (h : u.IsNormal) {a : Authority} (ha : u.authority = some a)
    (hbase : c.baseUrl = u.closePath) :
    c.rebase c.baseUrl.render = .ok c ↔ a.host.isReadable = true := by
  have hclosed : u.closePath.authority = some a := by
    rw [(closePath_spec u).2, ha]
  have hparse := parse_render (isNormal_closePath h) hclosed
  rw [hbase]
  cases hreadable : a.host.isReadable with
  | true =>
    rw [hreadable, if_pos rfl] at hparse
    rw [rebase_of_parse c hparse, closePath_closePath h, ← hbase]
    simp
  | false =>
    rw [hreadable, if_neg Bool.false_ne_true] at hparse
    simp [rebase, hparse]

/-- Requests go below the path of the base URL, on its server and as its user. They can always be built, and those
that pass the check are sent. Different numbers lead to different URLs. A base URL is taken again from its own
text if and only if no label of its host has become too long to be read. -/
theorem requests_below_base (h : c.rebase text = .ok c') (hu : Url.parse text = .ok u)
    (hhttp : u.scheme = "http" ∨ u.scheme = "https") :
    u.authority.isSome = true ∧
    (∀ method body now, ∃ r, c'.prepare method "api/requests" body now = .ok r ∧
      r.url.LiesBelow u "api/requests") ∧
    (∀ (id : UInt64) method body now, ∃ r,
      c'.prepare method ("api/requests/" ++ toString id.toNat) body now = .ok r ∧
        r.url.LiesBelow u ("api/requests/" ++ toString id.toNat)) ∧
    (∀ handle w, c'.SendsBelow u .post "api/requests" (some (createBody handle)) w
      (c'.requestKey handle w).2) ∧
    (∀ id w, c'.SendsBelow u .get ("api/requests/" ++ toString id.toNat) none w (c'.inquire id w).2) ∧
    (∀ id w, c'.SendsBelow u .patch ("api/requests/" ++ toString id.toNat) (some fulfillBody) w
      (c'.collect id w).2) ∧
    (∀ (m n : UInt64) (v v' : Url), v.LiesBelow u ("api/requests/" ++ toString m.toNat) →
      v'.LiesBelow u ("api/requests/" ++ toString n.toNat) → v.render = v'.render → m = n) ∧
    (c'.rebase c'.baseUrl.render = .ok c' ↔ ∀ a, u.authority = some a → a.host.isReadable = true) := by
  have hkind : u.kind = .special := by
    rw [kind]
    rcases hhttp with hscheme | hscheme <;> rw [hscheme] <;> decide
  have hnormal := isNormal_of_parse hu hkind
  obtain ⟨a, ha, -⟩ := hnormal.authority
  rw [rebase_of_parse c hu] at h
  cases h
  have hcreate := prepare_below (c := { c with baseUrl := u.closePath }) rfl hnormal toList_requestsPath
    (List.cons_ne_nil _ _) isPlain_requestsPath
  have hrequest (id : UInt64) := prepare_below (c := { c with baseUrl := u.closePath }) rfl hnormal
    (toList_requestPath id) (List.cons_ne_nil _ _) (isPlain_numbered id.toNat)
  simp only [← requestPath_eq]
  refine ⟨by simp [ha], hcreate, hrequest, fun handle w => ?_, fun id w => ?_, fun id w => ?_, ?_, ?_⟩
  · exact call_sendsBelow decodeId w fun now => hcreate _ _ now
  · exact call_sendsBelow decodeState w fun now => hrequest id _ _ now
  · exact call_sendsBelow decodeSecret w fun now => hrequest id _ _ now
  · intro m n v v' hv hv' hsame
    have hpath := hv.unique hv' ha hsame
    rw [requestPath_eq, requestPath_eq, ← String.toList_inj] at hpath
    have hdigits : toString m.toNat = toString n.toNat := String.toList_inj.mp (by simpa using hpath)
    exact UInt64.toNat_inj.mp (Text.toString_injective hdigits)
  · rw [rebase_render hnormal ha rfl]
    simp [ha]

/-- A base URL with everything that requests leave out. -/
theorem requests_below_base_loopback :
    let u : Url := ⟨"http", some ⟨"user", some "pw", .ipv6 [0, 0, 0, 0, 0, 0, 0, 1], some 8443⟩,
      .segments ["keys", "prod"], some "x=1", some "top"⟩
    let c : Client := { loopback with baseUrl := u.closePath }
    Url.parse "http://user:pw@[::1]:8443/keys/./a/../prod?x=1#top" = .ok u ∧
      loopback.rebase "http://user:pw@[::1]:8443/keys/./a/../prod?x=1#top" = .ok c ∧
      (∃ r, c.prepare .get "api/requests/7" none default = .ok r ∧
        r.url.render = "http://user:pw@[::1]:8443/keys/prod/api/requests/7") ∧
      c.rebase c.baseUrl.render = .ok c := by
  have hparse : Url.parse "http://user:pw@[::1]:8443/keys/./a/../prod?x=1#top" =
      .ok ⟨"http", some ⟨"user", some "pw", .ipv6 [0, 0, 0, 0, 0, 0, 0, 1], some 8443⟩,
        .segments ["keys", "prod"], some "x=1", some "top"⟩ := by
    decide +kernel
  have hrebase := rebase_of_parse loopback hparse
  obtain ⟨-, -, hrequest, -, -, -, -, hagain⟩ := requests_below_base hrebase hparse (.inl rfl)
  obtain ⟨r, hprepare, hbelow⟩ := hrequest 7 .get none default
  refine ⟨hparse, hrebase, ⟨r, hprepare, ?_⟩, hagain.mpr fun a ha => ?_⟩
  · rw [hbelow.render_eq rfl]
    decide +kernel
  · cases ha
    rfl

/-! ### A host that cannot be read again -/

/-- Nine hundred ideographs in order, with gaps between them. -/
def longLabel : List Char := (List.range 900).map fun i => Char.ofNat (0x4E00 + 20 * i)

theorem toNat_longLabel : longLabel.map Char.toNat = (List.range 900).map fun i => 0x4E00 + 20 * i := by
  rw [longLabel, List.map_map]
  refine List.map_congr_left fun i hi => ?_
  have hi := List.mem_range.mp hi
  exact Text.Utf8.toNat_ofNat (.inl (by omega))

theorem length_longLabel : longLabel.length = 900 := by rw [longLabel, List.length_map, List.length_range]

theorem isIdeographic_longLabel : Domain.IsIdeographic longLabel := by
  refine ⟨by simp [longLabel], fun c hc => ?_⟩
  obtain ⟨i, hi, hcode⟩ := List.mem_map.mp (toNat_longLabel ▸ List.mem_map_of_mem hc)
  have hi := List.mem_range.mp hi
  simp only [Text.NormalForm.isIdeograph, Bool.and_eq_true, decide_eq_true_eq]
  omega

theorem length_encode_longLabel : 2000 < (Domain.Punycode.encode longLabel).length := by
  have hspread : Domain.Punycode.AreSpread (longLabel.map Char.toNat) := by
    rw [toNat_longLabel, Domain.Punycode.AreSpread, List.pairwise_map]
    exact List.pairwise_lt_range.imp fun h => by omega
  have hlong := Domain.Punycode.length_encode hspread fun c hc => by
    have := isIdeographic_longLabel.bounds c hc
    omega
  have := length_longLabel
  omega

/-- A base URL may have a host whose ASCII form is refused as a host. -/
theorem rebase_longLabel :
    ∃ c, loopback.rebase ("http://" ++ String.ofList longLabel ++ "/") = .ok c ∧ c.baseUrl.scheme = "http" ∧
      c.rebase c.baseUrl.render ≠ .ok c := by
  have hlength : longLabel.length ≤ 1000 := by rw [length_longLabel]; omega
  let a : Authority := ⟨"", none, .ipv4 0, none⟩
  let u : Url := ⟨"http", some a, .segments [""], none, none⟩
  have hpath : IsNormalPath [""] := ⟨by simp, List.forall_mem_singleton.mpr isSegment_nil⟩
  have hnormal : u.IsNormal :=
    ⟨by decide, ⟨a, rfl, ⟨by simp [a, EncodingSet.IsEncoded], by simp [a], by simp [a]⟩, .ipv4 0⟩,
      ⟨_, rfl, hpath⟩, by simp [u], by simp [u]⟩
  have htext : ("http://" ++ String.ofList longLabel ++ "/").toList = u.textWith a longLabel := by
    rw [String.toList_append, String.toList_append, String.toList_ofList (l := longLabel)]
    simp [u, a, textWith, Authority.textWith, Authority.userText, Authority.portText, pathText, Path.render,
      queryText, fragmentText, String.join_cons]
  have hparse := parse_textWith hnormal rfl (isHostText_of_isIdeographic isIdeographic_longLabel) htext
  rw [readSpecial_of_isIdeographic isIdeographic_longLabel hlength] at hparse
  refine ⟨_, rebase_of_parse loopback hparse, rfl, fun hagain => ?_⟩
  have hreadable := (rebase_render (isNormal_of_parse hparse rfl) rfl rfl).mp hagain
  have hlong := isReadable_of_isIdeographic isIdeographic_longLabel hlength length_encode_longLabel
  exact Bool.false_ne_true (hlong.symm.trans hreadable)

end KeyApproval.Client
