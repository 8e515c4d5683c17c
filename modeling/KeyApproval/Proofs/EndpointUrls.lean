import KeyApproval.Proofs.UrlRoundTrip
import Mathlib.Tactic.MkIffOfInductiveProp

/-!
# Base URLs of endpoints

The host of an endpoint is put into the text of a URL, which is then read. Whatever the host's text is, the URL
that comes out is one of HTTPS, and the port of the endpoint is its port. Text that reads as more than a host
is not refused, though: a user name before an at sign, a path after a slash, a query and a fragment stay in the
base URL. The texts after which nothing but a host is left are told exactly.
-/

namespace KeyApproval.Url

open Text

/-- The port that requests go to. -/
def effectivePort? (u : Url) : Option UInt16 := (u.authority.bind (·.port)).or (defaultPort? u.scheme)

/-! ### The text of a host in a URL -/

/-- What is read of a text in the place of a host: no tabs and line ends, and no slashes at its front. -/
def spelled (host : String) : List Char := (host.toList.filter (!isIgnored ·)).dropWhile isSlash

/-- The text up to what ends an authority. -/
def authorityPart (host : String) : List Char := (spelled host).takeWhile (!endsAuthority .special ·)

/-- The text from what ends an authority on. -/
def beyondAuthority (host : String) : List Char := (spelled host).dropWhile (!endsAuthority .special ·)

/-- What stands before the last at sign. -/
def userPart (host : String) : List Char := (splitUser (authorityPart host)).1.getD []

/-- What stands behind the last at sign and before a port. -/
def hostPart (host : String) : List Char := (splitHost false (splitUser (authorityPart host)).2).1

variable {host : String}

theorem endsAuthority_of_mem_authorityPart {c : Char} (h : c ∈ authorityPart host) :
    endsAuthority .special c = false := by
  simpa using List.mem_takeWhile_imp h

theorem eq_false_of_mem_head? {p : Char → Bool} {s : List Char} {c : Char} (h : c ∈ (s.dropWhile p).head?) :
    p c = false := by
  have hends := List.head?_dropWhile_not p s
  rw [Option.mem_def.mp h] at hends
  exact hends

theorem endsAuthority_of_mem_head? {c : Char} (h : c ∈ (beyondAuthority host).head?) :
    endsAuthority .special c = true := by
  simpa using eq_false_of_mem_head? h

theorem mem_spelled {c : Char} (hignored : isIgnored c = false) (hslash : isSlash c = false) :
    c ∈ spelled host ↔ c ∈ host.toList := by
  have hfilter : c ∈ host.toList.filter (!isIgnored ·) ↔ c ∈ host.toList := by
    simp [List.mem_filter, hignored]
  rw [← hfilter, ← List.takeWhile_append_dropWhile (l := host.toList.filter (!isIgnored ·)), List.mem_append]
  refine (or_iff_right fun hmem => ?_).symm
  rw [List.mem_takeWhile_imp hmem] at hslash
  contradiction

theorem clean_https (host : String) :
    clean ("https://" ++ host ++ "/") = "https".toList ++ ':' :: '/' :: '/' ::
      (host.toList.filter (!isIgnored ·) ++ ['/']) := by
  have htext : ("https://" ++ host ++ "/").toList = "https://".toList ++ (host.toList ++ ['/']) := by
    rw [String.toList_append, String.toList_append, List.append_assoc]
    rfl
  have hfront : ("https://".toList ++ (host.toList ++ ['/'])).dropWhile isTrimmed =
      "https://".toList ++ (host.toList ++ ['/']) := rfl
  have hback : dropEndWhile isTrimmed ("https://".toList ++ (host.toList ++ ['/'])) =
      "https://".toList ++ (host.toList ++ ['/']) := by
    rw [← List.append_assoc]
    exact dropEndWhile_append_singleton (by decide) _
  rw [clean, htext, hfront, hback, List.filter_append, List.filter_append]
  rfl

theorem kind_https : SchemeKind.of "https" = .special := by decide

theorem parse_https (host : String) :
    parse ("https://" ++ host ++ "/") =
      if spelled host = [] then .error .emptyHost else readWithAuthority "https" (spelled host ++ ['/']) := by
  have hslashes : ('/' :: '/' :: (host.toList.filter (!isIgnored ·) ++ ['/'])).dropWhile isSlash =
      (host.toList.filter (!isIgnored ·) ++ ['/']).dropWhile isSlash := rfl
  have hread : parse ("https://" ++ host ++ "/") =
      readWithAuthority "https" ((host.toList.filter (!isIgnored ·) ++ ['/']).dropWhile isSlash) := by
    rw [parse, readAgainst, clean_https, splitScheme_append kind_https]
    dsimp only
    rw [readWithScheme, kind_https]
    dsimp only [Option.filter_none]
    rw [hslashes]
  rw [hread, List.dropWhile_append, spelled]
  split
  next hempty =>
    rw [if_pos (List.isEmpty_iff.mp hempty)]
    rfl
  next hne => rw [if_neg fun hnil => hne (List.isEmpty_iff.mpr hnil)]

/-! ### Taking it apart -/

theorem splitHost_fst_append_snd (inBrackets : Bool) (s : List Char) :
    (splitHost inBrackets s).1 ++ (splitHost inBrackets s).2 = s := by
  induction s generalizing inBrackets with
  | nil => rfl
  | cons c rest ih =>
    rw [splitHost]
    split
    · rfl
    · exact congrArg (c :: ·) (ih _)

theorem mem_of_mem_splitUser {text : List Char} {c : Char} (h : c ∈ (splitUser text).2) : c ∈ text := by
  by_cases hat : '@' ∈ text
  · obtain ⟨back, front, htext, hback⟩ := List.eq_append_cons_of_mem (List.mem_reverse.mpr hat)
    have hsplit : text = front.reverse ++ '@' :: back.reverse := by
      rw [← List.reverse_reverse text, htext]
      simp
    rw [splitUser, hsplit, splitLast_append fun hmem => hback (List.mem_reverse.mp hmem)] at h
    rw [hsplit]
    exact List.mem_append_right _ (List.mem_cons_of_mem _ h)
  · rw [splitUser_of_notMem hat] at h
    exact h

theorem readSpecial_of_readHost {s : List Char} {found : Host} (h : readHost .special s = .ok found) :
    Host.readSpecial s = .ok found := by
  unfold readHost at h
  rw [SchemeKind.isSpecial, if_pos rfl] at h
  split at h
  · contradiction
  · exact h

/-- What is left behind a port is empty or begins with a backslash. -/
theorem of_readAfterHost {scheme : String} {user : String × Option String} {found : Host}
    {afterHost beyond rest : List Char} {a : Authority}
    (h : readAfterHost scheme user found afterHost beyond = .ok (a, rest)) :
    a.host = found ∧ (a.username, a.password) = user ∧ ∃ left, rest = left ++ beyond ∧
      (left = [] ∨ left.head? = some '\\') ∧ ∀ c ∈ left, c ∈ afterHost := by
  unfold readAfterHost at h
  dsimp only at h
  split at h
  next hleft =>
    obtain ⟨port, -, hresult⟩ := exists_of_map_eq_ok h
    cases hresult
    refine ⟨rfl, rfl, _, rfl, ?_, fun c hc => List.mem_of_mem_drop ((List.dropWhile_suffix _).mem hc)⟩
    rw [Bool.or_eq_true, List.isEmpty_iff, beq_iff_eq] at hleft
    exact hleft
  next => cases h

theorem takeWhile_spelled :
    (spelled host ++ ['/']).takeWhile (!endsAuthority .special ·) = authorityPart host ∧
      (spelled host ++ ['/']).dropWhile (!endsAuthority .special ·) = beyondAuthority host ++ ['/'] := by
  have hinside : ∀ c ∈ authorityPart host, (!endsAuthority .special c) = true := fun c hc => by
    rw [endsAuthority_of_mem_authorityPart hc]
    rfl
  have hends : ∀ c ∈ (beyondAuthority host ++ ['/']).head?, (!endsAuthority .special c) = false := by
    intro c hc
    rw [List.head?_append, Option.mem_def, Option.or_eq_some_iff] at hc
    rcases hc with hc | ⟨-, hc⟩
    · rw [endsAuthority_of_mem_head? hc]
      rfl
    · cases hc
      rfl
  have htext : spelled host ++ ['/'] = authorityPart host ++ (beyondAuthority host ++ ['/']) := by
    rw [← List.append_assoc, authorityPart, beyondAuthority, List.takeWhile_append_dropWhile]
  rw [htext]
  exact ⟨takeWhile_append_of_head hinside hends, dropWhile_append_of_head hinside hends⟩

theorem of_readAuthority {a : Authority} {rest : List Char}
    (h : readAuthority "https" (spelled host ++ ['/']) = .ok (a, rest)) :
    Host.readSpecial (hostPart host) = .ok a.host ∧ (a.username, a.password) = readUserinfo (userPart host) ∧
      rest = beyondAuthority host ++ ['/'] := by
  unfold readAuthority readHostAndPort at h
  rw [kind_https] at h
  dsimp only at h
  rw [takeWhile_spelled.1, takeWhile_spelled.2] at h
  split at h
  · cases h
  · obtain ⟨found, hfound, h⟩ := exists_of_bind_eq_ok h
    split at h
    · cases h
    · obtain ⟨rfl, huser, left, rfl, hleft, hmem⟩ := of_readAfterHost h
      refine ⟨readSpecial_of_readHost hfound, huser, ?_⟩
      -- A backslash would have ended the authority, so that nothing is left of it.
      rcases hleft with rfl | hhead
      · rw [List.nil_append]
      · have hport := List.mem_append_right (splitHost false (splitUser (authorityPart host)).2).1
          (hmem _ (List.mem_of_mem_head? hhead))
        rw [splitHost_fst_append_snd] at hport
        have hinside := endsAuthority_of_mem_authorityPart (mem_of_mem_splitUser hport)
        exact absurd hinside (by decide)

/-- The URL that is read of a text in the place of a host, by the host and the port that are found. -/
def reading (host : String) (found : Host) (port : Option UInt16) : Url where
  scheme := "https"
  authority := some ⟨(readUserinfo (userPart host)).1, (readUserinfo (userPart host)).2, found, port⟩
  path := readPathAfterAuthority .special ((beyondAuthority host ++ ['/']).takeWhile (!endsPath ·))
  query := (readTail .special ((beyondAuthority host ++ ['/']).dropWhile (!endsPath ·))).1
  fragment := (readTail .special ((beyondAuthority host ++ ['/']).dropWhile (!endsPath ·))).2

theorem exists_of_parse_https {v : Url} (h : parse ("https://" ++ host ++ "/") = .ok v) :
    ∃ found port, Host.readSpecial (hostPart host) = .ok found ∧ v = reading host found port := by
  rw [parse_https] at h
  split at h
  · contradiction
  · unfold readWithAuthority at h
    obtain ⟨⟨a, rest⟩, hread, hresult⟩ := exists_of_bind_eq_ok h
    obtain ⟨hfound, huser, hrest⟩ := of_readAuthority hread
    rw [kind_https, hrest] at hresult
    refine ⟨a.host, a.port, hfound, ?_⟩
    rw [reading, ← huser]
    exact (Except.ok.inj hresult).symm

/-! ### Nothing but a host -/

theorem readUserinfo_eq_iff {s : List Char} : readUserinfo s = ("", none) ↔ s ∈ [[], [':']] := by
  have hempty {t : List Char} : String.ofList (percentEncode .userinfo t) = "" ↔ t = [] := by
    rw [← String.toList_inj, String.toList_ofList]
    refine ⟨fun h => ?_, fun h => by rw [h]; rfl⟩
    by_contra hne
    exact percentEncode_ne_nil .userinfo hne h
  unfold readUserinfo
  by_cases hcolon : ':' ∈ s
  · obtain ⟨user, password, rfl, huser⟩ := List.eq_append_cons_of_mem hcolon
    rw [splitFirst_append huser]
    cases password with
    | nil => simp [hempty]
    | cons c rest => simp [List.append_eq_singleton_iff]
  · have hne : s ≠ [':'] := fun heq => hcolon (heq ▸ List.mem_cons_self)
    rw [splitFirst_of_notMem hcolon]
    simp [hempty, hne]

/-- One step along a path, whose segments come last first. -/
def follow (path : List (List Char)) (segment : List Char) : List (List Char) :=
  if isDoubleDot segment then shorten path
  else if isSingleDot segment then path
  else segment :: path

theorem addSegments_append_nil (path segments : List (List Char)) :
    addSegments path (segments ++ [[]]) = [] :: segments.foldl follow path := by
  induction segments generalizing path with
  | nil => rfl
  | cons segment rest ih =>
    have hmore : (rest ++ [[]]).isEmpty = false := by simp
    rw [List.cons_append, addSegments, hmore, Bool.false_and, if_neg Bool.false_ne_true, ih, List.foldl_cons,
      follow]

/-- Where a text leads that begins with a slash, from the root of a server on: the segments, last first. -/
def directories (s : List Char) : List (List Char) := ((encodedSegments .special s).drop 1).foldl follow []

theorem readPathAfterAuthority_append_slash {s : List Char} (h : ∀ c ∈ s.head?, isSlashOf .special c = true) :
    readPathAfterAuthority .special (s ++ ['/']) =
      .segments ((directories s).reverse.map String.ofList ++ [""]) := by
  cases s with
  | nil => rfl
  | cons c below =>
    have hc : isSlashOf .special c = true := h c rfl
    have hsegments : encodedSegments .special (below ++ ['/']) = encodedSegments .special below ++ [[]] := by
      rw [encodedSegments, splitWhere_append_singleton (by decide), List.map_append]
      rfl
    have hfront : encodedSegments .special (c :: below) = [] :: encodedSegments .special below := by
      rw [encodedSegments, splitWhere, if_pos hc]
      rfl
    rw [List.cons_append, readPathAfterAuthority, if_pos hc, readBelow, hsegments, List.map_nil,
      List.reverse_nil, addSegments_append_nil, directories, hfront, List.drop_one, List.tail_cons]
    simp

theorem readTail_eq_iff {s : List Char} (h : ∀ c ∈ s.head?, endsPath c = true) :
    readTail .special s = (none, none) ↔ s = [] := by
  cases s with
  | nil => exact iff_of_true rfl rfl
  | cons c rest =>
    refine iff_of_false (fun htail => ?_) (List.cons_ne_nil c rest)
    have hc := h c rfl
    rw [endsPath, Bool.or_eq_true, beq_iff_eq, beq_iff_eq] at hc
    rcases hc with rfl | rfl
    · rw [readTail] at htail
      split at htail <;> cases htail
    · cases htail

/-- A mark ends the authority, so that it stands behind it. -/
theorem mem_beyondAuthority {c : Char} (hmark : endsPath c = true) (hignored : isIgnored c = false)
    (hslash : isSlash c = false) : c ∈ beyondAuthority host ↔ c ∈ host.toList := by
  have hfront : c ∉ authorityPart host := by
    intro hmem
    have hends := endsAuthority_of_mem_authorityPart hmem
    rw [endsAuthority, hmark, Bool.true_or] at hends
    contradiction
  rw [← mem_spelled hignored hslash, ← List.takeWhile_append_dropWhile (l := spelled host), List.mem_append]
  exact (or_iff_right hfront).symm

theorem forall_endsPath_iff :
    (∀ c ∈ beyondAuthority host, endsPath c = false) ↔ '?' ∉ host.toList ∧ '#' ∉ host.toList := by
  rw [← mem_beyondAuthority (c := '?') rfl rfl rfl, ← mem_beyondAuthority (c := '#') rfl rfl rfl]
  constructor
  · exact fun h => ⟨fun hmem => Bool.noConfusion (h _ hmem), fun hmem => Bool.noConfusion (h _ hmem)⟩
  · rintro ⟨hquery, hmark⟩ c hc
    have hne (d : Char) (hd : d ∉ beyondAuthority host) : c ≠ d := fun heq => hd (heq ▸ hc)
    simp [endsPath, hne '?' hquery, hne '#' hmark]

/-- There is neither a query nor a fragment if and only if there is no mark of one in the text. -/
theorem readTail_beyondAuthority_eq_iff :
    readTail .special ((beyondAuthority host ++ ['/']).dropWhile (!endsPath ·)) = (none, none) ↔
      '?' ∉ host.toList ∧ '#' ∉ host.toList := by
  have hslash : endsPath '/' = false := by decide
  rw [readTail_eq_iff fun c hc => by simpa using eq_false_of_mem_head? hc, List.dropWhile_eq_nil_iff,
    ← forall_endsPath_iff]
  simp only [List.forall_mem_append, List.forall_mem_singleton, hslash, Bool.not_eq_true', and_true]

/-! ### The URL of a server -/

/-- The port as it is shown after a host. -/
def shownPort (port : UInt16) : Option UInt16 := if port = 443 then none else some port

/-- The URL of a server and of nothing more. -/
def server (host : Host) (port : UInt16) : Url :=
  ⟨"https", some ⟨"", none, host, shownPort port⟩, .segments [""], none, none⟩

theorem render_server (host : Host) (port : UInt16) :
    (server host port).render =
      "https://" ++ host.render ++ (if port = 443 then "" else ":" ++ toString port.toNat) ++ "/" := by
  have hfront (s : String) : "https:" ++ ("//" ++ s) = "https://" ++ s := by
    rw [← String.append_assoc]
    exact congrArg (· ++ s) (by decide)
  by_cases hdefault : port = 443 <;>
    simp [server, shownPort, hdefault, render, authorityText, Authority.render, pathText, Path.render, hfront,
      String.join_cons, String.append_assoc]

/-- That a text in the place of a host leaves nothing but a host in the URL: no user, a path that comes back to
its root, no query and no fragment. -/
@[mk_iff]
structure MeansHost (host : String) : Prop where
  user : userPart host ∈ [[], [':']]
  path : directories (beyondAuthority host) = []
  query : '?' ∉ host.toList
  fragment : '#' ∉ host.toList

instance : DecidablePred MeansHost := fun host => decidable_of_iff _ (meansHost_iff host).symm

theorem meansHost_of_forall (h : ∀ c ∈ host.toList, c ∉ ['/', '\\', '?', '#', '@']) : MeansHost host := by
  have hspelled : ∀ c ∈ spelled host, c ∉ ['/', '\\', '?', '#', '@'] := fun c hc =>
    h c (List.mem_of_mem_filter ((List.dropWhile_suffix _).mem hc))
  have hinside : ∀ c ∈ spelled host, (!endsAuthority .special c) = true := by
    intro c hc
    have hfree := hspelled c hc
    simp only [List.mem_cons, List.not_mem_nil, or_false, not_or] at hfree
    simp [endsAuthority, endsPath, isSlashOf, hfree]
  have hauthority : authorityPart host = spelled host := List.takeWhile_eq_self_iff.mpr hinside
  have hbeyond : beyondAuthority host = [] := List.dropWhile_eq_nil_iff.mpr hinside
  have hat : '@' ∉ spelled host := fun hmem => hspelled _ hmem (by decide)
  refine ⟨?_, ?_, fun hmem => h _ hmem (by decide), fun hmem => h _ hmem (by decide)⟩
  · rw [userPart, hauthority, splitUser_of_notMem hat]
    exact List.mem_cons_self
  · rw [hbeyond]
    decide

theorem readPath_of_notMem (hquery : '?' ∉ host.toList) (hfragment : '#' ∉ host.toList) :
    readPathAfterAuthority .special ((beyondAuthority host ++ ['/']).takeWhile (!endsPath ·)) =
      .segments ((directories (beyondAuthority host)).reverse.map String.ofList ++ [""]) := by
  have hfree := forall_endsPath_iff.mpr ⟨hquery, hfragment⟩
  have hall : ∀ c ∈ beyondAuthority host ++ ['/'], (!endsPath c) = true := by
    rw [List.forall_mem_append, List.forall_mem_singleton]
    exact ⟨fun c hc => by rw [hfree c hc]; rfl, rfl⟩
  have hslash : ∀ c ∈ (beyondAuthority host).head?, isSlashOf .special c = true := by
    intro c hc
    have hends := endsAuthority_of_mem_head? hc
    rw [endsAuthority, hfree c (List.mem_of_mem_head? hc), Bool.false_or] at hends
    exact hends
  rw [List.takeWhile_eq_self_iff.mpr hall]
  exact readPathAfterAuthority_append_slash hslash

variable {found other : Host} {shown : Option UInt16} {port : UInt16}

theorem reading_eq_server_iff :
    reading host found shown = server other port ↔ found = other ∧ shown = shownPort port ∧ MeansHost host := by
  constructor
  · intro heq
    obtain ⟨-, hauthority, hpath, hquery, hfragment⟩ := Url.mk.inj heq
    obtain ⟨huser, hpassword, hhost, hport⟩ := Authority.mk.inj (Option.some.inj hauthority)
    obtain ⟨hfree, hfree'⟩ := readTail_beyondAuthority_eq_iff.mp (Prod.ext hquery hfragment)
    have hroot := (readPath_of_notMem hfree hfree').symm.trans hpath
    refine ⟨hhost, hport, readUserinfo_eq_iff.mp (Prod.ext huser hpassword), ?_, hfree, hfree'⟩
    simpa using hroot
  · rintro ⟨rfl, rfl, hmeans⟩
    have huser := readUserinfo_eq_iff.mpr hmeans.user
    have htail := readTail_beyondAuthority_eq_iff.mpr ⟨hmeans.query, hmeans.fragment⟩
    have hpath := readPath_of_notMem hmeans.query hmeans.fragment
    rw [hmeans.path] at hpath
    rw [reading, huser, htail, hpath]
    rfl

/-! ### The port -/

theorem setPort?_reading (hfound : found.IsSpecial) (port : UInt16) :
    (reading host found shown).setPort? port = some (reading host found (shownPort port)) := by
  have hport : (if defaultPort? "https" == some port then none else some port) = shownPort port := by
    have hdefault : defaultPort? "https" = some 443 := by decide
    rw [hdefault, shownPort]
    by_cases hshown : port = 443
    · rw [hshown]
      rfl
    · rw [if_neg hshown, if_neg (by simpa using Ne.symm hshown)]
  have hfile : ((reading host found shown).kind == .file) = false := by
    rw [kind, reading, kind_https]
    rfl
  rw [setPort?, hfile, ← hport]
  simp only [reading, hfound.isEmpty_eq_false, Bool.or_self, Bool.false_eq_true, if_false]
  rfl

/-- A port that was set is the one that counts, whether it is shown or not. -/
theorem effectivePort?_of_setPort? {u v : Url} (h : u.setPort? port = some v) :
    v.effectivePort? = some port := by
  unfold setPort? at h
  split at h
  · contradiction
  · split at h
    · contradiction
    · cases h
      rw [effectivePort?]
      dsimp only [Option.bind_some]
      split
      next hdefault => rw [Option.none_or, eq_of_beq hdefault]
      next => rw [Option.some_or]

theorem render_ne_empty (h : found.IsSpecial) : found.render ≠ "" := by
  intro hempty
  exact (isHostText_render h).ne_nil (String.toList_eq_nil_iff.mpr hempty)

end KeyApproval.Url

namespace KeyApproval.Endpoint

open Url

variable {e : Endpoint} {u : Url}

/-- The port is always set. -/
theorem exists_reading (h : e.baseUrl = .ok u) :
    ∃ v found, Url.parse ("https://" ++ e.host ++ "/") = .ok v ∧ v.setPort? e.port = some u ∧
      Host.readSpecial (hostPart e.host) = .ok found ∧ u = reading e.host found (shownPort e.port) := by
  obtain ⟨v, hparse, hport⟩ := exists_of_bind_eq_ok h
  obtain ⟨found, shown, hfound, rfl⟩ := exists_of_parse_https hparse
  have hset : (reading e.host found shown).setPort? e.port = some (reading e.host found (shownPort e.port)) :=
    setPort?_reading (Host.isSpecial_of_readSpecial hfound) e.port
  rw [hset, Option.getD_some] at hport
  have hu := Except.ok.inj hport
  refine ⟨_, found, hparse, ?_, hfound, hu.symm⟩
  rw [hset, hu]

/-- Whatever stands in the place of the host, the base URL is one of HTTPS with the port of the endpoint, and
the paths of the protocol lead to the same server. -/
theorem baseUrl_keeps_server (h : e.baseUrl = .ok u) :
    u.scheme = "https" ∧ (∃ a, u.authority = some a ∧ a.host.render ≠ "") ∧ u.effectivePort? = some e.port ∧
    (∃ v, Url.parse ("https://" ++ e.host ++ "/") = .ok v ∧ v.setPort? e.port = some u) ∧
    ∀ path, (path = "api/requests" ∨ ∃ n : Nat, path = "api/requests/" ++ toString n) →
      ∃ v, u.join path = .ok v ∧ v.scheme = u.scheme ∧ v.authority = u.authority := by
  obtain ⟨v, found, hparse, hset, hfound, hu⟩ := exists_reading h
  have hkind : u.kind = .special := by rw [hu]; exact kind_https
  have hauthority : u.authority.isSome = true := by rw [hu]; rfl
  have hjoin {path : String} {segments : List (List Char)} (hpath : path.toList = Text.join '/' segments)
      (hne : segments ≠ []) (hplain : ∀ s ∈ segments, IsPlain s) :
      ∃ v, u.join path = .ok v ∧ v.scheme = u.scheme ∧ v.authority = u.authority :=
    ⟨_, join_of_special hkind hauthority hpath hne hplain, rfl, rfl⟩
  refine ⟨by rw [hu]; rfl, ?_, effectivePort?_of_setPort? hset, ⟨v, hparse, hset⟩, ?_⟩
  · rw [hu]
    exact ⟨_, rfl, render_ne_empty (Host.isSpecial_of_readSpecial hfound)⟩
  · rintro path (rfl | ⟨n, rfl⟩)
    · exact hjoin Client.toList_requestsPath (List.cons_ne_nil _ _) Client.isPlain_requestsPath
    · exact hjoin (Client.toList_numbered n) (List.cons_ne_nil _ _) (Client.isPlain_numbered n)

/-- A port of its own and all that a URL can hold in the place of the host. -/
theorem baseUrl_keeps_server_loopback :
    let e : Endpoint := ⟨"//user:pw@[::1]:99/x?q#f", 8443, true⟩
    ∃ u, e.baseUrl = .ok u ∧ u.render = "https://user:pw@[::1]:8443/x?q#f/" ∧ u.scheme = "https" ∧
      u.effectivePort? = some 8443 ∧ ∃ v, u.join "api/requests/7" = .ok v ∧ v.authority = u.authority := by
  have hbase : Endpoint.baseUrl ⟨"//user:pw@[::1]:99/x?q#f", 8443, true⟩ =
      .ok ⟨"https", some ⟨"user", some "pw", .ipv6 [0, 0, 0, 0, 0, 0, 0, 1], some 8443⟩, .segments ["x"],
        some "q", some "f/"⟩ := by
    decide +kernel
  obtain ⟨hscheme, -, hport, -, hjoin⟩ := baseUrl_keeps_server hbase
  obtain ⟨v, hv, -, hauthority⟩ := hjoin _ (.inr ⟨7, rfl⟩)
  exact ⟨_, hbase, by decide +kernel, hscheme, hport, v, hv, hauthority⟩

/-- The base URL is that of a server and of nothing more if and only if the text in the place of the host means
a host, as every text without slashes, marks and at signs does. -/
theorem baseUrl_eq_server_iff (h : e.baseUrl = .ok u) :
    ∃ host, Host.readSpecial (hostPart e.host) = .ok host ∧
      (u = server host e.port ↔ MeansHost e.host) ∧
      (MeansHost e.host → u.render =
        "https://" ++ host.render ++ (if e.port = 443 then "" else ":" ++ toString e.port.toNat) ++ "/") ∧
      (¬MeansHost e.host → ∀ other port, u ≠ server other port) ∧
      ((∀ c ∈ e.host.toList, c ∉ ['/', '\\', '?', '#', '@']) → MeansHost e.host) := by
  obtain ⟨-, found, -, -, hfound, rfl⟩ := exists_reading h
  have hserver : reading e.host found (shownPort e.port) = server found e.port ↔ MeansHost e.host := by
    rw [reading_eq_server_iff]
    exact ⟨fun heq => heq.2.2, fun hmeans => ⟨rfl, rfl, hmeans⟩⟩
  refine ⟨found, hfound, hserver, fun hmeans => ?_, fun hmeans other port heq => ?_, meansHost_of_forall⟩
  · rw [hserver.mpr hmeans, render_server]
  · exact hmeans (reading_eq_server_iff.mp heq).2.2

/-- A path that comes back to its root leaves nothing but a host. -/
theorem baseUrl_eq_server_iff_loopback :
    Endpoint.baseUrl ⟨"[::1]:99/a/..", 8443, true⟩ = .ok (server (.ipv6 [0, 0, 0, 0, 0, 0, 0, 1]) 8443) ∧
      MeansHost "[::1]:99/a/.." := by
  have hbase : Endpoint.baseUrl ⟨"[::1]:99/a/..", 8443, true⟩ =
      .ok (server (.ipv6 [0, 0, 0, 0, 0, 0, 0, 1]) 8443) := by
    decide +kernel
  obtain ⟨host, hhost, hmeans, -⟩ := baseUrl_eq_server_iff hbase
  have hread : Host.readSpecial (hostPart "[::1]:99/a/..") = .ok (.ipv6 [0, 0, 0, 0, 0, 0, 0, 1]) := by
    decide +kernel
  cases hhost.symm.trans hread
  exact ⟨hbase, hmeans.mp rfl⟩

/-- A user and a path in the place of the host are not refused: requests are signed for another host and another
path than the text begins with. -/
theorem baseUrl_user_and_path :
    ∃ u, Endpoint.baseUrl ⟨"user@[::1]/path", 8443, true⟩ = .ok u ∧ u.render = "https://user@[::1]:8443/path/" ∧
      ∀ host port, u ≠ server host port := by
  have hbase : Endpoint.baseUrl ⟨"user@[::1]/path", 8443, true⟩ =
      .ok ⟨"https", some ⟨"user", none, .ipv6 [0, 0, 0, 0, 0, 0, 0, 1], some 8443⟩, .segments ["path", ""],
        none, none⟩ := by
    decide +kernel
  refine ⟨_, hbase, by decide +kernel, fun host port heq => ?_⟩
  have hpath : Path.segments ["path", ""] = .segments [""] := congrArg Url.path heq
  exact absurd hpath (by decide)

end KeyApproval.Endpoint
