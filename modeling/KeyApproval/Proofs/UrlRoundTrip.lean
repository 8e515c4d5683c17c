import KeyApproval.Proofs.NormalUrls

/-!
# URLs read back

The text of a URL in normal form leads back to the URL. The text is taken apart in the order of its parts;
each reader finds the end of its part because the part holds none of the characters that end it. Of the host
only its text is needed for that, so that it may also be one that is refused in the end.
-/

namespace KeyApproval.Url

open Text

/-! ### The text of a URL -/

namespace Authority

def userText (a : Authority) : List Char :=
  if a.username == "" && a.password.isNone then []
  else a.username.toList ++ a.password.elim [] (fun p => ':' :: p.toList) ++ ['@']

def portText (a : Authority) : List Char := a.port.elim [] fun p => ':' :: Nat.toDigits 10 p.toNat

/-- The text of an authority with any text in place of the host. -/
def textWith (a : Authority) (host : List Char) : List Char := a.userText ++ (host ++ a.portText)

theorem toList_render (a : Authority) : a.render.toList = a.textWith a.host.render.toList := by
  have hdigits (p : UInt16) : (toString p.toNat).toList = Nat.toDigits 10 p.toNat := by
    rw [Nat.toString_eq_repr, Nat.toList_repr]
  have huser : (if a.username == "" && a.password.isNone then ""
      else a.username ++ (a.password.elim "" fun p => ":" ++ p) ++ "@").toList = a.userText := by
    rw [userText]
    split
    · rfl
    · cases a.password <;> simp
  have hport : (a.port.elim "" fun p => ":" ++ toString p.toNat).toList = a.portText := by
    rw [portText]
    cases a.port with
    | none => rfl
    | some p =>
      change (":" ++ toString p.toNat).toList = ':' :: Nat.toDigits 10 p.toNat
      rw [String.toList_append, hdigits]
      rfl
  calc a.render.toList
      = ((if a.username == "" && a.password.isNone then ""
          else a.username ++ (a.password.elim "" fun p => ":" ++ p) ++ "@") ++ a.host.render ++
            a.port.elim "" fun p => ":" ++ toString p.toNat).toList := by
        unfold render
        cases a.password <;> cases a.port <;> rfl
    _ = a.textWith a.host.render.toList := by
      rw [String.toList_append, String.toList_append, huser, hport, textWith, List.append_assoc]

end Authority

def queryText (u : Url) : List Char := u.query.elim [] fun q => '?' :: q.toList

def fragmentText (u : Url) : List Char := u.fragment.elim [] fun f => '#' :: f.toList

/-- The text of a URL with any text in place of the host. -/
def textWith (u : Url) (a : Authority) (host : List Char) : List Char :=
  u.scheme.toList ++ ':' :: '/' :: '/' ::
    (a.textWith host ++ (u.pathText.toList ++ (u.queryText ++ u.fragmentText)))

variable {u : Url} {a : Authority}

theorem toList_render (ha : u.authority = some a) :
    u.render.toList = u.textWith a a.host.render.toList := by
  have hauthority : u.authorityText = "//" ++ a.render := by simp [authorityText, ha]
  have hquery : (u.query.elim "" fun q => "?" ++ q).toList = u.queryText := by
    rw [queryText]
    cases u.query <;> simp
  have hfragment : (u.fragment.elim "" fun f => "#" ++ f).toList = u.fragmentText := by
    rw [fragmentText]
    cases u.fragment <;> simp
  calc u.render.toList
      = (u.scheme ++ ":" ++ u.authorityText ++ u.pathText ++ (u.query.elim "" fun q => "?" ++ q) ++
          (u.fragment.elim "" fun f => "#" ++ f)).toList := by
        unfold render
        cases u.query <;> cases u.fragment <;> rfl
    _ = u.textWith a a.host.render.toList := by
      simp only [String.toList_append, hauthority, hquery, hfragment, Authority.toList_render, textWith,
        List.append_assoc]
      rfl

/-! ### Texts of hosts -/

/-- A text that is read as a host up to its end. -/
structure IsHostText (s : List Char) : Prop where
  ne_nil : s ≠ []
  visible : ∀ c ∈ s, 0x20 < c.toNat
  inside : ∀ c ∈ s, endsAuthority .special c = false ∧ c ≠ '@'
  ends : ∀ rest, (∀ c ∈ rest.head?, c = ':') → splitHost false (s ++ rest) = (s, rest)

variable {s : List Char}

theorem splitHost_append {inBrackets : Bool} {inner : List Char}
    (h : ∀ c ∈ inner, c ≠ '[' ∧ c ≠ ']' ∧ (inBrackets = false → c ≠ ':')) (rest : List Char) :
    splitHost inBrackets (inner ++ rest) =
      (inner ++ (splitHost inBrackets rest).1, (splitHost inBrackets rest).2) := by
  induction inner with
  | nil => rfl
  | cons c inner ih =>
    obtain ⟨hopen, hclose, hcolon⟩ := h c List.mem_cons_self
    have hends : (c == ':' && !inBrackets) = false := by
      cases inBrackets with
      | false => simpa using hcolon rfl
      | true => simp
    rw [List.cons_append, splitHost, hends, beq_false_of_ne hopen, beq_false_of_ne hclose]
    simp only [Bool.false_eq_true, if_false]
    rw [ih fun d hd => h d (List.mem_cons_of_mem c hd)]
    rfl

theorem splitHost_of_head {rest : List Char} (h : ∀ c ∈ rest.head?, c = ':') :
    splitHost false rest = ([], rest) := by
  cases rest with
  | nil => rfl
  | cons c rest =>
    have hc := h c rfl
    subst hc
    rfl

theorem isHostText_of_not_mem (hne : s ≠ []) (hvisible : ∀ c ∈ s, 0x20 < c.toNat)
    (h : ∀ c ∈ s, c ∉ ['/', '\\', '?', '#', '@', ':', '[', ']']) : IsHostText s := by
  simp only [List.mem_cons, List.not_mem_nil, or_false, not_or] at h
  refine ⟨hne, hvisible, fun c hc => ?_, fun rest hrest => ?_⟩
  · obtain ⟨hslash, hback, hquery, hmark, hat, -⟩ := h c hc
    simp [endsAuthority, endsPath, isSlashOf, hslash, hback, hquery, hmark, hat]
  · have hinner : ∀ c ∈ s, c ≠ '[' ∧ c ≠ ']' ∧ (false = false → c ≠ ':') := by
      intro c hc
      obtain ⟨-, -, -, -, -, hcolon, hopen, hclose⟩ := h c hc
      exact ⟨hopen, hclose, fun _ => hcolon⟩
    rw [splitHost_append hinner, splitHost_of_head hrest, List.append_nil]

theorem not_endsAuthority_of_isPlain {c : Char} (h : isPlain c = true) :
    endsAuthority .special c = false := by
  have hne (d : Char) (hd : isPlain d = false) : c ≠ d := ne_of_isPlain h hd
  simp [endsAuthority, endsPath, isSlashOf, hne '?' (by decide), hne '#' (by decide),
    hne '/' (by decide), hne '\\' (by decide)]

theorem lt_toNat_of_isPlain {c : Char} (h : isPlain c = true) : 0x20 < c.toNat := by
  have := toNat_of_isPlain h
  omega

theorem isHostText_render {host : Host} (h : host.IsSpecial) : IsHostText host.render.toList := by
  rcases h.render_spec with hfree | ⟨inner, heq, hinner⟩
  · refine isHostText_of_not_mem hfree.ne_nil (fun c hc => ?_) fun c hc hmem => ?_
    · have hallowed := hfree.free c hc
      simp only [Domain.isForbidden, Bool.or_eq_false_iff, decide_eq_false_iff_not] at hallowed
      omega
    · have hall : ['/', '\\', '?', '#', '@', ':', '[', ']'].all Domain.isForbidden = true := by decide
      have := List.all_eq_true.mp hall c hmem
      rw [hfree.free c hc] at this
      contradiction
  · have hchar : ∀ c ∈ inner, 0x20 < c.toNat ∧ c ≠ '[' ∧ c ≠ ']' ∧ c ≠ '@' ∧
        endsAuthority .special c = false := by
      intro c hc
      rcases hinner c hc with hplain | rfl
      · have hne (d : Char) (hd : isPlain d = false) : c ≠ d := ne_of_isPlain hplain hd
        exact ⟨lt_toNat_of_isPlain hplain, hne _ (by decide), hne _ (by decide), hne _ (by decide),
          not_endsAuthority_of_isPlain hplain⟩
      · decide
    rw [heq]
    refine ⟨by simp, fun c hc => ?_, fun c hc => ?_, fun rest hrest => ?_⟩
    · rcases List.mem_cons.mp hc with rfl | hc
      · decide
      · rcases List.mem_append.mp hc with hc | hc
        · exact (hchar c hc).1
        · rw [List.mem_singleton.mp hc]
          decide
    · rcases List.mem_cons.mp hc with rfl | hc
      · decide
      · rcases List.mem_append.mp hc with hc | hc
        · exact ⟨(hchar c hc).2.2.2.2, (hchar c hc).2.2.2.1⟩
        · rw [List.mem_singleton.mp hc]
          decide
    · have hbrackets : ∀ c ∈ inner, c ≠ '[' ∧ c ≠ ']' ∧ (true = false → c ≠ ':') := by
        intro c hc
        exact ⟨(hchar c hc).2.1, (hchar c hc).2.2.1, fun h => Bool.noConfusion h⟩
      have hinside := splitHost_append hbrackets (']' :: rest)
      have hclose : splitHost true (']' :: rest) = ([']'], rest) := by
        rw [splitHost]
        simp [splitHost_of_head hrest]
      have hopen : splitHost false ('[' :: (inner ++ ']' :: rest)) =
          ('[' :: (splitHost true (inner ++ ']' :: rest)).1, (splitHost true (inner ++ ']' :: rest)).2) := by
        rw [splitHost]
        simp
      rw [List.cons_append, List.append_assoc, List.singleton_append, hopen, hinside, hclose]

/-! ### Parts of a text -/

/-- A part of a text goes up to the first character that ends it. -/
theorem takeWhile_append_of_head {p : Char → Bool} {part rest : List Char} (hpart : ∀ c ∈ part, p c = true)
    (hrest : ∀ c ∈ rest.head?, p c = false) : (part ++ rest).takeWhile p = part := by
  rw [List.takeWhile_append_of_pos hpart]
  cases rest with
  | nil => simp
  | cons c rest => rw [List.takeWhile_cons_of_neg (by simp [hrest c rfl]), List.append_nil]

theorem dropWhile_append_of_head {p : Char → Bool} {part rest : List Char} (hpart : ∀ c ∈ part, p c = true)
    (hrest : ∀ c ∈ rest.head?, p c = false) : (part ++ rest).dropWhile p = rest := by
  rw [List.dropWhile_append_of_pos hpart]
  cases rest with
  | nil => rfl
  | cons c rest => rw [List.dropWhile_cons_of_neg (by simp [hrest c rfl])]

/-! ### Authorities -/

variable {scheme : String} {host : List Char}

theorem ofList_percentEncode {set : EncodingSet} {t : String} (h : set.IsEncoded t.toList) :
    String.ofList (percentEncode set t.toList) = t := by
  rw [percentEncode_of_isEncoded h, String.ofList_toList]

theorem notMem_of_isEncoded {set : EncodingSet} {t : List Char} (h : set.IsEncoded t) {c : Char}
    (hc : set.encodes c = true) : c ∉ t := by
  intro hmem
  rw [h c hmem] at hc
  contradiction

/-- User name and password are read from what stands before the at sign. -/
theorem readUserinfo_userText (ha : a.IsNormal scheme) :
    readUserinfo (a.username.toList ++ a.password.elim [] fun p => ':' :: p.toList) =
      (a.username, a.password) := by
  have hcolon := notMem_of_isEncoded ha.username (c := ':') (by decide)
  unfold readUserinfo
  cases hpassword : a.password with
  | none =>
    simp only [Option.elim_none, List.append_nil, splitFirst_of_notMem hcolon,
      ofList_percentEncode ha.username]
  | some p =>
    obtain ⟨hne, hencoded⟩ := ha.password p hpassword
    obtain ⟨c, rest, hcons⟩ := List.exists_cons_of_ne_nil fun h => hne (String.toList_eq_nil_iff.mp h)
    have hsplit := splitFirst_append hcolon p.toList
    rw [Option.elim_some, hsplit, hcons]
    dsimp only
    rw [← hcons, ofList_percentEncode ha.username, ofList_percentEncode hencoded]

theorem at_notMem_portText (a : Authority) : '@' ∉ a.portText := by
  rw [Authority.portText]
  cases a.port with
  | none => simp
  | some p =>
    intro hmem
    rcases List.mem_cons.mp hmem with heq | hdigit
    · contradiction
    · have := Nat.isDigit_of_mem_toDigits (by decide) (by decide) hdigit
      contradiction

theorem splitUser_of_notMem {text : List Char} (h : '@' ∉ text) : splitUser text = (none, text) := by
  rw [splitUser, splitLast, splitFirst_of_notMem fun hmem => h (List.mem_reverse.mp hmem)]
  rfl

/-- The user information ends at the last at sign. -/
theorem splitUser_textWith (ha : a.IsNormal scheme) (hhost : '@' ∉ host) :
    ∃ userinfo, splitUser (a.textWith host) = (userinfo, host ++ a.portText) ∧
      readUserinfo (userinfo.getD []) = (a.username, a.password) := by
  have hat : '@' ∉ host ++ a.portText := by
    rw [List.mem_append, not_or]
    exact ⟨hhost, at_notMem_portText a⟩
  by_cases huser : (a.username == "" && a.password.isNone) = true
  · refine ⟨none, ?_, ?_⟩
    · rw [Authority.textWith, Authority.userText, if_pos huser, List.nil_append, splitUser_of_notMem hat]
    · simp only [Bool.and_eq_true, beq_iff_eq, Option.isNone_iff_eq_none] at huser
      rw [huser.1, huser.2]
      decide
  · refine ⟨some (a.username.toList ++ a.password.elim [] fun p => ':' :: p.toList), ?_,
      readUserinfo_userText ha⟩
    have hlast := splitLast_append hat (a.username.toList ++ a.password.elim [] fun p => ':' :: p.toList)
    rw [Authority.textWith, Authority.userText, if_neg huser, List.append_assoc, List.singleton_append,
      splitUser, hlast]

theorem readPort_toDigits {p : UInt16} (h : defaultPort? scheme ≠ some p) :
    readPort scheme (Nat.toDigits 10 p.toNat) = .ok (some p) := by
  have hempty : (Nat.toDigits 10 p.toNat).isEmpty = false := by
    simp [Nat.toDigits_ne_nil]
  have hbound : p.toNat < 65536 := p.toNat_lt
  have hport : p.toNat.toUInt16 = p := by
    rw [Nat.toUInt16, UInt16.ofNat_toNat]
  rw [readPort, hempty, if_neg Bool.false_ne_true, readDigits?_toDigits, Option.filter_some,
    if_pos (decide_eq_true hbound)]
  dsimp only
  rw [hport, if_neg (by simpa using h)]

theorem readAfterHost_portText (ha : a.IsNormal scheme) (h : Host) (beyond : List Char) :
    readAfterHost scheme (a.username, a.password) h a.portText beyond =
      .ok ({ a with host := h }, beyond) := by
  unfold readAfterHost Authority.portText
  cases hport : a.port with
  | none =>
    have hnone : readPort scheme [] = .ok none := rfl
    simp [hnone, Except.map]
  | some p =>
    have hdigits : ∀ c ∈ Nat.toDigits 10 p.toNat, c.isDigit = true := fun c hc =>
      Nat.isDigit_of_mem_toDigits (by decide) (by decide) hc
    have htake := List.takeWhile_eq_self_iff.mpr hdigits
    have hdrop := List.dropWhile_eq_nil_iff.mpr hdigits
    simp [htake, hdrop, readPort_toDigits (ha.port p hport), Except.map]

/-- Host and port are read, and only the host may be refused. -/
theorem readHostAndPort_textWith (hkind : SchemeKind.of scheme = .special) (ha : a.IsNormal scheme)
    (hhost : IsHostText host) {userinfo : Option (List Char)}
    (huser : readUserinfo (userinfo.getD []) = (a.username, a.password)) (beyond : List Char) :
    readHostAndPort scheme userinfo (host ++ a.portText) beyond =
      (Host.readSpecial host).map fun h => ({ a with host := h }, beyond) := by
  have hempty : (host ++ a.portText).isEmpty = false := by
    simp [hhost.ne_nil]
  have hcolon : ∀ c ∈ a.portText.head?, c = ':' := by
    unfold Authority.portText
    cases a.port <;> simp
  have hread : readHost .special host = Host.readSpecial host := by
    unfold readHost
    simp [SchemeKind.isSpecial, hhost.ne_nil]
  unfold readHostAndPort
  rw [hempty, hhost.ends _ hcolon, huser, hkind]
  simp only [Bool.and_false, Bool.false_and, Bool.false_eq_true, if_false, hread]
  cases hresult : Host.readSpecial host with
  | error e => rfl
  | ok h =>
    have hfull := (Host.isSpecial_of_readSpecial hresult).isEmpty_eq_false
    change (if (h.isEmpty && _) = true then _ else _) = _
    rw [hfull, Bool.false_and, if_neg Bool.false_ne_true, readAfterHost_portText ha]
    rfl

/-- No character before the path ends the authority, and none is a blank. -/
theorem authority_chars (ha : a.IsNormal scheme) (hhost : IsHostText host) :
    ∀ c ∈ a.textWith host, endsAuthority .special c = false ∧ 0x20 < c.toNat := by
  have hencoded {t : List Char} (ht : EncodingSet.userinfo.IsEncoded t) :
      ∀ c ∈ t, endsAuthority .special c = false ∧ 0x20 < c.toNat := by
    intro c hc
    have hne (d : Char) (hd : EncodingSet.userinfo.encodes d = true) : c ≠ d := fun heq =>
      notMem_of_isEncoded ht hd (heq ▸ hc)
    refine ⟨?_, lt_toNat_of_encodes (by decide) (ht c hc)⟩
    simp [endsAuthority, endsPath, isSlashOf, hne '?' (by decide), hne '#' (by decide),
      hne '/' (by decide), hne '\\' (by decide)]
  have huser : ∀ c ∈ a.userText, endsAuthority .special c = false ∧ 0x20 < c.toNat := by
    unfold Authority.userText
    split
    · simp
    · intro c hc
      rcases List.mem_append.mp hc with hc | hc
      · rcases List.mem_append.mp hc with hc | hc
        · exact hencoded ha.username c hc
        · cases hpassword : a.password with
          | none => simp [hpassword] at hc
          | some p =>
            rw [hpassword, Option.elim_some, List.mem_cons] at hc
            rcases hc with rfl | hc
            · decide
            · exact hencoded (ha.password p hpassword).2 c hc
      · rw [List.mem_singleton.mp hc]
        decide
  have hport : ∀ c ∈ a.portText, endsAuthority .special c = false ∧ 0x20 < c.toNat := by
    unfold Authority.portText
    cases a.port with
    | none => simp
    | some p =>
      intro c hc
      rcases List.mem_cons.mp hc with rfl | hc
      · decide
      · have hplain := isPlain_of_isDigit (Nat.isDigit_of_mem_toDigits (by decide) (by decide) hc)
        exact ⟨not_endsAuthority_of_isPlain hplain, lt_toNat_of_isPlain hplain⟩
  intro c hc
  rcases List.mem_append.mp hc with hc | hc
  · exact huser c hc
  · rcases List.mem_append.mp hc with hc | hc
    · exact ⟨(hhost.inside c hc).1, hhost.visible c hc⟩
    · exact hport c hc

theorem readAuthority_textWith (hkind : SchemeKind.of scheme = .special) (ha : a.IsNormal scheme)
    (hhost : IsHostText host) {rest : List Char} (hrest : ∀ c ∈ rest.head?, endsAuthority .special c = true) :
    readAuthority scheme (a.textWith host ++ rest) =
      (Host.readSpecial host).map fun h => ({ a with host := h }, rest) := by
  have hinside : ∀ c ∈ a.textWith host, (!endsAuthority .special c) = true := fun c hc => by
    rw [(authority_chars ha hhost c hc).1]
    rfl
  have hends : ∀ c ∈ rest.head?, (!endsAuthority .special c) = false := fun c hc => by
    rw [hrest c hc]
    rfl
  have htake : (a.textWith host ++ rest).takeWhile (!endsAuthority .special ·) = a.textWith host :=
    takeWhile_append_of_head hinside hends
  have hdrop : (a.textWith host ++ rest).dropWhile (!endsAuthority .special ·) = rest :=
    dropWhile_append_of_head hinside hends
  obtain ⟨userinfo, hsplit, huser⟩ := splitUser_textWith ha fun hmem => (hhost.inside '@' hmem).2 rfl
  unfold readAuthority
  rw [hkind]
  dsimp only
  rw [htake, hdrop, hsplit]
  exact readHostAndPort_textWith hkind ha hhost huser rest

/-! ### Paths, queries and fragments -/

theorem toList_render_segments {list : List String} (hne : list ≠ []) :
    (Path.segments list).render.toList = '/' :: Text.join '/' (list.map String.toList) := by
  rw [Path.render]
  induction list with
  | nil => exact absurd rfl hne
  | cons s list ih =>
    rw [List.map_cons, String.join_cons, String.toList_append, String.toList_append]
    cases list with
    | nil => simp [Text.join]
    | cons t more =>
      rw [ih (List.cons_ne_nil t more)]
      simp [Text.join]

/-- A path is read up to its end. -/
theorem readPathAfterAuthority_render {list : List String} (h : IsNormalPath list) :
    readPathAfterAuthority .special (Path.segments list).render.toList = .segments list := by
  have hne : list.map String.toList ≠ [] := by simp [h.ne_nil]
  have hsegment : ∀ s ∈ list.map String.toList, IsSegment s := by
    intro s hs
    obtain ⟨t, ht, rfl⟩ := List.mem_map.mp hs
    exact h.segments t ht
  have hslash : ∀ s ∈ list.map String.toList, ∀ c ∈ s, isSlashOf .special c = false :=
    fun s hs => (hsegment s hs).slashless
  have hread := readBelow_join [] hne hslash (fun s hs => (hsegment s hs).encoded)
    fun s hs => (hsegment s hs).dotless
  rw [toList_render_segments h.ne_nil, readPathAfterAuthority]
  simp only [isSlashOf, beq_self_eq_true, Bool.true_or, if_true]
  rw [hread]
  simp [Function.comp_def]

/-- No character of a path ends it, and none is a blank. -/
theorem path_chars {list : List String} (h : IsNormalPath list) :
    ∀ c ∈ (Path.segments list).render.toList, endsPath c = false ∧ 0x20 < c.toNat := by
  rw [toList_render_segments h.ne_nil]
  intro c hc
  rcases List.mem_cons.mp hc with rfl | hc
  · decide
  · rcases mem_join hc with rfl | ⟨s, hs, hcs⟩
    · decide
    · obtain ⟨t, ht, rfl⟩ := List.mem_map.mp hs
      have hencoded := (h.segments t ht).encoded
      have hne (d : Char) (hd : EncodingSet.path.encodes d = true) : c ≠ d := fun heq =>
        notMem_of_isEncoded hencoded hd (heq ▸ hcs)
      refine ⟨?_, lt_toNat_of_encodes (by decide) (hencoded c hcs)⟩
      simp [endsPath, hne '?' (by decide), hne '#' (by decide)]

theorem readFragment_toList {f : String} (h : EncodingSet.fragment.IsEncoded f.toList) :
    readFragment f.toList = f := ofList_percentEncode h

theorem readTail_text (h : u.IsNormal) :
    readTail .special (u.queryText ++ u.fragmentText) = (u.query, u.fragment) := by
  unfold queryText fragmentText
  cases hquery : u.query with
  | none =>
    cases hfragment : u.fragment with
    | none => rfl
    | some f =>
      simp only [Option.elim_none, Option.elim_some, List.nil_append, readTail,
        readFragment_toList (h.fragment f hfragment)]
  | some q =>
    have hencoded := h.query q hquery
    have hmark : ∀ c ∈ q.toList, (c != '#') = true := fun c hc => by
      have hne : c ≠ '#' := fun heq => notMem_of_isEncoded hencoded (by decide) (heq ▸ hc)
      simpa using hne
    cases hfragment : u.fragment with
    | none =>
      simp only [Option.elim_none, Option.elim_some, List.append_nil, readTail, SchemeKind.isSpecial,
        if_true, List.takeWhile_eq_self_iff.mpr hmark, List.dropWhile_eq_nil_iff.mpr hmark,
        ofList_percentEncode hencoded]
    | some f =>
      have hends : ∀ c ∈ ('#' :: f.toList).head?, (c != '#') = false := by simp
      simp only [Option.elim_some, List.cons_append, readTail, SchemeKind.isSpecial, if_true,
        takeWhile_append_of_head hmark hends, dropWhile_append_of_head hmark hends,
        ofList_percentEncode hencoded, readFragment_toList (h.fragment f hfragment)]

/-- What follows the path begins with a mark, and holds no blanks. -/
theorem tail_chars (h : u.IsNormal) :
    (∀ c ∈ (u.queryText ++ u.fragmentText).head?, endsPath c = true) ∧
      ∀ c ∈ u.queryText ++ u.fragmentText, 0x20 < c.toNat := by
  have hfragment : ∀ c ∈ u.fragmentText, 0x20 < c.toNat := by
    unfold fragmentText
    cases hfragment : u.fragment with
    | none => simp
    | some f =>
      intro c hc
      rcases List.mem_cons.mp hc with rfl | hc
      · decide
      · exact lt_toNat_of_encodes (by decide) (h.fragment f hfragment c hc)
  unfold queryText
  cases hquery : u.query with
  | none =>
    refine ⟨?_, by simpa using hfragment⟩
    unfold fragmentText
    cases u.fragment <;> simp [endsPath]
  | some q =>
    refine ⟨by simp [endsPath], fun c hc => ?_⟩
    rcases List.mem_append.mp hc with hc | hc
    · rcases List.mem_cons.mp hc with rfl | hc
      · decide
      · exact lt_toNat_of_encodes (by decide) (h.query q hquery c hc)
    · exact hfragment c hc

/-! ### Whole URLs -/

theorem readWithAuthority_textWith (h : u.IsNormal) (ha : u.authority = some a) (hhost : IsHostText host) :
    readWithAuthority u.scheme (a.textWith host ++ (u.pathText.toList ++ (u.queryText ++ u.fragmentText))) =
      (Host.readSpecial host).map fun h => { u with authority := some { a with host := h } } := by
  obtain ⟨list, hpath, hlist⟩ := h.path
  obtain ⟨a', ha', hnormal, -⟩ := h.authority
  cases ha.symm.trans ha'
  obtain ⟨htail, -⟩ := tail_chars h
  have hkind : SchemeKind.of u.scheme = .special := h.kind
  have hpathText : u.pathText.toList = (Path.segments list).render.toList := by rw [pathText, hpath]
  have hinside : ∀ c ∈ u.pathText.toList, (!endsPath c) = true := fun c hc => by
    rw [hpathText] at hc
    rw [(path_chars hlist c hc).1]
    rfl
  have hends : ∀ c ∈ (u.queryText ++ u.fragmentText).head?, (!endsPath c) = false := fun c hc => by
    rw [htail c hc]
    rfl
  have hrest : ∀ c ∈ (u.pathText.toList ++ (u.queryText ++ u.fragmentText)).head?,
      endsAuthority .special c = true := by
    rw [hpathText, toList_render_segments hlist.ne_nil]
    simp [endsAuthority, isSlashOf]
  unfold readWithAuthority
  rw [readAuthority_textWith hkind hnormal hhost hrest, hkind]
  cases Host.readSpecial host with
  | error e => rfl
  | ok found =>
    have htake := takeWhile_append_of_head hinside hends
    have hdrop := dropWhile_append_of_head hinside hends
    have hread : readPathAfterAuthority .special u.pathText.toList = u.path := by
      rw [hpathText, readPathAfterAuthority_render hlist, hpath]
    simp only [Except.map, bind, Except.bind, pure, Except.pure, htake, hdrop, hread, readTail_text h]

/-- A scheme as it is written: letters in lower case, and no blanks. -/
def isScheme (s : List Char) : Bool :=
  s.head?.any Char.isAlpha && s.all isSchemeChar && lower s == s && s.all fun c => 0x20 < c.toNat

theorem isScheme_of_special (hkind : SchemeKind.of scheme = .special) : isScheme scheme.toList = true := by
  have hall : ∀ s ∈ ["http", "https", "ws", "wss", "ftp"], isScheme s.toList = true := by decide
  unfold SchemeKind.of at hkind
  split at hkind
  · contradiction
  · split at hkind
    next hmem => exact hall scheme (List.contains_iff_mem.mp hmem)
    next => contradiction

theorem splitScheme_append (hkind : SchemeKind.of scheme = .special) (rest : List Char) :
    splitScheme (scheme.toList ++ ':' :: rest) = some (scheme, rest) := by
  have hscheme := isScheme_of_special hkind
  simp only [isScheme, Bool.and_eq_true, beq_iff_eq] at hscheme
  obtain ⟨⟨⟨halpha, hchars⟩, hlower⟩, -⟩ := hscheme
  have hcolon : ':' ∉ scheme.toList := by
    intro hmem
    have := List.all_eq_true.mp hchars ':' hmem
    contradiction
  rw [splitScheme, splitFirst_append hcolon]
  cases hcons : scheme.toList with
  | nil => simp [hcons] at halpha
  | cons first tail =>
    rw [hcons] at halpha hchars hlower
    have hfirst : first.isAlpha = true := by simpa using halpha
    have htail : tail.all isSchemeChar = true := (Bool.and_eq_true_iff.mp hchars).2
    dsimp only
    rw [hfirst, htail, hlower, ← hcons, String.ofList_toList]
    rfl

/-- Every character of the text of a URL is visible. -/
theorem visible_textWith (h : u.IsNormal) (ha : a.IsNormal u.scheme) (hhost : IsHostText host) :
    ∀ c ∈ u.textWith a host, 0x20 < c.toNat := by
  have hscheme := isScheme_of_special h.kind
  simp only [isScheme, Bool.and_eq_true, List.all_eq_true, decide_eq_true_eq] at hscheme
  obtain ⟨list, hpath, hlist⟩ := h.path
  have hpathText : ∀ c ∈ u.pathText.toList, 0x20 < c.toNat := by
    rw [pathText, hpath]
    exact fun c hc => (path_chars hlist c hc).2
  intro c hc
  rcases List.mem_append.mp hc with hc | hc
  · exact hscheme.2 c hc
  · simp only [List.mem_cons, List.mem_append] at hc
    rcases hc with rfl | rfl | rfl | hc | hc | hc
    · decide
    · decide
    · decide
    · exact (authority_chars ha hhost c hc).2
    · exact hpathText c hc
    · exact (tail_chars h).2 c (List.mem_append.mpr hc)

/-- Reading the text of a URL gives the URL, with the host that is read from the text in its place. -/
theorem parse_textWith (h : u.IsNormal) (ha : u.authority = some a) (hhost : IsHostText host) {text : String}
    (htext : text.toList = u.textWith a host) :
    parse text = (Host.readSpecial host).map fun h => { u with authority := some { a with host := h } } := by
  obtain ⟨a', ha', hnormal, -⟩ := h.authority
  cases ha.symm.trans ha'
  have hclean : clean text = text.toList := clean_of_visible fun c hc => by
    rw [htext] at hc
    exact visible_textWith h hnormal hhost c hc
  have hslashes : ('/' :: '/' :: (a.textWith host ++
      (u.pathText.toList ++ (u.queryText ++ u.fragmentText)))).dropWhile isSlash =
        a.textWith host ++ (u.pathText.toList ++ (u.queryText ++ u.fragmentText)) := by
    have hne : a.textWith host ≠ [] := by simp [Authority.textWith, hhost.ne_nil]
    obtain ⟨c, rest, hcons⟩ := List.exists_cons_of_ne_nil hne
    have hc := (authority_chars hnormal hhost c (hcons ▸ List.mem_cons_self)).1
    simp only [endsAuthority, isSlashOf, SchemeKind.isSpecial, Bool.true_and, Bool.or_eq_false_iff] at hc
    have hslash : isSlash c = false := by
      rw [isSlash, hc.2.1, hc.2.2]
      rfl
    rw [hcons, List.cons_append, List.dropWhile_cons_of_pos (by decide),
      List.dropWhile_cons_of_pos (by decide), List.dropWhile_cons_of_neg (by simp [hslash])]
  have hkind : SchemeKind.of u.scheme = .special := h.kind
  rw [parse, hclean, htext, textWith, readAgainst, splitScheme_append hkind]
  dsimp only
  rw [readWithScheme, hkind]
  dsimp only [Option.filter_none]
  rw [hslashes]
  exact readWithAuthority_textWith h ha hhost

/-- A URL is read back from its text, if the labels of its host can be read. -/
theorem parse_render (h : u.IsNormal) (ha : u.authority = some a) :
    parse u.render = if a.host.isReadable then .ok u else .error .invalidDomainName := by
  obtain ⟨a', ha', hnormal, hspecial⟩ := h.authority
  cases ha.symm.trans ha'
  rw [parse_textWith h ha (isHostText_render hspecial) (toList_render ha), hspecial.readSpecial_render]
  split
  · have hsame : { u with authority := some { a with host := a.host } } = u := by rw [← ha]
    rw [Except.map, hsame]
  · rfl

end KeyApproval.Url
