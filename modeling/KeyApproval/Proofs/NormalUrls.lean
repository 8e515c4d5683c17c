import KeyApproval.Proofs.BaseUrl
import KeyApproval.Proofs.Hosts

/-!
# URLs in normal form

What the parts of a URL hold once it has been read: encoded texts, segments that are no dots, a host that is
known, and no port that goes without saying.
-/

namespace KeyApproval.Url

open Text

structure Authority.IsNormal (scheme : String) (a : Authority) : Prop where
  username : EncodingSet.userinfo.IsEncoded a.username.toList
  password : ∀ p, a.password = some p → p ≠ "" ∧ EncodingSet.userinfo.IsEncoded p.toList
  port : ∀ p, a.port = some p → defaultPort? scheme ≠ some p

/-- A segment as it stands in a path: encoded, without slashes, and no dots. -/
structure IsSegment (s : List Char) : Prop where
  encoded : EncodingSet.path.IsEncoded s
  slashless : ∀ c ∈ s, isSlashOf .special c = false
  dotless : IsDotless s

variable {scheme : String} {s : List Char} {u : Url}

theorem exists_of_bind_eq_ok {ε α β : Type} {x : Except ε α} {f : α → Except ε β} {b : β}
    (h : x.bind f = .ok b) : ∃ a, x = .ok a ∧ f a = .ok b := by
  cases x with
  | error e => cases h
  | ok a => exact ⟨a, rfl, h⟩

theorem exists_of_map_eq_ok {ε α β : Type} {x : Except ε α} {f : α → β} {b : β}
    (h : x.map f = .ok b) : ∃ a, x = .ok a ∧ f a = b := by
  cases x with
  | error e => cases h
  | ok a => exact ⟨a, rfl, Except.ok.inj h⟩

theorem percentEncode_ne_nil (set : EncodingSet) (hne : s ≠ []) : percentEncode set s ≠ [] := by
  obtain ⟨c, rest, rfl⟩ := List.exists_cons_of_ne_nil hne
  rw [percentEncode, List.flatMap_cons]
  split
  · have hbytes : Utf8.encodeChar c ≠ [] := by
      unfold Utf8.encodeChar
      dsimp only
      repeat' split
      all_goals simp
    obtain ⟨b, bytes, hcons⟩ := List.exists_cons_of_ne_nil hbytes
    simp [hcons, encodeByte]
  · simp

theorem readUserinfo_spec (s : List Char) :
    EncodingSet.userinfo.IsEncoded (readUserinfo s).1.toList ∧
      ∀ p, (readUserinfo s).2 = some p → p ≠ "" ∧ EncodingSet.userinfo.IsEncoded p.toList := by
  have hencoded (t : List Char) :
      EncodingSet.userinfo.IsEncoded (String.ofList (percentEncode .userinfo t)).toList := by
    rw [String.toList_ofList]
    exact isEncoded_percentEncode (by decide) t
  unfold readUserinfo
  dsimp only
  split
  · exact ⟨hencoded s, by simp⟩
  next user _ => exact ⟨hencoded user, by simp⟩
  next user password hne _ =>
    refine ⟨hencoded user, ?_⟩
    intro p hp
    cases hp
    refine ⟨fun hempty => ?_, hencoded password⟩
    rw [← String.toList_inj, String.toList_ofList] at hempty
    exact percentEncode_ne_nil .userinfo hne hempty

theorem readPort_spec {digits : List Char} {port : Option UInt16} (h : readPort scheme digits = .ok port) :
    ∀ p, port = some p → defaultPort? scheme ≠ some p := by
  rw [readPort] at h
  split at h
  · cases h
    simp
  · split at h
    · contradiction
    next n _ =>
      cases h
      intro p hp
      split at hp
      · contradiction
      next hdefault =>
        cases hp
        simpa using hdefault

theorem isSpecial_of_readHost {host : Host} (h : readHost .special s = .ok host) : host.IsSpecial := by
  unfold readHost at h
  split at h
  · split at h
    · contradiction
    · exact Host.isSpecial_of_readSpecial h
  · contradiction

theorem readAuthority_spec (hkind : SchemeKind.of scheme = .special) {a : Authority} {rest : List Char}
    (h : readAuthority scheme s = .ok (a, rest)) : a.IsNormal scheme ∧ a.host.IsSpecial := by
  unfold readAuthority readHostAndPort at h
  dsimp only at h
  rw [hkind] at h
  split at h
  · contradiction
  · obtain ⟨host, hhost, h⟩ := exists_of_bind_eq_ok h
    split at h
    · contradiction
    · unfold readAfterHost at h
      dsimp only at h
      split at h
      · obtain ⟨port, hport, hresult⟩ := exists_of_map_eq_ok h
        cases hresult
        obtain ⟨husername, hpassword⟩ := readUserinfo_spec _
        exact ⟨⟨husername, hpassword, readPort_spec hport⟩, isSpecial_of_readHost hhost⟩
      · contradiction

/-! ### Paths -/

theorem isSegment_nil : IsSegment [] := by
  refine ⟨fun c hc => ?_, fun c hc => ?_, rfl, rfl⟩
  · cases hc
  · cases hc

theorem mem_shorten {path : List (List Char)} {s : List Char} (h : s ∈ shorten path) : s ∈ path := by
  unfold shorten at h
  split at h
  · exact h
  · split at h
    · exact h
    · exact List.mem_cons_of_mem _ h

theorem isSegment_addSegments {path segments : List (List Char)} (hpath : ∀ s ∈ path, IsSegment s)
    (hencoded : ∀ s ∈ segments, EncodingSet.path.IsEncoded s)
    (hslash : ∀ s ∈ segments, ∀ c ∈ s, isSlashOf .special c = false) :
    ∀ s ∈ addSegments path segments, IsSegment s := by
  induction segments generalizing path with
  | nil =>
    rw [addSegments]
    exact hpath
  | cons segment rest ih =>
    have hnext : ∀ s ∈ (if isDoubleDot segment then shorten path
        else if isSingleDot segment then path else segment :: path), IsSegment s := by
      split
      · exact fun s hs => hpath s (mem_shorten hs)
      next hdouble =>
        split
        · exact hpath
        next hsingle =>
          refine List.forall_mem_cons.mpr ⟨⟨hencoded segment List.mem_cons_self,
            hslash segment List.mem_cons_self, ?_⟩, hpath⟩
          exact ⟨Bool.eq_false_iff.mpr hsingle, Bool.eq_false_iff.mpr hdouble⟩
    rw [addSegments]
    split
    · exact List.forall_mem_cons.mpr ⟨isSegment_nil, hnext⟩
    · exact ih hnext (fun s hs => hencoded s (List.mem_cons_of_mem segment hs))
        fun s hs => hslash s (List.mem_cons_of_mem segment hs)

theorem addSegments_ne_nil {segments : List (List Char)} (h : segments ≠ []) (path : List (List Char)) :
    addSegments path segments ≠ [] := by
  induction segments generalizing path with
  | nil => exact absurd rfl h
  | cons segment rest ih =>
    rw [addSegments]
    split
    · simp
    next hplain =>
      cases rest with
      | nil =>
        simp only [List.isEmpty_nil, Bool.true_and, Bool.or_eq_true, not_or] at hplain
        rw [addSegments, if_neg hplain.1, if_neg hplain.2]
        simp
      | cons next more => exact ih (by simp) _

/-- A path in normal form has a segment, and is made of segments. -/
structure IsNormalPath (list : List String) : Prop where
  ne_nil : list ≠ []
  segments : ∀ s ∈ list, IsSegment s.toList

theorem isNormalPath_readBelow {front : List String} (hfront : ∀ t ∈ front, IsSegment t.toList)
    (s : List Char) : ∃ list, readBelow .special front s = .segments list ∧ IsNormalPath list := by
  have hslash : ∀ part ∈ encodedSegments .special s, ∀ c ∈ part, isSlashOf .special c = false := by
    intro part hpart c hc
    obtain ⟨raw, hraw, rfl⟩ := List.mem_map.mp hpart
    rcases mem_percentEncode hc with hdigit | ⟨hmem, -⟩
    · have hall : ('%' :: Hex.upperDigits).all (!isSlashOf .special ·) = true := by decide
      simpa using List.all_eq_true.mp hall c hdigit
    · exact (of_mem_splitWhere hraw c hmem).1
  have hencoded : ∀ part ∈ encodedSegments .special s, EncodingSet.path.IsEncoded part := by
    intro part hpart
    obtain ⟨raw, -, rfl⟩ := List.mem_map.mp hpart
    exact isEncoded_percentEncode (by decide) raw
  have hne : encodedSegments .special s ≠ [] := by
    rw [encodedSegments, ne_eq, List.map_eq_nil_iff]
    exact splitWhere_ne_nil _ s
  refine ⟨_, rfl, ?_, fun t ht => ?_⟩
  · rw [ne_eq, List.map_eq_nil_iff, List.reverse_eq_nil_iff]
    exact addSegments_ne_nil hne _
  · obtain ⟨part, hpart, rfl⟩ := List.mem_map.mp ht
    rw [String.toList_ofList]
    refine isSegment_addSegments (fun t ht => ?_) hencoded hslash part (List.mem_reverse.mp hpart)
    obtain ⟨t, hmem, rfl⟩ := List.mem_map.mp (List.mem_reverse.mp ht)
    exact hfront t hmem

theorem isNormalPath_readPathAfterAuthority (s : List Char) :
    ∃ list, readPathAfterAuthority .special s = .segments list ∧ IsNormalPath list := by
  unfold readPathAfterAuthority
  split
  · refine ⟨[""], rfl, by simp, ?_⟩
    rw [List.forall_mem_singleton]
    exact isSegment_nil
  · split
    · exact isNormalPath_readBelow (by simp) _
    · exact isNormalPath_readBelow (by simp) _

/-! ### Query and fragment -/

theorem isEncoded_readFragment (s : List Char) : EncodingSet.fragment.IsEncoded (readFragment s).toList := by
  rw [readFragment, String.toList_ofList]
  exact isEncoded_percentEncode (by decide) s

theorem readTail_spec (s : List Char) :
    (∀ q, (readTail .special s).1 = some q → EncodingSet.specialQuery.IsEncoded q.toList) ∧
      ∀ f, (readTail .special s).2 = some f → EncodingSet.fragment.IsEncoded f.toList := by
  have hquery (t : List Char) :
      EncodingSet.specialQuery.IsEncoded (String.ofList (percentEncode .specialQuery t)).toList := by
    rw [String.toList_ofList]
    exact isEncoded_percentEncode (by decide) t
  unfold readTail
  split
  · refine ⟨by simp, fun f hf => ?_⟩
    cases hf
    exact isEncoded_readFragment _
  · dsimp only [SchemeKind.isSpecial]
    split
    · refine ⟨fun q hq => ?_, fun f hf => ?_⟩
      · cases hq
        exact hquery _
      · cases hf
        exact isEncoded_readFragment _
    · refine ⟨fun q hq => ?_, by simp⟩
      cases hq
      exact hquery _
  · simp

/-! ### Whole URLs -/

/-- A URL of a special scheme in normal form. -/
structure IsNormal (u : Url) : Prop where
  kind : u.kind = .special
  authority : ∃ a, u.authority = some a ∧ a.IsNormal u.scheme ∧ a.host.IsSpecial
  path : ∃ list, u.path = .segments list ∧ IsNormalPath list
  query : ∀ q, u.query = some q → EncodingSet.specialQuery.IsEncoded q.toList
  fragment : ∀ f, u.fragment = some f → EncodingSet.fragment.IsEncoded f.toList

theorem isNormal_of_readWithAuthority (hkind : SchemeKind.of scheme = .special)
    (h : readWithAuthority scheme s = .ok u) : u.IsNormal := by
  unfold readWithAuthority at h
  obtain ⟨⟨a, rest⟩, hread, hresult⟩ := exists_of_bind_eq_ok h
  rw [hkind] at hresult
  cases hresult
  obtain ⟨ha, hhost⟩ := readAuthority_spec hkind hread
  obtain ⟨hquery, hfragment⟩ := readTail_spec (rest.dropWhile (!endsPath ·))
  exact ⟨hkind, ⟨a, rfl, ha, hhost⟩, isNormalPath_readPathAfterAuthority _, hquery, hfragment⟩

theorem scheme_of_rooted (base : Option Url) (text : List Char) : (readFile.rooted base text).scheme = "file" := by
  unfold readFile.rooted
  dsimp only
  split
  · rfl
  · split
    · rfl
    · split <;> rfl

theorem scheme_of_readFile {base : Option Url} (hbase : ∀ b ∈ base, b.scheme = "file")
    (h : readFile base s = .ok u) : u.scheme = "file" := by
  unfold readFile at h
  split at h
  · cases h
    cases base with
    | none => rfl
    | some b => exact hbase b rfl
  · split at h
    · split at h
      · split at h
        · unfold readFileAfterSlashes at h
          obtain ⟨found, -, hresult⟩ := exists_of_bind_eq_ok h
          cases hresult
          rfl
        · cases h
          exact scheme_of_rooted base _
      · cases h
        exact scheme_of_rooted base _
    · split at h
      · cases h
        rfl
      · next b =>
        have hb : b.scheme = "file" := hbase b rfl
        split_ifs at h
        · cases h
          exact hb
        · cases h
          exact hb
        · cases h
          rfl
        · cases h
          rfl

theorem scheme_of_readOther (h : readOther scheme s = .ok u) : u.scheme = scheme := by
  unfold readOther at h
  dsimp only at h
  split at h
  · unfold readWithAuthority at h
    obtain ⟨found, -, hresult⟩ := exists_of_bind_eq_ok h
    cases hresult
    rfl
  · cases h
    rfl
  · cases h
    rfl

/-- Reading gives URLs in normal form. -/
theorem isNormal_of_parse {text : String} (h : parse text = .ok u) (hspecial : u.kind = .special) :
    u.IsNormal := by
  unfold parse readAgainst at h
  split at h
  next scheme rest _ =>
    unfold readWithScheme at h
    split at h
    · rw [kind, scheme_of_readFile (by simp) h] at hspecial
      contradiction
    next hother =>
      rw [kind, scheme_of_readOther h, hother] at hspecial
      contradiction
    next hkind => exact isNormal_of_readWithAuthority hkind h
  next => contradiction

end KeyApproval.Url
