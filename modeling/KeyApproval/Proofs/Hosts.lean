import KeyApproval.Proofs.Addresses
import KeyApproval.Url.Parser

/-!
# Hosts read back

The text of a host that was read leads back to the host. The exception are names with a label that is too
long in Punycode: they are refused as names when their text is read.
-/

namespace KeyApproval.Url

open Text

/-! ### Texts without percent signs -/

theorem percentDecode_cons {b : UInt8} (h : b ≠ 0x25) (bytes : List UInt8) :
    percentDecode (b :: bytes) = b :: percentDecode bytes := by
  cases bytes with
  | nil => rfl
  | cons second bytes =>
    cases bytes with
    | nil => rfl
    | cons third bytes =>
      rw [percentDecode, beq_false_of_ne h]

theorem percentDecode_of_notMem {bytes : List UInt8} (h : 0x25 ∉ bytes) : percentDecode bytes = bytes := by
  induction bytes with
  | nil => rfl
  | cons b bytes ih =>
    rw [percentDecode_cons fun heq => h (heq ▸ List.mem_cons_self),
      ih fun hmem => h (List.mem_cons_of_mem b hmem)]

theorem eq_percent_of_mem_encodeChar {c : Char} (h : 0x25 ∈ Utf8.encodeChar c) : c = '%' := by
  have hlong {b : UInt8} {mark room n : Nat} (hb : Utf8.Holds mark room b n) (hmark : 0x80 ≤ mark) :
      0x25 ≠ b := by
    intro heq
    have hvalue := hb.value
    rw [← heq] at hvalue
    change 37 = mark + n at hvalue
    omega
  have hsequence := Utf8.isSequence_encodeChar c
  generalize Utf8.encodeChar c = bytes at h hsequence
  cases hsequence with
  | one ha =>
    have hvalue := ha.value
    rw [← List.mem_singleton.mp h, Nat.zero_add] at hvalue
    exact Char.toNat_inj.mp hvalue.symm
  | two ha hb =>
    simp [hlong ha (by decide), hlong hb (by decide)] at h
  | three ha hb hc =>
    simp [hlong ha (by decide), hlong hb (by decide), hlong hc (by decide)] at h
  | four ha hb hc hd =>
    simp [hlong ha (by decide), hlong hb (by decide), hlong hc (by decide), hlong hd (by decide)] at h

theorem percentDecode_encode {s : List Char} (h : '%' ∉ s) :
    percentDecode (Utf8.encode s) = Utf8.encode s := by
  refine percentDecode_of_notMem fun hmem => ?_
  obtain ⟨c, hc, hbyte⟩ := List.mem_flatMap.mp hmem
  exact h (eq_percent_of_mem_encodeChar hbyte ▸ hc)

namespace Host

/-- Whether no label is too long to be read. -/
def isReadable : Host → Bool
  | name text => (split '.' text.toList).all Domain.isReadable
  | ipv4 _ | ipv6 _ => true

/-- The hosts of URLs with special schemes. -/
inductive IsSpecial : Host → Prop where
  | name {bytes : List UInt8} {text : List Char} (h : Domain.toAscii? bytes = some text) (hne : text ≠ [])
      (hname : endsInNumber text = false) : IsSpecial (name (String.ofList text))
  | ipv4 (address : UInt32) : IsSpecial (ipv4 address)
  | ipv6 {pieces : List Nat} (h : IsIpv6 pieces) : IsSpecial (ipv6 pieces)

variable {host : Host} {s : List Char}

theorem isSpecial_of_readBracketed (h : readBracketed s = .ok host) : host.IsSpecial := by
  unfold readBracketed at h
  split at h
  · split at h
    next pieces hpieces =>
      cases h
      exact .ipv6 (isIpv6_of_readIpv6? hpieces)
    next => contradiction
  · contradiction

theorem isSpecial_of_readSpecial (h : readSpecial s = .ok host) : host.IsSpecial := by
  unfold readSpecial at h
  split at h
  · exact isSpecial_of_readBracketed h
  · split at h
    · contradiction
    · contradiction
    next text hne htext =>
      split at h
      · split at h
        next address _ =>
          cases h
          exact .ipv4 address
        next => contradiction
      next hnumber =>
        cases h
        exact .name htext hne (Bool.eq_false_iff.mpr hnumber)

theorem IsSpecial.isEmpty_eq_false (h : host.IsSpecial) : host.isEmpty = false := by
  cases h with
  | name h hne =>
    refine beq_false_of_ne fun hempty => hne ?_
    rw [← String.toList_inj, String.toList_ofList] at hempty
    exact hempty
  | ipv4 => rfl
  | ipv6 => rfl

/-! ### What a host's text is made of -/

/-- A text without characters that mean something in a URL. -/
structure IsFree (s : List Char) : Prop where
  ne_nil : s ≠ []
  free : ∀ c ∈ s, Domain.isForbidden c = false

theorem isFree_writeIpv4 (address : UInt32) : IsFree (writeIpv4 address).toList := by
  have hchar : ∀ c ∈ (writeIpv4 address).toList, c = '.' ∨ isPlain c = true := by
    intro c hc
    rw [toList_writeIpv4] at hc
    refine (mem_join hc).imp_right ?_
    rintro ⟨part, hpart, hmem⟩
    exact isPlain_of_isDigit ((isDigit_of_mem_octets part hpart).2 c hmem)
  refine ⟨fun hnil => ?_, fun c hc => ?_⟩
  · have hsplit := split_writeIpv4 address
    rw [hnil] at hsplit
    have hlength := congrArg List.length hsplit
    simp [split, splitWhere, octets] at hlength
  · rcases hchar c hc with rfl | hplain
    · decide
    · exact Domain.isForbidden_of_isPlain hplain

theorem isPlain_of_mem_writeIpv6 {pieces : List Nat} {c : Char} (h : c ∈ (writeIpv6 pieces).toList) :
    isPlain c = true ∨ c = ':' := by
  have hpieces (l : List Nat) (hc : c ∈ (writePieces l).toList) : isPlain c = true ∨ c = ':' := by
    rw [toList_writePieces] at hc
    rcases mem_join hc with hcolon | ⟨part, hpart, hmem⟩
    · exact .inr hcolon
    · obtain ⟨n, -, rfl⟩ := List.mem_map.mp hpart
      exact .inl ((isPlain_ofNat n).2 c hmem)
  rw [writeIpv6] at h
  split at h
  · exact hpieces _ h
  · simp only [String.toList_append, List.mem_append] at h
    rcases h with (hfront | hcolons) | hback
    · exact hpieces _ hfront
    · right
      simpa using hcolons
    · exact hpieces _ hback

/-- The text of a host is free of separators, or stands in brackets. -/
theorem IsSpecial.render_spec (h : host.IsSpecial) :
    IsFree host.render.toList ∨
      ∃ inner, host.render.toList = '[' :: (inner ++ [']']) ∧ ∀ c ∈ inner, isPlain c = true ∨ c = ':' := by
  cases h with
  | name h hne =>
    left
    rw [render, String.toList_ofList]
    exact ⟨hne, Domain.isForbidden_eq_false_of_toAscii? h⟩
  | ipv4 address => exact .inl (isFree_writeIpv4 address)
  | @ipv6 pieces h =>
    refine .inr ⟨(writeIpv6 pieces).toList, ?_, fun c hc => isPlain_of_mem_writeIpv6 hc⟩
    simp [render]

/-! ### Reading a host's text -/

theorem IsFree.percentDecode_encode (h : IsFree s) : percentDecode (Utf8.encode s) = Utf8.encode s := by
  refine Url.percentDecode_encode fun hmem => ?_
  have := h.free '%' hmem
  contradiction

theorem IsFree.readSpecial_of_none (h : IsFree s) (hname : Domain.toAscii? (Utf8.encode s) = none) :
    readSpecial s = .error .invalidDomainName := by
  unfold readSpecial
  split
  next rest =>
    have := h.free '[' List.mem_cons_self
    contradiction
  next => rw [h.percentDecode_encode, hname]

theorem IsFree.readSpecial_of_some (h : IsFree s) (hname : Domain.toAscii? (Utf8.encode s) = some s) :
    readSpecial s =
      if endsInNumber s then (readIpv4? s).elim (.error .invalidIpv4) fun address => .ok (ipv4 address)
      else .ok (name (String.ofList s)) := by
  unfold readSpecial
  split
  next rest =>
    have := h.free '[' List.mem_cons_self
    contradiction
  next =>
    rw [h.percentDecode_encode, hname]
    split
    · contradiction
    next heq => exact absurd (Option.some.inj heq) h.ne_nil
    next domain _ heq =>
      rw [← Option.some.inj heq]
      cases readIpv4? s <;> rfl

theorem readBracketed_append {inner : List Char} {pieces : List Nat} (h : readIpv6? inner = some pieces) :
    readBracketed (inner ++ [']']) = .ok (ipv6 pieces) := by
  rw [readBracketed, List.reverse_append, List.reverse_singleton, List.singleton_append]
  simp only [List.reverse_reverse, h]

/-- A host is read back from its text, if its labels can be read. -/
theorem IsSpecial.readSpecial_render (h : host.IsSpecial) :
    readSpecial host.render.toList = if host.isReadable then .ok host else .error .invalidDomainName := by
  cases h with
  | @name bytes text h hne hname =>
    have hfree : IsFree text := ⟨hne, Domain.isForbidden_eq_false_of_toAscii? h⟩
    have hagain := Domain.toAscii?_encode h
    rw [render, isReadable, String.toList_ofList]
    split
    next hreadable =>
      rw [if_pos hreadable] at hagain
      rw [hfree.readSpecial_of_some hagain, hname]
      rfl
    next hlong =>
      rw [if_neg hlong] at hagain
      exact hfree.readSpecial_of_none hagain
  | ipv4 address =>
    have hname : Domain.toAscii? (Utf8.encode (writeIpv4 address).toList) =
        some (writeIpv4 address).toList := by
      rw [toList_writeIpv4]
      exact Domain.toAscii?_of_isDigit (by simp [octets]) fun part hpart =>
        (isDigit_of_mem_octets part hpart).2
    rw [render, (isFree_writeIpv4 address).readSpecial_of_some hname, endsInNumber_writeIpv4,
      readIpv4?_writeIpv4]
    rfl
  | @ipv6 pieces h =>
    have htext : (Host.ipv6 pieces).render.toList = '[' :: ((writeIpv6 pieces).toList ++ [']']) := by
      simp [render]
    rw [htext, readSpecial]
    exact readBracketed_append (readIpv6?_writeIpv6 h)

end Host

end KeyApproval.Url
