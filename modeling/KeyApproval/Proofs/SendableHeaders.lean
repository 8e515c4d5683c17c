import KeyApproval.Client.Transmission
import KeyApproval.Proofs.JsonStrings

/-!
# Headers that can be sent

What the bytes of a header must be like to be sent, and that the check before sending refuses the first header
that is not so. The check looks at characters; since the bytes of characters beyond ASCII are beyond ASCII
themselves, it is the same to look at bytes.
-/

namespace KeyApproval

namespace Http

open Text.Utf8

/-! ### Bytes -/

/-- A letter, a digit or one of the marks that a token may hold. -/
def IsTokenByte (b : UInt8) : Prop :=
  (0x30 ≤ b.toNat ∧ b.toNat ≤ 0x39) ∨ (0x41 ≤ b.toNat ∧ b.toNat ≤ 0x5A) ∨ (0x61 ≤ b.toNat ∧ b.toNat ≤ 0x7A) ∨
    b ∈ [0x21, 0x23, 0x24, 0x25, 0x26, 0x27, 0x2A, 0x2B, 0x2D, 0x2E, 0x5E, 0x5F, 0x60, 0x7C, 0x7E]

instance (b : UInt8) : Decidable (IsTokenByte b) :=
  inferInstanceAs (Decidable (_ ∨ _))

/-- All but the control characters of ASCII, of which only the tab may be sent. -/
def IsValueByte (b : UInt8) : Prop := b = 0x09 ∨ 0x20 ≤ b.toNat ∧ b ≠ 0x7F

/-- A token of at most 65535 bytes. -/
structure IsTokenText (name : String) : Prop where
  ne_nil : encodeString name ≠ []
  length_le : (encodeString name).length ≤ 65535
  bytes : ∀ b ∈ encodeString name, IsTokenByte b

def IsValueText (value : String) : Prop := ∀ b ∈ encodeString value, IsValueByte b

def Header.Sendable (h : Header) : Prop := IsTokenText h.name ∧ IsValueText h.value

theorem lt_of_isTokenByte : ∀ b : UInt8, IsTokenByte b → b.toNat < 0x80 :=
  Json.forall_byte (by decide +kernel)

theorem encodeChar_ne_nil (c : Char) : encodeChar c ≠ [] := by
  obtain ⟨b, tail, hc, -⟩ := Json.exists_encodeChar_eq c
  rw [hc]
  exact List.cons_ne_nil b tail

theorem encodeChar_of_lt {c : Char} (h : c.toNat < 0x80) : encodeChar c = [c.toNat.toUInt8] := if_pos h

/-- What holds of each of the first 128 characters holds of ASCII. -/
theorem forall_ascii {p : Char → Prop} (h : ∀ n : Fin 128, p (Char.ofNat n)) {c : Char}
    (hc : c.toNat < 0x80) : p c := by
  have hchar := h ⟨c.toNat, hc⟩
  rwa [Char.ofNat_toNat] at hchar

theorem lt_of_isTokenChar {c : Char} (h : isTokenChar c = true) : c.toNat < 0x80 := by
  have hmarks : tokenMarks.all (fun d => d.toNat < 0x80) = true := by decide
  have hclasses : c.isAlphanum = (decide (0x41 ≤ c.toNat ∧ c.toNat ≤ 0x5A) ||
      (decide (0x61 ≤ c.toNat) && decide (c.toNat ≤ 0x7A)) ||
      (decide (0x30 ≤ c.toNat) && decide (c.toNat ≤ 0x39))) := rfl
  rw [isTokenChar, Bool.or_eq_true, List.contains_iff_mem] at h
  rcases h with h | h
  · simp only [hclasses, Bool.or_eq_true, Bool.and_eq_true, decide_eq_true_eq] at h
    omega
  · simpa using List.all_eq_true.mp hmarks c h

theorem isTokenChar_iff {c : Char} : isTokenChar c = true ↔ ∀ b ∈ encodeChar c, IsTokenByte b := by
  by_cases hascii : c.toNat < 0x80
  · rw [encodeChar_of_lt hascii, List.forall_mem_singleton]
    exact forall_ascii (p := fun c => isTokenChar c = true ↔ IsTokenByte c.toNat.toUInt8)
      (by decide +kernel) hascii
  · refine iff_of_false (fun h => hascii (lt_of_isTokenChar h)) fun h => ?_
    obtain ⟨b, tail, hc⟩ := List.exists_cons_of_ne_nil (encodeChar_ne_nil c)
    have hmem : b ∈ encodeChar c := by simp [hc]
    have hlow := lt_of_isTokenByte b (h b hmem)
    have := Json.toNat_of_mem_encodeChar hmem
    omega

theorem isValueChar_iff_toNat {c : Char} :
    isValueChar c = true ↔ c.toNat = 0x09 ∨ 0x20 ≤ c.toNat ∧ c.toNat ≠ 0x7F := by
  have htab : c = '\t' ↔ c.toNat = 0x09 := Char.toNat_inj.symm
  have hdelete : c = '\x7f' ↔ c.toNat = 0x7F := Char.toNat_inj.symm
  have hblank : ' ' ≤ c ↔ 0x20 ≤ c.toNat := UInt32.le_iff_toNat_le
  simp only [isValueChar, Bool.or_eq_true, Bool.and_eq_true, beq_iff_eq, bne_iff_ne, decide_eq_true_eq, ne_eq,
    htab, hdelete, hblank]

theorem isValueChar_iff {c : Char} : isValueChar c = true ↔ ∀ b ∈ encodeChar c, IsValueByte b := by
  have hbyte (b : UInt8) : IsValueByte b ↔ b.toNat = 0x09 ∨ 0x20 ≤ b.toNat ∧ b.toNat ≠ 0x7F := by
    have htab : b = 0x09 ↔ b.toNat = 0x09 := UInt8.toNat_inj.symm
    have hdelete : b = 0x7F ↔ b.toNat = 0x7F := UInt8.toNat_inj.symm
    rw [IsValueByte, ne_eq, htab, hdelete]
  rw [isValueChar_iff_toNat]
  constructor
  · intro h b hb
    rw [hbyte]
    have := Json.toNat_of_mem_encodeChar hb
    omega
  · intro h
    obtain ⟨b, tail, hc⟩ := List.exists_cons_of_ne_nil (encodeChar_ne_nil c)
    have hmem : b ∈ encodeChar c := by simp [hc]
    have hvalue := (hbyte b).mp (h b hmem)
    have := Json.toNat_of_mem_encodeChar hmem
    omega

/-! ### Texts -/

theorem forall_encode_iff {p : UInt8 → Prop} {text : List Char} :
    (∀ b ∈ encode text, p b) ↔ ∀ c ∈ text, ∀ b ∈ encodeChar c, p b := by
  simp only [encode, List.mem_flatMap, forall_exists_index, and_imp]
  exact ⟨fun h c hc b hb => h b c hc hb, fun h b c hc hb => h c hc b hb⟩

theorem length_encode_of_token {text : List Char} (h : ∀ c ∈ text, isTokenChar c = true) :
    (encode text).length = text.length := by
  induction text with
  | nil => rfl
  | cons c text ih =>
    obtain ⟨hc, htext⟩ := List.forall_mem_cons.mp h
    rw [encode_cons, encodeChar_of_lt (lt_of_isTokenChar hc), List.length_append, ih htext, List.length_cons]
    exact Nat.add_comm 1 _

theorem isToken_iff {name : String} : isToken name = true ↔ IsTokenText name := by
  have hbytes : name.toList.all isTokenChar = true ↔ ∀ b ∈ encodeString name, IsTokenByte b := by
    rw [List.all_eq_true, encodeString, forall_encode_iff]
    exact forall₂_congr fun c _ => isTokenChar_iff
  have hempty : name = "" ↔ encodeString name = [] := by
    rw [← String.toList_eq_nil_iff, encodeString]
    constructor
    · intro h
      rw [h]
      rfl
    · intro h
      rw [encode, List.flatMap_eq_nil_iff] at h
      exact List.eq_nil_iff_forall_not_mem.mpr fun c hc => encodeChar_ne_nil c (h c hc)
  simp only [isToken, Bool.and_eq_true, decide_eq_true_eq, ne_eq, maxNameLength]
  constructor
  · rintro ⟨⟨hne, hlength⟩, htoken⟩
    refine ⟨fun h => hne (hempty.mpr h), ?_, hbytes.mp htoken⟩
    rw [encodeString, length_encode_of_token (List.all_eq_true.mp htoken), String.length_toList]
    exact of_decide_eq_true hlength
  · rintro ⟨hne, hlength, htoken⟩
    refine ⟨⟨fun h => hne (hempty.mp h), ?_⟩, hbytes.mpr htoken⟩
    rw [encodeString, length_encode_of_token (List.all_eq_true.mp (hbytes.mpr htoken)),
      String.length_toList] at hlength
    exact decide_eq_true hlength

theorem all_isValueChar_iff {value : String} : value.toList.all isValueChar = true ↔ IsValueText value := by
  rw [List.all_eq_true, IsValueText, encodeString, forall_encode_iff]
  exact forall₂_congr fun c _ => isValueChar_iff

theorem isValueText_append {s t : String} : IsValueText (s ++ t) ↔ IsValueText s ∧ IsValueText t := by
  simp only [← all_isValueChar_iff, String.toList_append, List.all_append, Bool.and_eq_true]

theorem IsValueText.append {s t : String} (hs : IsValueText s) (ht : IsValueText t) : IsValueText (s ++ t) :=
  isValueText_append.mpr ⟨hs, ht⟩

/-! ### The first header that cannot be sent -/

theorem Header.wireFault?_eq_none_iff {h : Header} : h.wireFault? = none ↔ h.Sendable := by
  rw [Header.Sendable, ← isToken_iff, ← all_isValueChar_iff, Header.wireFault?]
  cases isToken h.name <;> cases h.value.toList.all isValueChar <;> simp

example : (⟨"X-Broken", "line\nbreak"⟩ : Header).wireFault? = some "failed to parse header value" := by decide

end Http

namespace Request

open Http

variable {r : Request}

theorem check_eq_ok_iff : r.check = .ok () ↔ ∀ h ∈ r.headers.toList, h.Sendable := by
  have hnone : r.headers.wireFault? = none ↔ ∀ h ∈ r.headers.toList, h.Sendable := by
    rw [Headers.wireFault?, List.findSome?_eq_none_iff]
    refine forall₂_congr fun h _ => ?_
    rw [Option.map_eq_none_iff, Header.wireFault?_eq_none_iff]
  rw [← hnone, check]
  cases r.headers.wireFault? <;> simp

end Request

end KeyApproval
