import KeyApproval.Proofs.Authorization
import KeyApproval.Proofs.JsonText
import KeyApproval.Proofs.Traffic

/-!
# The body that asks for a key

A written string spells the text that it was made of, whatever characters that has. So the body of the
first request is an object of one member, and its value is the handle.
-/

namespace KeyApproval

namespace Json

open Text.Utf8

theorem encode_append (s t : List Char) : encode (s ++ t) = encode s ++ encode t := List.flatMap_append

/-! ### Written strings -/

/-- An ASCII character is written as it is, if that may be, or as an escape that is read as it. -/
theorem escapeChar_ascii : ∀ n : Fin 128,
    escapeChar (Char.ofNat n) = [Char.ofNat n] ∧ 0x20 ≤ n.val ∧ n.val ≠ 0x22 ∧ n.val ≠ 0x5C ∨
      (encode (escapeChar (Char.ofNat n))).head? = some 0x5C ∧
        readEscape (encode (escapeChar (Char.ofNat n))).tail =
          .ok (Char.ofNat n, (encode (escapeChar (Char.ofNat n))).tail.length) := by
  decide +kernel

theorem escapeChar_of_not_ascii {c : Char} (h : 128 ≤ c.toNat) : escapeChar c = [c] := by
  have hne {d : Char} (hd : d.toNat < 128) : ¬ (c == d) = true := by
    rw [beq_iff_eq]
    rintro rfl
    omega
  unfold escapeChar
  rw [if_neg (hne (by decide)), if_neg (hne (by decide)), if_neg (hne (by decide)), if_neg (hne (by decide)),
    if_neg (hne (by decide)), if_neg (hne (by decide)), if_neg (hne (by decide)), if_neg (by omega)]

theorem spells_escapeChar (c : Char) {s : List UInt8} {text : List Char} (h : Spells s text) :
    Spells (encode (escapeChar c) ++ s) (c :: text) := by
  have hraw (hself : escapeChar c = [c]) (hc : 0x20 ≤ c.toNat ∧ c.toNat ≠ 0x22 ∧ c.toNat ≠ 0x5C) :
      Spells (encode (escapeChar c) ++ s) (c :: text) := by
    rw [hself, encode_cons]
    simp only [encode, List.flatMap_nil, List.append_nil]
    refine .plain hc.1 ?_ ?_ h
    · rintro rfl
      exact hc.2.1 rfl
    · rintro rfl
      exact hc.2.2 rfl
  by_cases hascii : c.toNat < 128
  · have htable := escapeChar_ascii ⟨c.toNat, hascii⟩
    simp only [Char.ofNat_toNat] at htable
    rcases htable with ⟨hself, hc⟩ | ⟨hhead, hread⟩
    · exact hraw hself hc
    · obtain ⟨e, he⟩ := List.head?_eq_some_iff.mp hhead
      rw [he] at hread ⊢
      exact .escaped (escaped_of_readEscape hread) h
  · exact hraw (escapeChar_of_not_ascii (by omega)) ⟨by omega, by omega, by omega⟩

theorem spells_written (text : List Char) : Spells (encode (text.flatMap escapeChar)) text := by
  induction text with
  | nil => exact .nil
  | cons c text ih =>
    rw [List.flatMap_cons, encode_append]
    exact spells_escapeChar c ih

theorem encodeString_append (s t : String) : encodeString (s ++ t) = encodeString s ++ encodeString t := by
  rw [encodeString, String.toList_append, encode_append]
  rfl

theorem encodeString_braced (s : String) : encodeString (Text.braced s) = 0x7B :: encodeString s ++ [0x7D] := by
  rw [Text.braced, encodeString_append, encodeString_append]
  rfl

theorem encodeString_writeString (s : String) :
    encodeString (writeString s) = 0x22 :: encode (s.toList.flatMap escapeChar) ++ [0x22] := by
  rw [encodeString, writeString, String.toList_ofList, List.cons_append, encode_cons, encode_append]
  rfl

end Json

namespace Client

open Json Text.Utf8

/-- The body that asks for a key is an object whose only member is the handle. -/
theorem isText_createBody (handle : String) :
    IsText (createBody handle).toUTF8.data.toList (.object [("key", .string handle)]) := by
  have hname : Spells [0x6B, 0x65, 0x79] "key".toList := spells_written ['k', 'e', 'y']
  have hvalue : Denotes 126 (0x22 :: encode (handle.toList.flatMap escapeChar) ++ [0x22]) (.string handle) :=
    .inl (.string (spells_written handle.toList))
  have hspace : Blank [0x20] := List.forall_mem_singleton.mpr (.inl rfl)
  have hmember := Json.Member.mk hname blank_nil hspace hvalue
  refine ⟨[], _, [], ?_, blank_nil, blank_nil, .inr (.object (.some (.last blank_nil hmember blank_nil)))⟩
  have hopening : encodeString "\"key\": " = [0x22, 0x6B, 0x65, 0x79, 0x22, 0x3A, 0x20] := by decide
  rw [← encodeString_eq, createBody, encodeString_braced, encodeString_append, hopening, encodeString_writeString]
  simp only [List.append_assoc, List.cons_append, List.nil_append, List.append_nil]

/-- Whatever the handle, the request for a key carries an object in JSON whose only member is the handle, so
the handle can be told from the body. The request is sent if it can be made and passes the check. -/
theorem createBody_carries (handle : String) :
    (∀ (c : Client) (w : World), (c.requestKey handle w).2.requests = w.requests ∨
      ∃ r, (c.requestKey handle w).2.requests = w.requests ++ [r] ∧ r.body = some (createBody handle)) ∧
    (∀ (c : Client) (w : World) (r : Request),
      c.prepare .post "api/requests" (some (createBody handle)) w.readClock.1 = .ok r →
      w.transport.check r = .ok () → (c.requestKey handle w).2.requests = w.requests ++ [r]) ∧
    IsText (createBody handle).toUTF8.data.toList (.object [("key", .string handle)]) ∧
    (∀ v, Json.read (createBody handle).toUTF8.data.toList = .ok v ↔
      v = .object [("key", .string handle)]) ∧
    ∀ handle', createBody handle' = createBody handle ↔ handle' = handle := by
  have htext := isText_createBody handle
  refine ⟨fun c w => ?_, fun c w r => requests_call_of_passed decodeId, htext, fun v => ?_,
    fun handle' => ⟨fun h => ?_, congrArg createBody⟩⟩
  · refine (requests_call c .post requestsPath _ decodeId w).imp id fun h => ?_
    obtain ⟨r, hprepare, hrequests⟩ := h
    obtain ⟨url, -, rfl⟩ := prepare_eq_ok_iff.mp hprepare
    exact ⟨_, hrequests, rfl⟩
  · rw [read_eq_ok_iff]
    constructor
    · exact fun h => h.unique htext
    · rintro rfl
      exact htext
  · have htext' := isText_createBody handle'
    rw [h] at htext'
    simpa using htext'.unique htext

end Client

end KeyApproval
