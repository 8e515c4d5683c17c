import KeyApproval.Domain.Punycode
import KeyApproval.Proofs.ResourcePath
import Mathlib.Data.List.TakeDrop
import Mathlib.Tactic.Ring

/-!
# Reading Punycode back

The decoder retraces the encoder. Both count the places that they pass: for every code from the start
on, one place before each character that is there already and one at the end. A number is the count of
places from one insertion to the next, and as long as it fits the decoder ends up at the same code and
the same position, so that it puts the character back where it was.
-/

namespace KeyApproval.Domain.Punycode

/-! ### Digits and numbers -/

theorem digitValue?_digitChar {d : Nat} (h : d < 36) : digitValue? (digitChar d) = some d := by
  revert d
  decide

theorem isPlain_digitChar {d : Nat} (h : d < 36) : Url.isPlain (digitChar d) = true := by
  revert d
  decide

theorem isPlain_of_mem_encodeNumber {bias place n : Nat} {c : Char}
    (h : c ∈ encodeNumber bias place n) : Url.isPlain c = true := by
  induction n using Nat.strongRecOn generalizing place with
  | ind n ih =>
    have ht := threshold_bounds place bias
    rw [encodeNumber] at h
    split at h
    next hlast =>
      rw [List.mem_singleton.mp h]
      exact isPlain_digitChar (by omega)
    next hmore =>
      have hrem := Nat.mod_lt (n - threshold place bias) (show 36 - threshold place bias > 0 by omega)
      have hquot := Nat.div_le_self (n - threshold place bias) (36 - threshold place bias)
      cases List.mem_cons.mp h with
      | inl hc =>
        rw [hc]
        exact isPlain_digitChar (by omega)
      | inr hc => exact ih _ (by omega) hc

/-- Puts the character in place that a whole number leads to. -/
def Decoding.insert (s : Decoding) (number : Nat) : Option Decoding :=
  let count := s.text.length + 1
  let reached := s.position + number
  let code := s.code + reached / count
  let position := reached % count
  if h : code.isValidChar then
    some ⟨insertAt s.text position (Char.ofNatAux code h), code,
      adapt number count (s.position == 0), position + 1, 0, 1, 36⟩
  else none

/-- The character that is put in place, by its code. -/
theorem Decoding.insert_eq {s : Decoding} {number place : Nat} {c : Char}
    (hcode : s.code + (s.position + number) / (s.text.length + 1) = c.toNat)
    (hplace : (s.position + number) % (s.text.length + 1) = place) :
    s.insert number = some ⟨insertAt s.text place c, c.toNat,
      adapt number (s.text.length + 1) (s.position == 0), place + 1, 0, 1, 36⟩ := by
  have hvalid : (s.code + (s.position + number) / (s.text.length + 1)).isValidChar := hcode ▸ c.valid
  have hchar (n : Nat) (h : n.isValidChar) (hn : n = c.toNat) : Char.ofNatAux n h = c := by
    subst hn
    rfl
  calc s.insert number
      = some ⟨insertAt s.text ((s.position + number) % (s.text.length + 1)) (Char.ofNatAux _ hvalid),
          s.code + (s.position + number) / (s.text.length + 1),
          adapt number (s.text.length + 1) (s.position == 0),
          (s.position + number) % (s.text.length + 1) + 1, 0, 1, 36⟩ := dif_pos hvalid
    _ = _ := by rw [hchar _ hvalid hcode, hcode, hplace]

theorem Decoding.exists_of_insert {s s' : Decoding} {number : Nat} (h : s.insert number = some s') :
    ∃ c : Char, s.code + (s.position + number) / (s.text.length + 1) = c.toNat ∧
      s'.text = insertAt s.text ((s.position + number) % (s.text.length + 1)) c ∧ s'.code = c.toNat := by
  by_cases hvalid : (s.code + (s.position + number) / (s.text.length + 1)).isValidChar
  · have hcode : s.code + (s.position + number) / (s.text.length + 1) =
        (Char.ofNatAux _ hvalid).toNat := rfl
    rw [insert_eq hcode rfl] at h
    cases h
    exact ⟨_, hcode, rfl, rfl⟩
  · rw [insert, dif_neg hvalid] at h
    contradiction

theorem Decoding.take_eq (s : Decoding) (d : Nat) :
    s.take d =
      if UInt32.size ≤ s.number + d * s.weight then none
      else if threshold s.place s.bias ≤ d then
        some { s with
          number := s.number + d * s.weight
          weight := s.weight * (36 - threshold s.place s.bias)
          place := s.place + 36 }
      else s.insert (s.number + d * s.weight) := rfl

/-- Takes the values of digits one after the other. -/
def Decoding.read (s : Decoding) (digits : List Char) : Option Decoding :=
  (digits.mapM digitValue?).bind (·.foldlM Decoding.take s)

@[simp]
theorem Decoding.read_nil (s : Decoding) : s.read [] = some s := rfl

theorem Decoding.read_cons (s : Decoding) {c : Char} {d : Nat} (h : digitValue? c = some d)
    (rest : List Char) : s.read (c :: rest) = (s.take d).bind (·.read rest) := by
  simp only [read, List.mapM_cons, h, Option.bind_eq_bind, Option.bind_some]
  cases rest.mapM digitValue? with
  | none => cases s.take d <;> rfl
  | some values => simp [List.foldlM_cons]

theorem Decoding.read_append (s : Decoding) (a b : List Char) :
    s.read (a ++ b) = (s.read a).bind (·.read b) := by
  simp only [read, List.mapM_append, Option.bind_eq_bind]
  cases a.mapM digitValue? with
  | none => rfl
  | some values => cases b.mapM digitValue? <;> simp [List.foldlM_append]

/-- The digits of a number, read at the place where they were written, give that number. -/
theorem Decoding.read_encodeNumber (s : Decoding) (n : Nat)
    (hfits : s.number + n * s.weight < UInt32.size) :
    s.read (encodeNumber s.bias s.place n) = s.insert (s.number + n * s.weight) := by
  induction n using Nat.strongRecOn generalizing s with
  | ind n ih =>
    have ht := threshold_bounds s.place s.bias
    rw [encodeNumber]
    split
    next hlast =>
      rw [read_cons s (digitValue?_digitChar (by omega)), take_eq, if_neg (by omega),
        if_neg (by omega)]
      simp
    next hmore =>
      -- The digit and the number behind it make up the whole number again.
      have hrem := Nat.mod_lt (n - threshold s.place s.bias)
        (show 36 - threshold s.place s.bias > 0 by omega)
      have hsum := Nat.mod_add_div (n - threshold s.place s.bias) (36 - threshold s.place s.bias)
      have hquot := Nat.div_le_self (n - threshold s.place s.bias) (36 - threshold s.place s.bias)
      generalize (n - threshold s.place s.bias) % (36 - threshold s.place s.bias) = r at *
      generalize (n - threshold s.place s.bias) / (36 - threshold s.place s.bias) = q at *
      have hwhole : s.number + (threshold s.place s.bias + r) * s.weight +
          q * (s.weight * (36 - threshold s.place s.bias)) = s.number + n * s.weight := by
        have hn : n = threshold s.place s.bias + r + (36 - threshold s.place s.bias) * q := by omega
        calc s.number + (threshold s.place s.bias + r) * s.weight +
              q * (s.weight * (36 - threshold s.place s.bias))
            = s.number + (threshold s.place s.bias + r +
                (36 - threshold s.place s.bias) * q) * s.weight := by ring
          _ = s.number + n * s.weight := by rw [← hn]
      rw [read_cons s (digitValue?_digitChar (by omega)), take_eq, if_neg (by omega),
        if_pos (by omega), Option.bind_some]
      have hrest := ih q (by omega)
        { s with
          number := s.number + (threshold s.place s.bias + r) * s.weight
          weight := s.weight * (36 - threshold s.place s.bias)
          place := s.place + 36 } (by dsimp only; omega)
      dsimp only at hrest
      rw [hrest, hwhole]
      rfl

/-! ### Insertions -/

/-- The decoder before its first digit. -/
def start (basic : List Char) : Decoding := ⟨basic, 0x80, 72, 0, 0, 1, 36⟩

/-- Reading what the encoder has written so far, the decoder has put together this text, and the places
between its last insertion and this place of this code are those that the encoder has counted. -/
structure Tracks (basic front : List Char) (code place : Nat) (text : List Char) (e : Encoding) :
    Prop where
  exists_read : ∃ digits d steps, e.output = front ++ digits ∧
    (∀ c ∈ digits, Url.isPlain c = true) ∧ (start basic).read digits = some d ∧
    d = ⟨text, d.code, e.bias, d.position, 0, 1, 36⟩ ∧
    (d.position = 0 ↔ e.handled = basic.length) ∧
    code = d.code + steps ∧ d.position + e.delta = place + (text.length + 1) * steps
  handled_eq : e.handled = text.length
  basic_le : basic.length ≤ e.handled

variable {basic front text : List Char} {code place : Nat} {e : Encoding}

theorem Tracks.pass_smaller (h : Tracks basic front code place text e) {n : Nat} (hn : n < code) :
    Tracks basic front code (place + 1) text (e.pass basic.length code n) := by
  obtain ⟨⟨digits, d, steps, hout, hplain, hread, hd, hfirst, hcode, hcount⟩, hhandled, hbasic⟩ := h
  rw [Encoding.pass, if_pos hn]
  exact ⟨⟨digits, d, steps, hout, hplain, hread, hd, hfirst, hcode, by dsimp only; omega⟩, hhandled,
    hbasic⟩

theorem Tracks.pass_greater (h : Tracks basic front code place text e) {n : Nat} (hn : code < n) :
    Tracks basic front code place text (e.pass basic.length code n) := by
  rw [Encoding.pass, if_neg (by omega), if_neg (by omega)]
  exact h

theorem length_insertAt (s : List Char) (i : Nat) (c : Char) :
    (insertAt s i c).length = s.length + 1 := by
  rw [insertAt, List.length_append, List.length_cons, ← Nat.add_assoc, ← List.length_append,
    List.take_append_drop]

/-- The number that is written leads the decoder to the place of the character. Numbers of texts of
moderate length fit. -/
theorem Tracks.pass_equal {c : Char} (h : Tracks basic front c.toNat place text e)
    (hplace : place ≤ text.length) (hlength : text.length ≤ 1000) :
    Tracks basic front c.toNat (place + 1) (insertAt text place c)
      (e.pass basic.length c.toNat c.toNat) := by
  obtain ⟨⟨digits, d, steps, hout, hplain, hread, hd, hfirst, hcode, hcount⟩, hhandled, hbasic⟩ := h
  have hsteps : steps < 0x110000 := by
    have hc : c.toNat < 0x110000 := by
      have := c.valid
      simp only [UInt32.isValidChar, Nat.isValidChar, Char.toNat] at *
      omega
    omega
  have hfits : e.delta < UInt32.size := by
    have := Nat.mul_le_mul (show text.length + 1 ≤ 1001 by omega) (Nat.le_of_lt hsteps)
    change e.delta < 4294967296
    omega
  have hquot : (d.position + e.delta) / (text.length + 1) = steps := by
    rw [hcount, Nat.add_mul_div_left _ _ (Nat.succ_pos _), Nat.div_eq_of_lt (by omega), Nat.zero_add]
  have hrem : (d.position + e.delta) % (text.length + 1) = place := by
    rw [hcount, Nat.add_mul_mod_self_left, Nat.mod_eq_of_lt (by omega)]
  have hinsert : d.insert e.delta = some ⟨insertAt text place c, c.toNat,
      adapt e.delta (e.handled + 1) (e.handled == basic.length), place + 1, 0, 1, 36⟩ := by
    have hlast : (d.position == 0) = (e.handled == basic.length) := by
      rw [Bool.eq_iff_iff, beq_iff_eq, beq_iff_eq, hfirst]
    have htext : d.text = text := by rw [hd]
    have hreached : d.code + (d.position + e.delta) / (d.text.length + 1) = c.toNat := by
      rw [htext, hquot, hcode]
    have hspot : (d.position + e.delta) % (d.text.length + 1) = place := by rw [htext, hrem]
    rw [Decoding.insert_eq hreached hspot, htext, hlast, hhandled]
  have hnumber : d.read (encodeNumber e.bias 36 e.delta) = d.insert e.delta := by
    have hwhole := d.read_encodeNumber e.delta (by rw [hd]; simpa using hfits)
    rw [hd] at hwhole ⊢
    simpa using hwhole
  rw [Encoding.pass, if_neg (Nat.lt_irrefl _), if_pos rfl]
  refine ⟨⟨digits ++ encodeNumber e.bias 36 e.delta,
    ⟨insertAt text place c, c.toNat, adapt e.delta (e.handled + 1) (e.handled == basic.length),
      place + 1, 0, 1, 36⟩, 0, ?_, ?_, ?_, rfl, ?_, rfl, rfl⟩, ?_, ?_⟩
  · rw [hout, List.append_assoc]
  · intro x hx
    exact (List.mem_append.mp hx).elim (hplain x) isPlain_of_mem_encodeNumber
  · rw [Decoding.read_append, hread, Option.bind_some, hnumber, hinsert]
  · dsimp only
    omega
  · dsimp only
    rw [hhandled, length_insertAt]
  · exact Nat.le_succ_of_le hbasic

/-! ### Whole texts -/

/-- The characters of the codes below a bound, which are those that are inserted before it. -/
def below (bound : Nat) (s : List Char) : List Char := s.filter (·.toNat < bound)

theorem below_append (bound : Nat) (a b : List Char) :
    below bound (a ++ b) = below bound a ++ below bound b :=
  List.filter_append a b

theorem below_cons_of_lt {bound : Nat} {c : Char} (h : c.toNat < bound) (s : List Char) :
    below bound (c :: s) = c :: below bound s :=
  List.filter_cons_of_pos (decide_eq_true h)

theorem below_cons_of_le {bound : Nat} {c : Char} (h : bound ≤ c.toNat) (s : List Char) :
    below bound (c :: s) = below bound s :=
  List.filter_cons_of_neg (by simpa using h)

theorem length_below_le (bound : Nat) (s : List Char) : (below bound s).length ≤ s.length :=
  List.length_filter_le _ s

theorem insertAt_append (a b : List Char) (c : Char) : insertAt (a ++ b) a.length c = a ++ c :: b := by
  rw [insertAt, List.take_left, List.drop_left]

/-- One pass over the text inserts all characters of one code. -/
theorem Tracks.pass_all (seen : List Char) {rest : List Char}
    (hlength : (seen ++ rest).length ≤ 1000)
    (h : Tracks basic front code (below (code + 1) seen).length
      (below (code + 1) seen ++ below code rest) e) :
    Tracks basic front code (below (code + 1) (seen ++ rest)).length (below (code + 1) (seen ++ rest))
      ((rest.map Char.toNat).foldl (Encoding.pass basic.length code) e) := by
  induction rest generalizing seen e with
  | nil => simpa [below] using h
  | cons c rest ih =>
    rw [List.append_cons] at hlength ⊢
    refine ih _ hlength ?_
    rw [below_append]
    rcases Nat.lt_trichotomy c.toNat code with hlt | heq | hgt
    · rw [below_cons_of_lt hlt] at h
      rw [below_cons_of_lt (Nat.lt_succ_of_lt hlt), List.length_append, List.append_assoc]
      exact h.pass_smaller hlt
    · subst heq
      rw [below_cons_of_le (Nat.le_refl _)] at h
      rw [below_cons_of_lt (Nat.lt_succ_self _), List.length_append, List.append_assoc]
      change Tracks basic front c.toNat _ (below (c.toNat + 1) seen ++ c :: below c.toNat rest) _
      rw [← insertAt_append]
      refine h.pass_equal (by simp) (Nat.le_trans ?_ hlength)
      have hseen := length_below_le (c.toNat + 1) seen
      have hrest := length_below_le c.toNat rest
      simp only [List.length_append, List.length_singleton]
      omega
    · rw [below_cons_of_le (Nat.le_of_lt hgt)] at h
      have hnone : below (code + 1) [c] = [] := below_cons_of_le hgt []
      rw [hnone, List.append_nil]
      exact h.pass_greater hgt

theorem Tracks.next (h : Tracks basic front code text.length text e) :
    Tracks basic front (code + 1) 0 text { e with delta := e.delta + 1 } := by
  obtain ⟨⟨digits, d, steps, hout, hplain, hread, hd, hfirst, hcode, hcount⟩, hhandled, hbasic⟩ := h
  refine ⟨⟨digits, d, steps + 1, hout, hplain, hread, hd, hfirst, ?_, ?_⟩, hhandled, hbasic⟩
  · omega
  · rw [Nat.mul_succ]
    dsimp only
    omega

theorem Tracks.skip (h : Tracks basic front code 0 text e) {target : Nat} (hle : code ≤ target) :
    Tracks basic front target 0 text { e with delta := e.delta + (target - code) * (e.handled + 1) } := by
  obtain ⟨⟨digits, d, steps, hout, hplain, hread, hd, hfirst, hcode, hcount⟩, hhandled, hbasic⟩ := h
  refine ⟨⟨digits, d, steps + (target - code), hout, hplain, hread, hd, hfirst, ?_, ?_⟩, hhandled, hbasic⟩
  · omega
  · dsimp only
    rw [hhandled, Nat.mul_comm (target - code), Nat.mul_add]
    omega

/-- All codes inserted, the decoder has the whole text. -/
theorem Tracks.exists_insertAll {s : List Char} (hlength : s.length ≤ 1000) {codes : List Nat}
    {first : Nat} {e : Encoding} (h : Tracks basic front first 0 (below first s) e)
    (hsorted : (first :: codes).Pairwise (· ≤ ·)) (hnodup : codes.Nodup)
    (hcodes : ∀ c ∈ s, first ≤ c.toNat → c.toNat ∈ codes) :
    ∃ digits d, insertAll (s.map Char.toNat) basic.length first codes e = front ++ digits ∧
      (∀ c ∈ digits, Url.isPlain c = true) ∧ (start basic).read digits = some d ∧ d.text = s ∧
      d.weight = 1 := by
  induction codes generalizing first e with
  | nil =>
    obtain ⟨⟨digits, d, -, hout, hplain, hread, hd, -⟩, -⟩ := h
    have hall : below first s = s := by
      refine List.filter_eq_self.mpr fun c hc => ?_
      have := hcodes c hc
      simp only [List.not_mem_nil, imp_false, Nat.not_le] at this
      simpa using this
    refine ⟨digits, d, hout, hplain, hread, ?_, ?_⟩
    · rw [hd]
      exact hall
    · rw [hd]
  | cons code codes ih =>
    have hfirst : first ≤ code := (List.pairwise_cons.mp hsorted).1 code List.mem_cons_self
    have hrest := (List.pairwise_cons.mp hsorted).2
    have hbetween : below first s = below code s := by
      refine List.filter_congr fun c hc => ?_
      rw [decide_eq_decide]
      refine ⟨fun hlt => by omega, fun hlt => ?_⟩
      by_contra hge
      cases List.mem_cons.mp (hcodes c hc (by omega)) with
      | inl heq => omega
      | inr hmem =>
        have := (List.pairwise_cons.mp hrest).1 _ hmem
        omega
    rw [insertAll]
    refine ih ?_ ?_ (List.nodup_cons.mp hnodup).2 ?_
    · have hskip := h.skip hfirst
      rw [hbetween] at hskip
      have hpass := Tracks.pass_all [] hlength hskip
      exact hpass.next
    · refine List.pairwise_cons.mpr ⟨fun d hd => ?_, (List.pairwise_cons.mp hrest).2⟩
      have hle := (List.pairwise_cons.mp hrest).1 d hd
      have hne : d ≠ code := fun heq => (List.nodup_cons.mp hnodup).1 (heq ▸ hd)
      omega
    · intro c hc hle
      cases List.mem_cons.mp (hcodes c hc (by omega)) with
      | inl heq => omega
      | inr hmem => exact hmem

theorem eraseDups_sublist (l : List Nat) : l.eraseDups.Sublist l := by
  induction hn : l.length using Nat.strongRecOn generalizing l with
  | ind n ih =>
    cases l with
    | nil => simp
    | cons a rest =>
      rw [List.eraseDups_cons]
      have hle := List.length_filter_le (fun b => !b == a) rest
      rw [List.length_cons] at hn
      exact ((ih _ (by omega) _ rfl).trans List.filter_sublist).cons_cons a

theorem nodup_eraseDups (l : List Nat) : l.eraseDups.Nodup := by
  induction hn : l.length using Nat.strongRecOn generalizing l with
  | ind n ih =>
    cases l with
    | nil => simp
    | cons a rest =>
      rw [List.eraseDups_cons]
      have hle := List.length_filter_le (fun b => !b == a) rest
      rw [List.length_cons] at hn
      exact List.nodup_cons.mpr ⟨by simp, ih _ (by omega) _ rfl⟩

/-- What the encoder makes of a text: its ASCII characters and a hyphen, when there are any, and plain
characters that the decoder reads back. -/
theorem encode_spec {s : List Char} (hlength : s.length ≤ 1000) :
    ∃ digits d, encode s =
        (if (below 0x80 s).isEmpty then [] else below 0x80 s ++ ['-']) ++ digits ∧
      (∀ c ∈ digits, Url.isPlain c = true) ∧ (start (below 0x80 s)).read digits = some d ∧
      d.text = s ∧ d.weight = 1 := by
  have htracks (front : List Char) : Tracks (below 0x80 s) front 0x80 0 (below 0x80 s)
      ⟨front, 0, 72, (below 0x80 s).length⟩ :=
    ⟨⟨[], start (below 0x80 s), 0, (List.append_nil _).symm, by simp, rfl, rfl, by simp [start], rfl,
      rfl⟩, rfl, Nat.le_refl _⟩
  refine (htracks _).exists_insertAll hlength (List.pairwise_cons.mpr ⟨?_, ?_⟩) (nodup_eraseDups _) ?_
  · intro n hn
    rw [List.mem_eraseDups, List.mem_mergeSort] at hn
    obtain ⟨c, hc, rfl⟩ := List.mem_map.mp hn
    simpa using (List.mem_filter.mp hc).2
  · refine List.Pairwise.sublist (eraseDups_sublist _) ?_
    have htrans (a b c : Nat) (hab : decide (a ≤ b) = true) (hbc : decide (b ≤ c) = true) :
        decide (a ≤ c) = true :=
      decide_eq_true ((of_decide_eq_true hab).trans (of_decide_eq_true hbc))
    have htotal (a b : Nat) : (decide (a ≤ b) || decide (b ≤ a)) = true := by
      simpa using Nat.le_total a b
    exact (List.pairwise_mergeSort htrans htotal _).imp of_decide_eq_true
  · intro c hc hle
    rw [List.mem_eraseDups, List.mem_mergeSort]
    exact List.mem_map.mpr ⟨c, List.mem_filter.mpr ⟨hc, by simpa using hle⟩, rfl⟩

/-- Punycode adds hyphens and plain characters only. -/
theorem mem_encode {s : List Char} (hlength : s.length ≤ 1000) {c : Char} (h : c ∈ encode s) :
    (c ∈ s ∧ c.toNat < 0x80) ∨ c = '-' ∨ Url.isPlain c = true := by
  obtain ⟨digits, d, hencode, hplain, -⟩ := encode_spec hlength
  rw [hencode] at h
  rcases List.mem_append.mp h with hfront | hdigit
  · split at hfront
    · contradiction
    · rcases List.mem_append.mp hfront with hbasic | hhyphen
      · left
        simpa [below] using hbasic
      · exact .inr (.inl (List.mem_singleton.mp hhyphen))
  · exact .inr (.inr (hplain c hdigit))

/-- A text of moderate length is read back from its Punycode. -/
theorem decode?_encode {s : List Char} (hlength : s.length ≤ 1000) : decode? (encode s) = some s := by
  obtain ⟨digits, d, hencode, hplain, hread, htext, hweight⟩ := encode_spec hlength
  have hhyphen : ∀ c ∈ digits.reverse, decide (c ≠ '-') = true := by
    intro c hc
    simpa using Url.ne_of_isPlain (hplain c (List.mem_reverse.mp hc)) (d := '-') (by decide)
  have hascii : (below 0x80 s).all (fun c => c.toNat < 0x80) = true := by
    rw [List.all_eq_true]
    intro c hc
    exact (List.mem_filter.mp hc).2
  obtain ⟨values, hvalues, htake⟩ := Option.bind_eq_some_iff.mp hread
  have hwhole : (digits.mapM digitValue?).bind (fun values =>
      (values.foldlM Decoding.take (start (below 0x80 s))).bind fun d =>
        if d.weight = 1 then some d.text else none) = some s := by
    simp [hvalues, htake, hweight, htext]
  rw [decode?, hencode]
  cases hbasic : below 0x80 s with
  | nil =>
    rw [hbasic] at hwhole
    simp only [List.isEmpty_nil, if_true, List.nil_append]
    rw [List.span_eq_takeWhile_dropWhile, List.takeWhile_eq_self_iff.mpr hhyphen,
      List.dropWhile_eq_nil_iff.mpr hhyphen]
    simpa [start] using hwhole
  | cons c rest =>
    rw [hbasic] at hwhole hascii
    simp only [List.isEmpty_cons, Bool.false_eq_true, if_false]
    rw [List.span_eq_takeWhile_dropWhile, List.reverse_append, List.reverse_append,
      List.reverse_singleton, List.singleton_append, List.takeWhile_append_of_pos hhyphen,
      List.dropWhile_append_of_pos hhyphen]
    simpa [hascii, start] using hwhole

/-! ### Texts that are decoded -/

theorem mem_insertAt {s : List Char} {i : Nat} {c d : Char} (h : d ∈ insertAt s i c) : d = c ∨ d ∈ s := by
  rcases List.mem_append.mp h with hd | hd
  · exact .inr (List.mem_of_mem_take hd)
  · exact (List.mem_cons.mp hd).imp_right List.mem_of_mem_drop

/-- The decoder inserts nothing of ASCII. -/
def Decoding.Extends (basic : List Char) (s : Decoding) : Prop :=
  0x80 ≤ s.code ∧ ∀ c ∈ s.text, c.toNat < 0x80 → c ∈ basic

theorem Decoding.Extends.take {basic : List Char} {s s' : Decoding} {d : Nat} (h : s.Extends basic)
    (hd : s.take d = some s') : s'.Extends basic := by
  rw [take_eq] at hd
  split at hd
  · contradiction
  · split at hd
    · cases hd
      exact h
    · obtain ⟨c, hc, htext, hcode⟩ := Decoding.exists_of_insert hd
      have hle : s.code ≤ c.toNat := hc ▸ Nat.le_add_right _ _
      refine ⟨hcode ▸ Nat.le_trans h.1 hle, fun e he hlt => ?_⟩
      rw [htext] at he
      cases mem_insertAt he with
      | inl heq =>
        rw [heq] at hlt
        exact absurd hlt (Nat.not_lt.mpr (Nat.le_trans h.1 hle))
      | inr hmem => exact h.2 e hmem hlt

theorem Decoding.Extends.foldlM {basic : List Char} {values : List Nat} {s s' : Decoding}
    (h : s.Extends basic) (hs : values.foldlM Decoding.take s = some s') : s'.Extends basic := by
  induction values generalizing s with
  | nil =>
    cases hs
    exact h
  | cons d values ih =>
    rw [List.foldlM_cons] at hs
    obtain ⟨next, hnext, hrest⟩ := Option.bind_eq_some_iff.mp hs
    exact ih (h.take hnext) hrest

/-- The characters of ASCII in a decoded text were there before. -/
theorem mem_of_decode? {s text : List Char} (h : decode? s = some text) {c : Char} (hc : c ∈ text)
    (hascii : c.toNat < 0x80) : c ∈ s := by
  have hread (basic digits : List Char) (hbasic : ∀ c ∈ basic, c ∈ s)
      (hdigits : (if basic.all fun c => c.toNat < 0x80 then
        (digits.mapM digitValue?).bind fun values =>
          (values.foldlM Decoding.take (start basic)).bind fun last =>
            if last.weight = 1 then some last.text else none
        else none) = some text) : c ∈ s := by
    split at hdigits
    · obtain ⟨values, -, hfold⟩ := Option.bind_eq_some_iff.mp hdigits
      obtain ⟨last, hlast, htext⟩ := Option.bind_eq_some_iff.mp hfold
      split at htext
      · cases htext
        have hstart : (start basic).Extends basic := ⟨Nat.le_refl _, fun c hc _ => hc⟩
        exact hbasic c ((hstart.foldlM hlast).2 c hc hascii)
      · contradiction
    · contradiction
  have hspan := List.takeWhile_append_dropWhile (p := fun c => decide (c ≠ '-')) (l := s.reverse)
  rw [decode?, List.span_eq_takeWhile_dropWhile] at h
  dsimp only at h
  split at h
  next before after heq =>
    obtain ⟨hbefore, hafter⟩ := Prod.mk.inj heq
    rw [hbefore, hafter] at hspan
    cases hempty : after.isEmpty with
    | true =>
      rw [hempty] at h
      exact hread [] s (by simp) h
    | false =>
      rw [hempty] at h
      refine hread after.reverse before.reverse (fun d hd => ?_) h
      have hmem : d ∈ before ++ '-' :: after :=
        List.mem_append_right _ (List.mem_cons_of_mem _ (List.mem_reverse.mp hd))
      rw [hspan] at hmem
      simpa using hmem
  next => exact hread [] s (by simp) h

end KeyApproval.Domain.Punycode
