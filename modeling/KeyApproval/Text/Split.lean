/-!
# Splitting and joining

Cutting a text at separators, putting the parts together again, and enclosing a text. The parts of a text without
separators are that text alone, so joining undoes splitting and splitting undoes joining.
-/

namespace KeyApproval.Text

/-- The parts between separators; there is always one more part than there are separators. -/
def splitWhere (isSeparator : Char → Bool) : List Char → List (List Char)
  | [] => [[]]
  | c :: rest =>
    if isSeparator c then [] :: splitWhere isSeparator rest
    else match splitWhere isSeparator rest with
      | [] => [[c]]
      | part :: parts => (c :: part) :: parts

def split (separator : Char) : List Char → List (List Char) := splitWhere (· == separator)

def join (separator : Char) : List (List Char) → List Char
  | [] => []
  | [part] => part
  | part :: rest => part ++ separator :: join separator rest

def splitFirst (separator : Char) : List Char → Option (List Char × List Char)
  | [] => none
  | c :: rest =>
    if c == separator then some ([], rest)
    else (splitFirst separator rest).map fun (before, after) => (c :: before, after)

def splitLast (separator : Char) (s : List Char) : Option (List Char × List Char) :=
  (splitFirst separator s.reverse).map fun (after, before) => (before.reverse, after.reverse)

/-- The rest of the text after `front`, when it begins so. -/
def after? : (front : List Char) → List Char → Option (List Char)
  | [], s => some s
  | _ :: _, [] => none
  | a :: front, c :: s => if a == c then after? front s else none

/-- The text between braces. -/
def braced (s : String) : String := "\x7b" ++ s ++ "\x7d"

theorem splitWhere_ne_nil (p : Char → Bool) (s : List Char) : splitWhere p s ≠ [] := by
  cases s with
  | nil => simp [splitWhere]
  | cons c rest =>
    rw [splitWhere]
    split
    · simp
    · split <;> simp

theorem splitWhere_of_none {p : Char → Bool} {s : List Char} (h : ∀ c ∈ s, p c = false) :
    splitWhere p s = [s] := by
  induction s with
  | nil => rfl
  | cons c rest ih =>
    rw [splitWhere, ih fun d hd => h d (List.mem_cons_of_mem c hd)]
    simp [h c List.mem_cons_self]

/-- The parts are made of the characters between separators. -/
theorem of_mem_splitWhere {p : Char → Bool} {s part : List Char} (h : part ∈ splitWhere p s) :
    ∀ c ∈ part, p c = false ∧ c ∈ s := by
  induction s generalizing part with
  | nil =>
    rw [List.mem_singleton.mp h]
    simp
  | cons d rest ih =>
    rw [splitWhere] at h
    split at h
    · cases List.mem_cons.mp h with
      | inl heq => simp [heq]
      | inr hmem => exact fun c hc => ⟨(ih hmem c hc).1, List.mem_cons_of_mem d (ih hmem c hc).2⟩
    next hd =>
      split at h
      next hnil => exact absurd hnil (splitWhere_ne_nil p rest)
      next first parts hparts =>
        rw [hparts] at ih
        intro c hc
        cases List.mem_cons.mp h with
        | inl heq =>
          rw [heq] at hc
          cases List.mem_cons.mp hc with
          | inl hcd =>
            rw [hcd]
            exact ⟨Bool.eq_false_iff.mpr hd, List.mem_cons_self⟩
          | inr htail =>
            obtain ⟨hfree, hmem⟩ := ih List.mem_cons_self c htail
            exact ⟨hfree, List.mem_cons_of_mem d hmem⟩
        | inr hmem =>
          obtain ⟨hfree, hin⟩ := ih (List.mem_cons_of_mem first hmem) c hc
          exact ⟨hfree, List.mem_cons_of_mem d hin⟩

theorem join_split (separator : Char) (s : List Char) : join separator (split separator s) = s := by
  induction s with
  | nil => rfl
  | cons c rest ih =>
    rw [split] at ih ⊢
    rw [splitWhere]
    cases hrest : splitWhere (· == separator) rest with
    | nil => exact absurd hrest (splitWhere_ne_nil _ _)
    | cons part parts =>
      rw [hrest] at ih
      by_cases hc : (c == separator) = true
      · simp only [hc, if_true, join, ih, List.nil_append, List.cons.injEq, and_true]
        exact (eq_of_beq hc).symm
      · simp only [hc]
        cases parts <;> simpa [join] using ih

theorem splitWhere_append {p : Char → Bool} {s : List Char} (h : ∀ c ∈ s, p c = false) {d : Char}
    (hd : p d = true) (rest : List Char) :
    splitWhere p (s ++ d :: rest) = s :: splitWhere p rest := by
  induction s with
  | nil => simp [splitWhere, hd]
  | cons c tail ih =>
    rw [List.cons_append, splitWhere, ih fun e he => h e (List.mem_cons_of_mem c he)]
    simp [h c List.mem_cons_self]

/-- A separator at the end leaves an empty part behind it. -/
theorem splitWhere_append_singleton {p : Char → Bool} {d : Char} (hd : p d = true) (s : List Char) :
    splitWhere p (s ++ [d]) = splitWhere p s ++ [[]] := by
  induction s with
  | nil => simp [splitWhere, hd]
  | cons c rest ih =>
    rw [List.cons_append, splitWhere, splitWhere, ih]
    split
    · rfl
    · obtain ⟨part, parts, hparts⟩ := List.exists_cons_of_ne_nil (splitWhere_ne_nil p rest)
      rw [hparts]
      rfl

theorem splitWhere_join {p : Char → Bool} {separator : Char} (hseparator : p separator = true)
    {parts : List (List Char)} (hne : parts ≠ []) (free : ∀ part ∈ parts, ∀ c ∈ part, p c = false) :
    splitWhere p (join separator parts) = parts := by
  induction parts with
  | nil => exact absurd rfl hne
  | cons part rest ih =>
    cases rest with
    | nil => exact splitWhere_of_none (free part List.mem_cons_self)
    | cons next more =>
      rw [join, splitWhere_append (free part List.mem_cons_self) hseparator]
      · exact congrArg (part :: ·)
          (ih (List.cons_ne_nil _ _) fun q hq => free q (List.mem_cons_of_mem part hq))
      · simp

theorem split_join {separator : Char} {parts : List (List Char)} (hne : parts ≠ [])
    (h : ∀ part ∈ parts, separator ∉ part) : split separator (join separator parts) = parts :=
  splitWhere_join (p := (· == separator)) (beq_self_eq_true _) hne fun part hp _ hc =>
    beq_false_of_ne fun e => h part hp (e ▸ hc)

theorem mem_join {separator c : Char} {parts : List (List Char)} (h : c ∈ join separator parts) :
    c = separator ∨ ∃ part ∈ parts, c ∈ part := by
  induction parts with
  | nil => simp [join] at h
  | cons part rest ih =>
    cases rest with
    | nil => exact .inr ⟨part, List.mem_cons_self, h⟩
    | cons next more =>
      change c ∈ part ++ separator :: join separator (next :: more) at h
      rw [List.mem_append, List.mem_cons] at h
      rcases h with h | h | h
      · exact .inr ⟨part, List.mem_cons_self, h⟩
      · exact .inl h
      · refine (ih h).imp_right ?_
        rintro ⟨q, hq, hc⟩
        exact ⟨q, List.mem_cons_of_mem part hq, hc⟩

theorem notMem_of_mem_split {separator : Char} {s part : List Char} (h : part ∈ split separator s) :
    separator ∉ part := fun hmem => by
  simpa using (of_mem_splitWhere h separator hmem).1

theorem splitFirst_of_notMem {separator : Char} {s : List Char} (h : separator ∉ s) :
    splitFirst separator s = none := by
  induction s with
  | nil => rfl
  | cons c rest ih =>
    have hc : (c == separator) = false := beq_false_of_ne fun e => h (e ▸ List.mem_cons_self)
    simp [splitFirst, hc, ih fun hm => h (List.mem_cons_of_mem c hm)]

theorem splitFirst_append {separator : Char} {s : List Char} (h : separator ∉ s)
    (rest : List Char) : splitFirst separator (s ++ separator :: rest) = some (s, rest) := by
  induction s with
  | nil => simp [splitFirst]
  | cons c tail ih =>
    have hc : (c == separator) = false := beq_false_of_ne fun e => h (e ▸ List.mem_cons_self)
    simp [splitFirst, hc, ih fun hm => h (List.mem_cons_of_mem c hm)]

theorem splitLast_append {separator : Char} {s : List Char} (h : separator ∉ s)
    (front : List Char) : splitLast separator (front ++ separator :: s) = some (front, s) := by
  have hs : separator ∉ s.reverse := fun hm => h (List.mem_reverse.1 hm)
  simp [splitLast, splitFirst_append hs front.reverse]

theorem after?_append (front s : List Char) : after? front (front ++ s) = some s := by
  induction front with
  | nil => rfl
  | cons c rest ih => simpa [after?] using ih

end KeyApproval.Text
