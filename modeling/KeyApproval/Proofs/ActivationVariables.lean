import KeyApproval.Delivery.SocketSink
import KeyApproval.Proofs.Addresses
import KeyApproval.Proofs.Numerals

/-!
# Activation variables

What the three variables of socket activation say, whatever their texts are. Variables of another process say
that there are no sockets. Else a text that is no number is a fault, which quotes it, and any other gives a name
to each descriptor. Nothing bounds the number of descriptors but the width of its word, so it may exceed what a
list of names can hold. Then there is no reading, neither for a module that is enabled nor for one that is not.
-/

namespace KeyApproval.Activation

/-! ### Numbers -/

theorem readNumber?_eq_some_iff {bound : Nat} {text : String} {n : Nat} :
    readNumber? bound text = some n ↔ Text.IsNumeral text.toList n ∧ n < bound :=
  Text.readBelow?_trim_eq_some_iff

theorem readNumber?_eq_none_iff {bound : Nat} {text : String} :
    readNumber? bound text = .none ↔ ∀ n, Text.IsNumeral text.toList n → bound ≤ n := by
  rw [Option.eq_none_iff_forall_ne_some]
  apply forall_congr'
  intro n
  rw [Ne, readNumber?_eq_some_iff, not_and, Nat.not_lt]

/-- The number of descriptors that a variable gives. There are none if it is not set. -/
inductive Counts : Option String → Nat → Prop where
  | unset : Counts .none 0
  | set {text : String} {n : Nat} (h : Text.IsNumeral text.toList n) (hlt : n < UInt64.size) :
      Counts (some text) n

/-! ### Names -/

/-- The names that a variable lists, with colons between them. Nothing is listed if it is not set. -/
inductive Lists : Option String → List String → Prop where
  | unset : Lists .none []
  | set {parts : List String} (hne : parts ≠ []) (hcolon : ∀ part ∈ parts, ':' ∉ part.toList) :
      Lists (some (":".intercalate parts)) parts

theorem toList_intercalate_colon (parts : List String) :
    (":".intercalate parts).toList = Text.join ':' (parts.map String.toList) :=
  Text.toList_intercalate_singleton ':' parts

theorem splitNames_intercalate {parts : List String} (hne : parts ≠ [])
    (hcolon : ∀ part ∈ parts, ':' ∉ part.toList) : splitNames (":".intercalate parts) = parts := by
  have hsplit : Text.split ':' (Text.join ':' (parts.map String.toList)) = parts.map String.toList :=
    Text.split_join (by simpa using hne) (by simpa using hcolon)
  rw [splitNames, toList_intercalate_colon, hsplit, List.map_map]
  calc parts.map (String.ofList ∘ String.toList)
      = parts.map id := List.map_congr_left fun part _ => String.ofList_toList
    _ = parts := List.map_id parts

theorem intercalate_splitNames (text : String) : ":".intercalate (splitNames text) = text := by
  apply String.toList_inj.mp
  have hparts : (splitNames text).map String.toList = Text.split ':' text.toList := by
    rw [splitNames, List.map_map]
    exact (List.map_congr_left fun part _ => String.toList_ofList).trans (List.map_id _)
  rw [toList_intercalate_colon, hparts, Text.join_split]

theorem lists_splitNames (names : Option String) : Lists names ((names.map splitNames).getD []) := by
  cases names with
  | none => exact .unset
  | some text =>
    have hne : splitNames text ≠ [] := fun h =>
      Text.splitWhere_ne_nil _ text.toList (List.map_eq_nil_iff.mp h)
    have hcolon : ∀ part ∈ splitNames text, ':' ∉ part.toList := by
      intro part hpart
      obtain ⟨s, hs, rfl⟩ := List.mem_map.mp hpart
      rw [String.toList_ofList]
      exact Text.notMem_of_mem_split hs
    have hlists := Lists.set hne hcolon
    rwa [intercalate_splitNames] at hlists

theorem Lists.splitNames_eq {names : Option String} {parts : List String} (h : Lists names parts) :
    (names.map splitNames).getD [] = parts := by
  cases h with
  | unset => rfl
  | set hne hcolon => exact splitNames_intercalate hne hcolon

/-- Each descriptor has the name that is listed at its place, and is unknown beyond the list. -/
def namesOf (count : Nat) (parts : List String) : List String :=
  (List.range count).map fun i => parts[i]?.getD "unknown"

theorem length_namesOf (count : Nat) (parts : List String) : (namesOf count parts).length = count := by
  rw [namesOf, List.length_map, List.length_range]

theorem getElem?_namesOf {count i : Nat} (parts : List String) (h : i < count) :
    (namesOf count parts)[i]? = some (parts[i]?.getD "unknown") := by
  rw [namesOf, List.getElem?_map, List.getElem?_range h, Option.map_some]

theorem fitNames_eq_namesOf (count : Nat) (parts : List String) : fitNames count parts = namesOf count parts := by
  apply List.ext_getElem?
  intro i
  by_cases hi : i < count
  · rw [getElem?_namesOf parts hi, fitNames]
    -- listed names are in front of those that are filled in
    by_cases hlisted : i < parts.length
    · rw [List.getElem?_append_left (by rw [List.length_take]; omega), List.getElem?_take_of_lt hi,
        List.getElem?_eq_getElem hlisted, Option.getD_some]
    · rw [List.getElem?_append_right (by rw [List.length_take]; omega), List.getElem?_replicate,
        if_pos (by rw [List.length_take]; omega), List.getElem?_eq_none (by omega), Option.getD_none]
  · rw [List.getElem?_eq_none (by rw [length_fitNames]; omega),
      List.getElem?_eq_none (by rw [length_namesOf]; omega)]

theorem namesOf_length (names : List String) : namesOf names.length names = names := by
  rw [← fitNames_eq_namesOf, fitNames, List.take_length, Nat.sub_self, List.replicate_zero, List.append_nil]

/-! ### Readings -/

variable {lookup : String → Option String} {pid : UInt32} {text : String} {count : Nat}

/-- The variables are meant for this process. -/
def IsAddressed (lookup : String → Option String) (pid : UInt32) : Prop :=
  ∃ text, lookup "LISTEN_PID" = some text ∧ Text.IsNumeral text.toList pid.toNat

theorem readNumber?_of_isNumeral (h : Text.IsNumeral text.toList pid.toNat) :
    readNumber? UInt32.size text = some pid.toNat :=
  readNumber?_eq_some_iff.mpr ⟨h, pid.toNat_lt⟩

theorem ofVariables_of_foreign
    (h : ∀ text, lookup "LISTEN_PID" = some text →
      ∃ n, Text.IsNumeral text.toList n ∧ n < UInt32.size ∧ n ≠ pid.toNat) :
    ofVariables lookup pid = .read none := by
  unfold ofVariables
  cases hprocess : lookup "LISTEN_PID" with
  | none => rfl
  | some text =>
    obtain ⟨n, hnumeral, hlt, hne⟩ := h text hprocess
    dsimp only
    rw [readNumber?_eq_some_iff.mpr ⟨hnumeral, hlt⟩]
    exact if_pos hne

theorem ofVariables_of_badProcess (hprocess : lookup "LISTEN_PID" = some text)
    (h : ∀ n, Text.IsNumeral text.toList n → UInt32.size ≤ n) :
    ofVariables lookup pid = .rejected (.socketEnvironment ("LISTEN_PID is not a number: " ++ text)) := by
  unfold ofVariables
  rw [hprocess]
  dsimp only
  rw [readNumber?_eq_none_iff.mpr h]

/-- Once the process is known, the other two variables are looked at. -/
theorem ofVariables_of_isAddressed (h : IsAddressed lookup pid) :
    ofVariables lookup pid =
      (lookup "LISTEN_FDS").elim (readNames (lookup "LISTEN_FDNAMES") 0) fun text =>
        (readNumber? UInt64.size text).elim
          (.rejected (.socketEnvironment ("LISTEN_FDS is not a number: " ++ text)))
          (readNames (lookup "LISTEN_FDNAMES")) := by
  obtain ⟨process, hprocess, hnumeral⟩ := h
  unfold ofVariables
  rw [hprocess]
  dsimp only
  rw [readNumber?_of_isNumeral hnumeral]
  dsimp only
  rw [if_neg (not_not_intro rfl)]
  cases lookup "LISTEN_FDS" with
  | none => rfl
  | some text =>
    dsimp only [Option.elim_some]
    cases readNumber? UInt64.size text <;> rfl

theorem ofVariables_of_badCount (hown : IsAddressed lookup pid) (hcount : lookup "LISTEN_FDS" = some text)
    (h : ∀ n, Text.IsNumeral text.toList n → UInt64.size ≤ n) :
    ofVariables lookup pid = .rejected (.socketEnvironment ("LISTEN_FDS is not a number: " ++ text)) := by
  rw [ofVariables_of_isAddressed hown, hcount, Option.elim_some, readNumber?_eq_none_iff.mpr h, Option.elim_none]

theorem ofVariables_of_counts (hown : IsAddressed lookup pid) (hcount : Counts (lookup "LISTEN_FDS") count) :
    ofVariables lookup pid = readNames (lookup "LISTEN_FDNAMES") count := by
  rw [ofVariables_of_isAddressed hown]
  generalize lookup "LISTEN_FDS" = descriptors at hcount
  cases hcount with
  | unset => rfl
  | set h hlt => rw [Option.elim_some, readNumber?_eq_some_iff.mpr ⟨h, hlt⟩, Option.elim_some]

theorem readNames_of_le (h : namesSize count ≤ maxSize) {names : Option String} {parts : List String}
    (hlists : Lists names parts) : readNames names count = .read ⟨count, namesOf count parts⟩ := by
  rw [readNames, if_pos h, hlists.splitNames_eq, fitNames_eq_namesOf]

theorem readNames_of_lt (h : maxSize < namesSize count) (names : Option String) :
    readNames names count = .unallocatable count := by
  rw [readNames, if_neg (by omega)]

/-- Reading is exact. Of variables that are for no process or another one only the process is looked at. A text
that is no number in its range is quoted in a fault. All else gives the number of descriptors, and the name that
is listed for each of them, if a list can hold so many names. So the names of a list are found again. -/
theorem ofVariables_exact (lookup : String → Option String) (pid : UInt32) :
    ((∀ text, lookup "LISTEN_PID" = some text →
        ∃ n, Text.IsNumeral text.toList n ∧ n < UInt32.size ∧ n ≠ pid.toNat) →
      ∀ lookup' : String → Option String, lookup' "LISTEN_PID" = lookup "LISTEN_PID" →
        ofVariables lookup' pid = .read ⟨0, []⟩) ∧
    (∀ text, lookup "LISTEN_PID" = some text → (∀ n, Text.IsNumeral text.toList n → UInt32.size ≤ n) →
      ofVariables lookup pid = .rejected (.socketEnvironment ("LISTEN_PID is not a number: " ++ text))) ∧
    (IsAddressed lookup pid →
      (∀ text, lookup "LISTEN_FDS" = some text → (∀ n, Text.IsNumeral text.toList n → UInt64.size ≤ n) →
        ofVariables lookup pid = .rejected (.socketEnvironment ("LISTEN_FDS is not a number: " ++ text))) ∧
      (∀ count, Counts (lookup "LISTEN_FDS") count → count * 24 ≤ 2 ^ 63 - 1 →
        ∃ names parts, ofVariables lookup pid = .read ⟨count, names⟩ ∧ names.length = count ∧
          Lists (lookup "LISTEN_FDNAMES") parts ∧
          ∀ i, i < count → names[i]? = some (parts[i]?.getD "unknown")) ∧
      ∀ names : List String, names ≠ [] → (∀ name ∈ names, ':' ∉ name.toList) →
        names.length * 24 ≤ 2 ^ 63 - 1 → Counts (lookup "LISTEN_FDS") names.length →
        lookup "LISTEN_FDNAMES" = some (":".intercalate names) →
        ofVariables lookup pid = .read ⟨names.length, names⟩) := by
  refine ⟨fun hforeign lookup' hsame => ?_, fun text => ofVariables_of_badProcess, fun hown =>
    ⟨fun text => ofVariables_of_badCount hown, fun count hcount hle => ?_,
      fun names hne hcolon hle hcount hnames => ?_⟩⟩
  · apply ofVariables_of_foreign
    rwa [hsame]
  · have hlists := lists_splitNames (lookup "LISTEN_FDNAMES")
    refine ⟨namesOf count _, _, ?_, length_namesOf _ _, hlists, fun i => getElem?_namesOf _⟩
    rw [ofVariables_of_counts hown hcount, readNames_of_le hle hlists]
  · have hlists : Lists (lookup "LISTEN_FDNAMES") names := hnames ▸ .set hne hcolon
    rw [ofVariables_of_counts hown hcount, readNames_of_le hle hlists, namesOf_length]

/-! ### Too many descriptors -/

/-- Reading ends with what was found, or with a fault of the environment. -/
inductive Ends : ActivationReading → Prop where
  | read (a : Activation) : Ends (.read a)
  | rejected (text : String) : Ends (.rejected (.socketEnvironment text))

theorem Ends.exists_environment {reading : ActivationReading} (h : Ends reading) :
    ∃ environment, reading.environment? = some environment := by
  cases h with
  | read a => exact ⟨.ok a, rfl⟩
  | rejected text => exact ⟨.error (.socketEnvironment text), rfl⟩

theorem ends_of_not_isAddressed (h : ¬ IsAddressed lookup pid) : Ends (ofVariables lookup pid) := by
  by_cases hnumber : ∀ text, lookup "LISTEN_PID" = some text →
      ∃ n, Text.IsNumeral text.toList n ∧ n < UInt32.size
  · have hforeign : ofVariables lookup pid = .read none := by
      apply ofVariables_of_foreign
      intro text htext
      obtain ⟨n, hnumeral, hlt⟩ := hnumber text htext
      exact ⟨n, hnumeral, hlt, fun heq => h ⟨text, htext, heq ▸ hnumeral⟩⟩
    exact hforeign ▸ .read none
  · simp only [not_forall, not_exists, not_and, Nat.not_lt] at hnumber
    obtain ⟨text, htext, hbad⟩ := hnumber
    exact ofVariables_of_badProcess htext hbad ▸ .rejected _

theorem counts_or_bad (descriptors : Option String) :
    (∃ count, Counts descriptors count) ∨
      ∃ text, descriptors = some text ∧ ∀ n, Text.IsNumeral text.toList n → UInt64.size ≤ n := by
  cases descriptors with
  | none => exact .inl ⟨0, .unset⟩
  | some text =>
    by_cases h : ∃ n, Text.IsNumeral text.toList n ∧ n < UInt64.size
    · obtain ⟨n, hnumeral, hlt⟩ := h
      exact .inl ⟨n, .set hnumeral hlt⟩
    · simp only [not_exists, not_and, Nat.not_lt] at h
      exact .inr ⟨text, rfl, h⟩

/-- Variables that are meant for this process are read to the end if a list can hold the names. -/
theorem ends_of_isAddressed (h : IsAddressed lookup pid)
    (hle : ∀ count, Counts (lookup "LISTEN_FDS") count → namesSize count ≤ maxSize) :
    Ends (ofVariables lookup pid) := by
  cases counts_or_bad (lookup "LISTEN_FDS") with
  | inl hcounts =>
    obtain ⟨count, hcount⟩ := hcounts
    rw [ofVariables_of_counts h hcount, readNames_of_le (hle count hcount) (lists_splitNames _)]
    exact .read _
  | inr hbad =>
    obtain ⟨text, htext, hbad⟩ := hbad
    exact ofVariables_of_badCount h htext hbad ▸ .rejected _

theorem not_ends_iff :
    ¬ Ends (ofVariables lookup pid) ↔
      ∃ count, IsAddressed lookup pid ∧ Counts (lookup "LISTEN_FDS") count ∧ maxSize < namesSize count := by
  constructor
  · intro hends
    by_cases hown : IsAddressed lookup pid
    · by_contra hnone
      refine hends (ends_of_isAddressed hown fun count hcount => ?_)
      by_contra hlt
      exact hnone ⟨count, hown, hcount, Nat.not_le.mp hlt⟩
    · exact absurd (ends_of_not_isAddressed hown) hends
  · rintro ⟨count, hown, hcount, hlt⟩ hends
    rw [ofVariables_of_counts hown hcount, readNames_of_lt hlt] at hends
    cases hends

theorem environment?_eq_none_iff :
    (ofVariables lookup pid).environment? = .none ↔ ¬ Ends (ofVariables lookup pid) := by
  constructor
  · intro hnone hends
    obtain ⟨environment, henvironment⟩ := hends.exists_environment
    exact nomatch hnone.symm.trans henvironment
  · intro hends
    obtain ⟨count, hown, hcount, hlt⟩ := not_ends_iff.mp hends
    rw [ofVariables_of_counts hown hcount, readNames_of_lt hlt]
    rfl

theorem lookAt?_eq_none_iff (m : SocketSink) :
    m.lookAt? lookup pid = .none ↔ ¬ Ends (ofVariables lookup pid) := by
  rw [SocketSink.lookAt?, Option.map_eq_none_iff, environment?_eq_none_iff]

theorem ends_iff : Ends (ofVariables lookup pid) ↔
    ∀ count, IsAddressed lookup pid → Counts (lookup "LISTEN_FDS") count → count * 24 ≤ 2 ^ 63 - 1 := by
  rw [← not_iff_not, not_ends_iff]
  simp only [not_forall, Nat.not_le, exists_prop]
  rfl

/-- Reading ends unless the variables are meant for this process and give a number of descriptors whose names
exceed the room of a list, at 24 bytes a name. Then there is no module that looks at them, whatever its flag. It
is assumed that memory for names is there when a list can hold them. -/
theorem ends_ofVariables_iff (lookup : String → Option String) (pid : UInt32) :
    (Ends (ofVariables lookup pid) ↔
      ∀ count, IsAddressed lookup pid → Counts (lookup "LISTEN_FDS") count → count * 24 ≤ 2 ^ 63 - 1) ∧
    ∀ m : SocketSink, m.lookAt? lookup pid = .none ↔ ¬ Ends (ofVariables lookup pid) :=
  ⟨ends_iff, lookAt?_eq_none_iff⟩

/-- Variables that pass the least number of descriptors whose names no list can hold. -/
def crowd (name : String) : Option String :=
  if name = "LISTEN_PID" then some "10"
  else if name = "LISTEN_FDS" then some "384307168202282326"
  else .none

theorem ofVariables_crowd : ofVariables crowd 10 = .unallocatable 384307168202282326 := by
  rfl

/-- Reading need not end, and it stops a module that is disabled as well. -/
theorem not_ends_crowd : ¬ Ends (ofVariables crowd 10) ∧ ({} : SocketSink).lookAt? crowd 10 = .none := by
  have hends : ¬ Ends (ofVariables crowd 10) := by
    rw [ofVariables_crowd]
    nofun
  exact ⟨hends, (lookAt?_eq_none_iff _).mpr hends⟩

end KeyApproval.Activation
