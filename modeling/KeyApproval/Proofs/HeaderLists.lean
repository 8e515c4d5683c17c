import KeyApproval.Proofs.SignedText
import Mathlib.Logic.Basic

/-!
# The histories of header lists

A list of headers is made by adding one after the other, and an addition is refused for its name alone. What the
list holds is therefore told by the names that were offered, and because no name holds a separator, the three
texts and lookups that are made of a list can be undone: the announced names, the lines, and the first value of
a name.
-/

namespace KeyApproval

namespace Text

variable {mark s front back : List Char}

theorem after?_eq_some_iff : after? mark s = some back ↔ s = mark ++ back := by
  constructor
  · intro h
    induction mark generalizing s with
    | nil => exact Option.some.inj h
    | cons a mark ih =>
      cases s with
      | nil => cases h
      | cons c s =>
        rw [after?] at h
        split at h
        next heq => rw [eq_of_beq heq, ih h, List.cons_append]
        next => cases h
  · rintro rfl
    exact after?_append mark back

/-- What stands before and behind the first place at which a mark is found. -/
def cutAt? (mark : List Char) : List Char → Option (List Char × List Char)
  | [] => (after? mark []).map fun back => ([], back)
  | c :: rest =>
    match after? mark (c :: rest) with
    | some back => some ([], back)
    | none => (cutAt? mark rest).map fun (front, back) => (c :: front, back)

theorem cutAt?_of_after? (h : after? mark s = some back) : cutAt? mark s = some ([], back) := by
  cases s with
  | nil => rw [cutAt?, h, Option.map_some]
  | cons c rest => rw [cutAt?, h]

theorem cutAt?_cons_of_none {c : Char} {rest : List Char} (h : after? mark (c :: rest) = none) :
    cutAt? mark (c :: rest) = (cutAt? mark rest).map fun (front, back) => (c :: front, back) := by
  rw [cutAt?, h]

theorem of_cutAt? (h : cutAt? mark s = some (front, back)) :
    s = front ++ (mark ++ back) ∧ ∀ f b, s = f ++ (mark ++ b) → front.length ≤ f.length := by
  induction s generalizing front with
  | nil =>
    obtain ⟨_, hafter, hfound⟩ := Option.map_eq_some_iff.mp h
    cases hfound
    have hwhole := after?_eq_some_iff.mp hafter
    exact ⟨hwhole, fun f b _ => Nat.zero_le _⟩
  | cons c rest ih =>
    cases hafter : after? mark (c :: rest) with
    | some behind =>
      rw [cutAt?_of_after? hafter] at h
      cases h
      have hwhole := after?_eq_some_iff.mp hafter
      exact ⟨hwhole, fun f b _ => Nat.zero_le _⟩
    | none =>
      rw [cutAt?_cons_of_none hafter] at h
      obtain ⟨⟨front', back'⟩, hrest, hfound⟩ := Option.map_eq_some_iff.mp h
      cases hfound
      obtain ⟨hwhole, hfirst⟩ := ih hrest
      refine ⟨congrArg (c :: ·) hwhole, fun f b hf => ?_⟩
      cases f with
      | nil =>
        have hhere : after? mark (c :: rest) = some b := after?_eq_some_iff.mpr hf
        rw [hafter] at hhere
        contradiction
      | cons d f => exact Nat.succ_le_succ (hfirst f b (List.tail_eq_of_cons_eq hf))

theorem isSome_cutAt? (mark front back : List Char) : (cutAt? mark (front ++ (mark ++ back))).isSome = true := by
  induction front with
  | nil =>
    rw [List.nil_append, cutAt?_of_after? (after?_append mark back)]
    rfl
  | cons c front ih =>
    rw [List.cons_append]
    cases hafter : after? mark (c :: (front ++ (mark ++ back))) with
    | some behind =>
      rw [cutAt?_of_after? hafter]
      rfl
    | none => rwa [cutAt?_cons_of_none hafter, Option.isSome_map]

/-- The first place is the one with the shortest front. -/
theorem cutAt?_eq_some_iff : cutAt? mark s = some (front, back) ↔
    s = front ++ (mark ++ back) ∧ ∀ f b, s = f ++ (mark ++ b) → front.length ≤ f.length := by
  refine ⟨of_cutAt?, ?_⟩
  rintro ⟨rfl, hfirst⟩
  obtain ⟨⟨front', back'⟩, hfound⟩ := Option.isSome_iff_exists.mp (isSome_cutAt? mark front back)
  obtain ⟨hwhole, hfirst'⟩ := of_cutAt? hfound
  have hlength : front.length = front'.length :=
    Nat.le_antisymm (hfirst front' back' hwhole) (hfirst' front back rfl)
  obtain ⟨rfl, hrest⟩ := List.append_inj hwhole hlength
  rw [hfound, List.append_cancel_left hrest]

/-- A mark is first found behind a front that does not hold its first character. -/
theorem cutAt?_of_notMem {c : Char} (h : c ∉ front) (mark back : List Char) :
    cutAt? (c :: mark) (front ++ (c :: mark ++ back)) = some (front, back) := by
  refine cutAt?_eq_some_iff.mpr ⟨rfl, fun f b hf => ?_⟩
  refine Nat.le_of_not_lt fun hshort => ?_
  have hat : front[f.length]? = some c := by
    rw [← List.getElem?_append_left hshort, hf, List.getElem?_append_right (Nat.le_refl _), Nat.sub_self]
    rfl
  exact h (List.mem_of_getElem? hat)

end Text

namespace Http

/-! ### Refused names -/

/-- What no name may hold: a colon, white space, or a control character. -/
def BreaksName (c : Char) : Prop := c = ':' ∨ Text.isBlank c = true ∨ Text.isControl c = true

theorem isNameChar_eq_false_iff {c : Char} : isNameChar c = false ↔ BreaksName c := by
  rw [← Bool.not_eq_true, isNameChar, BreaksName]
  cases Text.isBlank c <;> cases Text.isControl c <;> simp

theorem not_isName_iff {name : String} (h : name ≠ "") :
    ¬IsName name ↔ ∃ c ∈ name.toList, BreaksName c := by
  simp only [IsName, ne_eq, h, not_false_eq_true, true_and, ← isNameChar_eq_false_iff, ← Bool.not_eq_true,
    not_forall, exists_prop]

/-! ### Additions -/

/-- A call that offers a header to a list, in parts or as it is. -/
inductive Addition where
  | push (name value : String)
  | pushHeader (h : Header)

namespace Addition

/-- The header that is offered. -/
def header : Addition → Header
  | push name value => ⟨name, value⟩
  | pushHeader h => h

def attempt (l : Headers) : Addition → Except HeaderError Headers
  | push name value => l.push name value
  | pushHeader h => l.pushHeader h

theorem attempt_eq (a : Addition) (l : Headers) : a.attempt l = l.push a.header.name a.header.value := by
  cases a <;> rfl

end Addition

namespace Headers

variable {l : Headers} {a : Addition}

/-- What a call answers, and the list after it. A call that is refused leaves the list as it was. -/
def add (l : Headers) (a : Addition) : Except HeaderError Unit × Headers :=
  match a.attempt l with
  | .ok longer => (.ok (), longer)
  | .error e => (.error e, l)

/-- The list after some calls. -/
def addAll (l : Headers) (additions : List Addition) : Headers := additions.foldl (fun l a => (l.add a).2) l

theorem add_of_isName (l : Headers) (h : IsName a.header.name) :
    l.add a = (.ok (), l.append a.header h) := by
  rw [add, a.attempt_eq, push_of_isName l _ h]

theorem add_of_eq_empty (l : Headers) (h : a.header.name = "") : l.add a = (.error .emptyName, l) := by
  have hname : ¬IsName a.header.name := fun hname => hname.1 h
  rw [add, a.attempt_eq, push, dif_neg hname, if_pos h]

theorem add_of_not_isName (l : Headers) (hne : a.header.name ≠ "") (h : ¬IsName a.header.name) :
    l.add a = (.error (.invalidName a.header.name), l) := by
  rw [add, a.attempt_eq, push, dif_neg h, if_neg hne]

/-- All that a call may come to. -/
theorem add_cases (l : Headers) (a : Addition) :
    (∃ h : IsName a.header.name, l.add a = (.ok (), l.append a.header h)) ∨
      (a.header.name = "" ∧ l.add a = (.error .emptyName, l)) ∨
        (a.header.name ≠ "" ∧ ¬IsName a.header.name ∧ l.add a = (.error (.invalidName a.header.name), l)) := by
  by_cases hname : IsName a.header.name
  · exact .inl ⟨hname, add_of_isName l hname⟩
  · by_cases hempty : a.header.name = ""
    · exact .inr (.inl ⟨hempty, add_of_eq_empty l hempty⟩)
    · exact .inr (.inr ⟨hempty, hname, add_of_not_isName l hempty hname⟩)

theorem add_eq_emptyName_iff : l.add a = (.error .emptyName, l) ↔ a.header.name = "" := by
  refine ⟨fun h => ?_, add_of_eq_empty l⟩
  obtain ⟨_, hok⟩ | ⟨hempty, -⟩ | ⟨-, -, hinvalid⟩ := add_cases l a
  · cases hok.symm.trans h
  · exact hempty
  · cases hinvalid.symm.trans h

theorem add_eq_invalidName_iff {name : String} : l.add a = (.error (.invalidName name), l) ↔
    name = a.header.name ∧ ∃ c ∈ name.toList, BreaksName c := by
  constructor
  · intro h
    obtain ⟨_, hok⟩ | ⟨-, hempty⟩ | ⟨hne, hname, hinvalid⟩ := add_cases l a
    · cases hok.symm.trans h
    · cases hempty.symm.trans h
    · cases hinvalid.symm.trans h
      exact ⟨rfl, (not_isName_iff hne).mp hname⟩
  · rintro ⟨rfl, hbroken⟩
    have hne : a.header.name ≠ "" := by
      intro hempty
      obtain ⟨c, hc, -⟩ := hbroken
      rw [hempty] at hc
      exact List.not_mem_nil hc
    exact add_of_not_isName l hne ((not_isName_iff hne).mpr hbroken)

theorem toList_add (l : Headers) (a : Addition) :
    (l.add a).2.toList = l.toList ++ [a.header].filter (IsName ·.name) := by
  have hrefused (hname : ¬IsName a.header.name) : [a.header].filter (IsName ·.name) = [] := by
    rw [List.filter_cons_of_neg (by simpa using hname), List.filter_nil]
  obtain ⟨hname, hok⟩ | ⟨hempty, hadd⟩ | ⟨-, hname, hadd⟩ := add_cases l a
  · rw [hok, List.filter_cons_of_pos (by simpa using hname), toList_append, List.filter_nil]
  · rw [hadd, hrefused fun hname => hname.1 hempty, List.append_nil]
  · rw [hadd, hrefused hname, List.append_nil]

/-- A list holds what was accepted, in the order of the calls. -/
theorem toList_addAll (l : Headers) (additions : List Addition) :
    (l.addAll additions).toList = l.toList ++ (additions.map Addition.header).filter (IsName ·.name) := by
  induction additions generalizing l with
  | nil => exact (List.append_nil _).symm
  | cons a additions ih =>
    rw [addAll, List.foldl_cons, ← addAll, ih, toList_add, List.append_assoc, ← List.filter_append]
    rfl

/-! ### Texts and lookups, undone -/

theorem split_canonicalNames (h : l.toList ≠ []) :
    Text.split ' ' (Signing.canonicalNames l).toList = l.toList.map fun h => Text.lower h.name.toList := by
  rw [Signing.canonicalNames, String.toList_ofList]
  exact Text.split_join (mt List.map_eq_nil_iff.mp h) fun part hpart => (Signing.announced_spec l part hpart).2

theorem cutAt?_line {h : Header} (hname : IsName h.name) :
    Text.cutAt? [':', ' '] h.line.toList = some (h.name.toList, h.value.toList) := by
  have hline : h.line.toList = h.name.toList ++ (':' :: [' '] ++ h.value.toList) := by
    simp [Header.line, String.toList_append]
  rw [hline]
  exact Text.cutAt?_of_notMem (hname.notMem (by decide)) [' '] h.value.toList

/-- The first header of a name counts. -/
theorem get?_eq_some_iff {query value : String} : l.get? query = some value ↔
    ∃ before h after, l.toList = before ++ h :: after ∧ h.value = value ∧
      Text.lower h.name.toList = Text.lower query.toList ∧
      ∀ k ∈ before, Text.lower k.name.toList ≠ Text.lower query.toList := by
  simp only [get?, Option.map_eq_some_iff, List.find?_eq_some_iff_append, Text.sameIgnoringCase_iff,
    Bool.not_eq_true', ← Bool.not_eq_true, ne_eq]
  constructor
  · rintro ⟨h, ⟨hsame, before, after, hlist, hbefore⟩, hvalue⟩
    exact ⟨before, h, after, hlist, hvalue, hsame, hbefore⟩
  · rintro ⟨before, h, after, hlist, hvalue, hsame, hbefore⟩
    exact ⟨h, ⟨hsame, before, after, hlist, hbefore⟩, hvalue⟩

theorem get?_eq_none_iff {query : String} : l.get? query = none ↔
    ∀ h ∈ l.toList, Text.lower h.name.toList ≠ Text.lower query.toList := by
  simp only [get?, Option.map_eq_none_iff, List.find?_eq_none, Text.sameIgnoringCase_iff, ne_eq]

/-- What is found stays what it is, whatever is added. -/
theorem get?_addAll {query value : String} (h : l.get? query = some value) (additions : List Addition) :
    (l.addAll additions).get? query = some value := by
  obtain ⟨before, k, after, hlist, hvalue, hsame, hbefore⟩ := get?_eq_some_iff.mp h
  have hlonger := toList_addAll l additions
  rw [hlist, List.append_assoc, List.cons_append] at hlonger
  exact get?_eq_some_iff.mpr ⟨before, k, _, hlonger, hvalue, hsame, hbefore⟩

/-- After any calls on the empty list: the list holds the headers that were accepted, in the order of the calls.
The next call is refused, and then changes nothing, exactly when its name is empty or holds a colon, white space
or a control character; else its header comes last. The announced names give back the names in lower case, a
line gives back its name and its value, and a lookup gives the value of the earliest header of that name,
whatever comes later. -/
theorem addAll_kept (additions : List Addition) :
    let l := empty.addAll additions
    l.toList = (additions.map Addition.header).filter (IsName ·.name) ∧
    (∀ a, (l.add a = (.error .emptyName, l) ↔ a.header.name = "") ∧
      (∀ name, l.add a = (.error (.invalidName name), l) ↔
        name = a.header.name ∧ ∃ c ∈ name.toList, BreaksName c) ∧
      (¬(a.header.name = "" ∨ ∃ c ∈ a.header.name.toList, BreaksName c) →
        (l.add a).1 = .ok () ∧ (l.add a).2.toList = l.toList ++ [a.header])) ∧
    (l.toList ≠ [] → Text.split ' ' (Signing.canonicalNames l).toList =
      l.toList.map fun h => Text.lower h.name.toList) ∧
    (∀ h ∈ l.toList, Text.cutAt? [':', ' '] h.line.toList = some (h.name.toList, h.value.toList)) ∧
    ∀ query, (l.get? query = none ↔ ∀ h ∈ l.toList, Text.lower h.name.toList ≠ Text.lower query.toList) ∧
      ∀ value, (l.get? query = some value ↔
          ∃ before h after, l.toList = before ++ h :: after ∧ h.value = value ∧
            Text.lower h.name.toList = Text.lower query.toList ∧
            ∀ k ∈ before, Text.lower k.name.toList ≠ Text.lower query.toList) ∧
        (l.get? query = some value → ∀ more, (l.addAll more).get? query = some value) := by
  intro l
  refine ⟨toList_addAll empty additions, fun a => ⟨add_eq_emptyName_iff, fun name => add_eq_invalidName_iff,
    fun h => ?_⟩, split_canonicalNames, fun h hh => cutAt?_line (l.names_valid h hh), fun query =>
    ⟨get?_eq_none_iff, fun value => ⟨get?_eq_some_iff, get?_addAll⟩⟩⟩
  obtain ⟨hne, hunbroken⟩ := not_or.mp h
  have hname : IsName a.header.name := not_not.mp fun hbad => hunbroken ((not_isName_iff hne).mp hbad)
  rw [add_of_isName l hname]
  exact ⟨rfl, toList_append l a.header hname⟩

end Headers

end Http

end KeyApproval
