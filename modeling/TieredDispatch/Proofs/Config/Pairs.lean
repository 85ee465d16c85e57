import Mathlib.Data.List.Forall2
import TieredDispatch.Proofs.Config.Merge
import TieredDispatch.Proofs.List.First
import TieredDispatch.Proofs.Text.Pieces

/-!
# Settings as `KEY=VALUE` texts

A text gives the setting on the two sides of its first `=`, trimmed.  Settings that are trimmed, and have a key
without `=`, can be written in this way and read again; no others come out of a reading.

* `Text.cut_eq_some_iff`: the two sides of the first separator.
* `Config.parsePair_eq_ok_iff`, `Config.parsePair_eq_error_iff`: what one text gives.
* `Config.addPairs_eq_ok_iff`, `Config.addPairs_eq_error_iff`: what several texts give.
* `Config.ofPairs_inverts_rendering`: reading is inverse to writing on exactly what it can give.
-/

namespace TieredDispatch

namespace Text

variable {sep : Char} {cs before after : List Char} {s : String}

/-! ## The first separator -/

theorem cutChars_eq_none_iff : cutChars sep cs = none ↔ sep ∉ cs := by
  induction cs with
  | nil => simp [cutChars]
  | cons c cs ih =>
    by_cases hc : c = sep
    · simp [cutChars, hc]
    · simp [cutChars, hc, ih, Ne.symm hc]

theorem cutChars_append (h : sep ∉ before) (after : List Char) :
    cutChars sep (before ++ sep :: after) = some (before, after) := by
  induction before with
  | nil => simp [cutChars]
  | cons c before ih =>
    obtain ⟨hc, hBefore⟩ := List.ne_and_not_mem_of_not_mem_cons h
    simp [cutChars, Ne.symm hc, ih hBefore]

theorem cutChars_eq_some_iff :
    cutChars sep cs = some (before, after) ↔ cs = before ++ sep :: after ∧ sep ∉ before := by
  constructor
  · intro h
    have hMem : sep ∈ cs := by
      by_contra hNone
      rw [cutChars_eq_none_iff.mpr hNone] at h
      cases h
    obtain ⟨left, right, rfl, hLeft⟩ := List.eq_append_cons_of_mem hMem
    rw [cutChars_append hLeft] at h
    cases h
    exact ⟨rfl, hLeft⟩
  · rintro ⟨rfl, hBefore⟩
    exact cutChars_append hBefore after

theorem cut_eq_none_iff : cut sep s = none ↔ sep ∉ s.toList := by
  rw [cut, Option.map_eq_none_iff, cutChars_eq_none_iff]

theorem cut_eq_some_iff {left right : String} :
    cut sep s = some (left, right) ↔ s.toList = left.toList ++ sep :: right.toList ∧ sep ∉ left.toList := by
  rw [cut, Option.map_eq_some_iff]
  constructor
  · rintro ⟨⟨before, after⟩, hCut, hSides⟩
    cases hSides
    simpa only [String.toList_ofList] using cutChars_eq_some_iff.mp hCut
  · intro h
    exact ⟨(left.toList, right.toList), cutChars_eq_some_iff.mpr h, by simp⟩

theorem trim_eq_empty_iff : trim s = "" ↔ ∀ c ∈ s.toList, isBlank c := by
  rw [← trimmed_iff]
  constructor
  · rintro ⟨⟨before, after, hFramed, hBefore, hAfter⟩, -, -⟩ c hc
    rw [hFramed] at hc
    simp only [String.toList_empty, List.append_nil, List.mem_append] at hc
    exact hc.elim (hBefore c) (hAfter c)
  · intro h
    exact ⟨⟨s.toList, [], by simp, h, by simp⟩, rfl, rfl⟩

/-- Trimming takes no character away that is not blank. -/
theorem mem_trim {c : Char} (hc : isBlank c = false) : c ∈ (trim s).toList ↔ c ∈ s.toList := by
  rw [toList_trim, mem_trimChars hc]

end Text

namespace Config

variable {c c' : Config} {pair key value : String} {pairs : List String} {e : InputError}

/-! ## One text -/

/-- Whether a text has no `=`, or nothing but blanks before its first one. -/
def Malformed (pair : String) : Prop :=
  '=' ∉ pair.toList ∨
    ∃ before after, pair.toList = before ++ '=' :: after ∧ ∀ c ∈ before, Text.isBlank c

/-- Whether a setting can stand in a text: it is trimmed, and its key is there and has no `=`. -/
structure Writable (key value : String) : Prop where
  key_nonempty : key ≠ ""
  key_trimmed : Text.trim key = key
  key_plain : '=' ∉ key.toList
  value_trimmed : Text.trim value = value

/-- The text of a setting. -/
def pairText (setting : String × String) : String := setting.1 ++ "=" ++ setting.2

theorem toList_pairText (setting : String × String) :
    (pairText setting).toList = setting.1.toList ++ '=' :: setting.2.toList := by
  simp [pairText]

theorem malformed_of_cut_eq_none (h : Text.cut '=' pair = none) : Malformed pair :=
  Or.inl (Text.cut_eq_none_iff.mp h)

/-- No `=` is blank, so that the first one is the one with nothing but blanks before it. -/
theorem malformed_iff_of_cut {left right : String} (h : Text.cut '=' pair = some (left, right)) :
    Malformed pair ↔ Text.trim left = "" := by
  obtain ⟨hSides, hLeft⟩ := Text.cut_eq_some_iff.mp h
  rw [Text.trim_eq_empty_iff]
  constructor
  · rintro (hNone | ⟨before, after, hBlank, hBefore⟩)
    · exact absurd (hSides ▸ List.mem_append_right _ List.mem_cons_self) hNone
    · have hPlain : '=' ∉ before := fun hMem => absurd (hBefore _ hMem) (by decide)
      have hCut := Text.cutChars_eq_some_iff.mpr ⟨hBlank, hPlain⟩
      rw [Text.cutChars_eq_some_iff.mpr ⟨hSides, hLeft⟩] at hCut
      cases hCut
      exact hBefore
  · intro hBlank
    exact Or.inr ⟨left.toList, right.toList, hSides, hBlank⟩

theorem parsePair_of_cut {left right : String} (h : Text.cut '=' pair = some (left, right)) :
    parsePair pair = if Text.trim left = "" then .error (.malformedPair pair)
      else .ok (Text.trim left, Text.trim right) := by
  simp only [parsePair, h, String.isEmpty_iff]

theorem parsePair_eq_error_iff : parsePair pair = .error e ↔ Malformed pair ∧ e = .malformedPair pair := by
  cases hCut : Text.cut '=' pair with
  | none => simp [parsePair, hCut, malformed_of_cut_eq_none hCut, eq_comm]
  | some sides =>
    rw [parsePair_of_cut hCut, malformed_iff_of_cut hCut]
    split
    · next hEmpty => simp [hEmpty, eq_comm]
    · next hSome => simp [hSome]

/-- What a text gives can be written again. -/
theorem writable_of_parsePair (h : parsePair pair = .ok (key, value)) : Writable key value := by
  cases hCut : Text.cut '=' pair with
  | none => simp [parsePair, hCut] at h
  | some sides =>
    obtain ⟨left, right⟩ := sides
    rw [parsePair_of_cut hCut] at h
    split at h
    · cases h
    · next hSome =>
      cases h
      have hPlain := (Text.cut_eq_some_iff.mp hCut).2
      exact ⟨hSome, Text.trim_trim left, fun hMem => hPlain ((Text.mem_trim (by decide)).mp hMem),
        Text.trim_trim right⟩

theorem parsePair_pairText (h : Writable key value) : parsePair (pairText (key, value)) = .ok (key, value) := by
  have hCut : Text.cut '=' (pairText (key, value)) = some (key, value) :=
    Text.cut_eq_some_iff.mpr ⟨toList_pairText _, h.key_plain⟩
  rw [parsePair_of_cut hCut, h.key_trimmed, h.value_trimmed, if_neg h.key_nonempty]

/-! ## Several texts -/

/-- Whether texts give settings, each text one of them. -/
def Give : List String → List (String × String) → Prop :=
  List.Forall₂ fun pair setting => parsePair pair = .ok setting

theorem addPairs_of_give {settings : List (String × String)} (h : Give pairs settings) (c : Config) :
    addPairs c pairs = .ok (c.insertAll settings) := by
  induction h generalizing c with
  | nil => rfl
  | cons hFirst _ ih =>
    simp only [addPairs, hFirst]
    exact ih _

/-- The first malformed text is reported, whatever there is after it. -/
theorem addPairs_eq_error_iff :
    addPairs c pairs = .error e ↔ ∃ pair, IsFirst Malformed pairs pair ∧ e = .malformedPair pair := by
  induction pairs generalizing c with
  | nil => simp [addPairs, IsFirst]
  | cons first rest ih =>
    simp only [IsFirst.cons_iff]
    cases hFirst : parsePair first with
    | error err =>
      obtain ⟨hMalformed, rfl⟩ := parsePair_eq_error_iff.mp hFirst
      simp [addPairs, hFirst, hMalformed, eq_comm]
    | ok setting =>
      have hGood : ¬ Malformed first := fun hMalformed => by
        rw [parsePair_eq_error_iff.mpr ⟨hMalformed, rfl⟩] at hFirst
        cases hFirst
      simp only [addPairs, hFirst, hGood, false_and, not_false_eq_true, true_and, false_or]
      exact ih

theorem exists_give_of_forall (h : ∀ pair ∈ pairs, ¬ Malformed pair) : ∃ settings, Give pairs settings := by
  induction pairs with
  | nil => exact ⟨[], .nil⟩
  | cons pair pairs ih =>
    obtain ⟨hFirst, hRest⟩ := List.forall_mem_cons.mp h
    obtain ⟨settings, hGive⟩ := ih hRest
    cases hPair : parsePair pair with
    | error err => exact absurd (parsePair_eq_error_iff.mp hPair).1 hFirst
    | ok setting => exact ⟨setting :: settings, .cons hPair hGive⟩

/-- Texts that are all well-formed add the settings that they give. -/
theorem addPairs_eq_ok_iff :
    addPairs c pairs = .ok c' ↔ ∃ settings, Give pairs settings ∧ c' = c.insertAll settings := by
  constructor
  · intro h
    rcases IsFirst.exists_or_forall_not Malformed pairs with ⟨pair, hFirst⟩ | hGood
    · rw [addPairs_eq_error_iff.mpr ⟨pair, hFirst, rfl⟩] at h
      cases h
    · obtain ⟨settings, hGive⟩ := exists_give_of_forall hGood
      rw [addPairs_of_give hGive] at h
      cases h
      exact ⟨settings, hGive, rfl⟩
  · rintro ⟨settings, hGive, rfl⟩
    exact addPairs_of_give hGive c

theorem Give.writable {settings : List (String × String)} (h : Give pairs settings) :
    ∀ setting ∈ settings, Writable setting.1 setting.2 := by
  induction h with
  | nil => simp
  | cons hFirst _ ih => exact List.forall_mem_cons.mpr ⟨writable_of_parsePair hFirst, ih⟩

theorem give_map_pairText {settings : List (String × String)}
    (h : ∀ setting ∈ settings, Writable setting.1 setting.2) : Give (settings.map pairText) settings := by
  induction settings with
  | nil => exact .nil
  | cons setting settings ih =>
    obtain ⟨hFirst, hRest⟩ := List.forall_mem_cons.mp h
    exact .cons (parsePair_pairText hFirst) (ih hRest)

/-! ## Whole configurations -/

/-- Whether all settings of a configuration can stand in a text. -/
def Renderable (c : Config) : Prop :=
  ∀ key value, c.get? key = some value → Writable key value

theorem renderable_of_ofPairs (h : ofPairs pairs = .ok c) : c.Renderable := by
  obtain ⟨settings, hGive, rfl⟩ := addPairs_eq_ok_iff.mp h
  exact fun key value hGet => hGive.writable _ (TextMap.mem_of_get?_ofList hGet)

theorem ofPairs_map_pairText (h : c.Renderable) {entries : List (String × String)}
    (hEntries : entries.Perm c.entries) : ofPairs (entries.map pairText) = .ok c := by
  have hWritable : ∀ setting ∈ entries, Writable setting.1 setting.2 := fun setting hMem =>
    h _ _ (TextMap.mem_entries_iff.mp (hEntries.mem_iff.mp hMem))
  have hSame : TextMap.empty.insertAll entries = c := TextMap.ofList_perm hEntries
  rw [ofPairs, addPairs_of_give (give_map_pairText hWritable), hSame]

/-- Reading `KEY=VALUE` texts is inverse to writing them on exactly what can be read.  The texts of a
configuration's settings give it again, in any order, if its keys are there, trimmed and without `=`, and its
values are trimmed; a reading gives no other configurations.  It fails just for texts without `=`, or with
nothing but blanks before it, and reports the first of them as it is. -/
theorem ofPairs_inverts_rendering (c : Config) (pairs : List String) :
    (c.Renderable → ∀ entries : List (String × String), entries.Perm c.entries →
      ofPairs (entries.map pairText) = .ok c) ∧
    (ofPairs pairs = .ok c → c.Renderable ∧ ofPairs (c.entries.map pairText) = .ok c) ∧
    ((∃ e, ofPairs pairs = .error e) ↔ ∃ pair ∈ pairs, Malformed pair) ∧
    ∀ e, ofPairs pairs = .error e ↔ ∃ pair, IsFirst Malformed pairs pair ∧ e = .malformedPair pair := by
  refine ⟨fun h entries hEntries => ofPairs_map_pairText h hEntries, fun h => ?_, ?_, fun e => addPairs_eq_error_iff⟩
  · have hRenderable := renderable_of_ofPairs h
    exact ⟨hRenderable, ofPairs_map_pairText hRenderable (List.Perm.refl _)⟩
  · simp only [ofPairs, addPairs_eq_error_iff]
    constructor
    · rintro ⟨e, pair, hFirst, rfl⟩
      exact ⟨pair, hFirst.mem, hFirst.1⟩
    · rintro ⟨pair, hMem, hMalformed⟩
      obtain ⟨first, hFirst⟩ := IsFirst.exists_of_mem hMem hMalformed
      exact ⟨_, first, hFirst, rfl⟩

/-- Settings of which one value holds a `=`, and the other is empty. -/
def oddSettings : Config := .ofList [("AUTO_X", "a=b"), ("PERF_COUNT", "")]

/-- Such settings are read from texts with blanks and with a value that is overridden, and are read again when
they are written the other way around; and where the key is a blank, that text is reported and not the next. -/
theorem ofPairs_inverts_rendering_odd :
    ofPairs ["AUTO_X=c", " AUTO_X = a=b ", "PERF_COUNT="] = .ok oddSettings ∧
    ofPairs ["PERF_COUNT=", "AUTO_X=a=b"] = .ok oddSettings ∧
    ofPairs ["A=1", "\u00a0=2", "B"] = .error (.malformedPair "\u00a0=2") := by
  have hRead : ofPairs ["AUTO_X=c", " AUTO_X = a=b ", "PERF_COUNT="] = .ok oddSettings := by decide +kernel
  have hOdd := ofPairs_inverts_rendering oddSettings ["AUTO_X=c", " AUTO_X = a=b ", "PERF_COUNT="]
  have hCut : Text.cut '=' "A=1" = some ("A", "1") := by decide +kernel
  have hGood : ¬ Malformed "A=1" := (malformed_iff_of_cut hCut).not.mpr (by decide +kernel)
  have hBlank : Malformed "\u00a0=2" :=
    Or.inr ⟨['\u00a0'], ['2'], by decide, List.forall_mem_singleton.mpr (by decide)⟩
  refine ⟨hRead, hOdd.1 (hOdd.2.1 hRead).1 [("PERF_COUNT", ""), ("AUTO_X", "a=b")] (by decide +kernel), ?_⟩
  exact ((ofPairs_inverts_rendering oddSettings _).2.2.2 _).mpr
    ⟨_, ⟨hBlank, ["A=1"], ["B"], rfl, by simpa using hGood⟩, rfl⟩

end Config

end TieredDispatch
