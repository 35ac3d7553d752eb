import Mathlib.Data.List.Perm.Basic
import Mathlib.Data.List.Nodup
import Stencil.Proofs.Settings.Message

/-!
# `Stencil.Proofs.Settings.Entries`: which mappings are settings

`Settings.ofEntries` checks three things one after the other and then builds
the settings. `Settings.Describes` says what the three checks come to: every
key belongs to a setting, and each setting is what the mapping has under its
key, or the default where it has nothing there. `ofEntries_eq_ok_iff` says
that these mappings are accepted, with these settings, and no others are.

The constructor checks less than that: it takes any limit up to the ceiling,
zero and below included. So not all settings come back from the entries that
hold them. `Settings.entries_round_trip` says which do, and what the other way
round gives: the same mapping, with the defaults for what is missing. The refusal of
a limit with thousands of digits is one without a message
(`toEntries_refused_without_message`).
-/

set_option autoImplicit false

namespace Stencil

/-! ### Computations that may fail -/

section Except

variable {ε α β : Type} {x : Except ε α} {next : α → Except ε β}

theorem Except.bind_eq_ok_iff {b : β} :
    x >>= next = .ok b ↔ ∃ a, x = .ok a ∧ next a = .ok b := by
  cases x <;> simp [bind, Except.bind]

theorem Except.bind_eq_error_iff {e : ε} :
    x >>= next = .error e ↔ x = .error e ∨ ∃ a, x = .ok a ∧ next a = .error e := by
  cases x <;> simp [bind, Except.bind]

end Except

/-! ### Values under a key -/

namespace Value

variable {entries : List (Value × Value)} {key : Text} {value : Value}

/-- No key stands twice. -/
def IsMapping (entries : List (Value × Value)) : Prop :=
  entries.Pairwise fun a b => a.1.sameKey b.1 = false

theorem lookup?_cons_self (key : Text) (value : Value) (rest : List (Value × Value)) :
    lookup? key ((.text key, value) :: rest) = some value := by
  rw [lookup?, if_pos rfl]

theorem lookup?_cons_of_ne {k : Value} (h : k ≠ .text key) (rest : List (Value × Value)) :
    lookup? key ((k, value) :: rest) = lookup? key rest := by
  cases k with
  | text s =>
    rw [lookup?, if_neg]
    intro hs
    exact h (congrArg Value.text hs)
  | _ => rfl

/-- What is found under a key is an entry. -/
theorem mem_of_lookup? (h : lookup? key entries = some value) : (.text key, value) ∈ entries := by
  induction entries with
  | nil => cases h
  | cons entry rest ih =>
    obtain ⟨k, v⟩ := entry
    by_cases hk : k = .text key
    · subst hk
      rw [lookup?_cons_self] at h
      cases h
      exact List.mem_cons_self
    · rw [lookup?_cons_of_ne hk] at h
      exact List.mem_cons_of_mem _ (ih h)

/-- Two texts are the same key if and only if they are equal, and no other
value is the same key as a text. -/
theorem sameKey_text_iff {k : Value} : k.sameKey (.text key) = true ↔ k = .text key := by
  cases k <;> simp [sameKey, keyInteger?]

/-- An entry of a mapping is found under its key. -/
theorem lookup?_of_mem (h : IsMapping entries) (hmem : (.text key, value) ∈ entries) :
    lookup? key entries = some value := by
  induction entries with
  | nil => cases hmem
  | cons entry rest ih =>
    obtain ⟨hfirst, hrest⟩ := List.pairwise_cons.mp h
    rcases List.mem_cons.mp hmem with rfl | hmem
    · exact lookup?_cons_self key value rest
    · -- The first entry has another key.
      have hkey : entry.1 ≠ .text key := by
        intro heq
        have hdiffer := hfirst _ hmem
        rw [sameKey_text_iff.mpr heq] at hdiffer
        cases hdiffer
      exact (lookup?_cons_of_ne hkey rest).trans (ih hrest hmem)

theorem mem_iff_lookup? (h : IsMapping entries) :
    (.text key, value) ∈ entries ↔ lookup? key entries = some value :=
  ⟨lookup?_of_mem h, mem_of_lookup?⟩

/-- The key stands in no entry. -/
theorem lookup?_eq_none_iff :
    lookup? key entries = none ↔ (entries.any fun entry => entry.1.sameKey (.text key)) = false := by
  induction entries with
  | nil => simp [lookup?]
  | cons entry rest ih =>
    obtain ⟨k, v⟩ := entry
    by_cases hk : k = .text key
    · subst hk
      rw [lookup?_cons_self, List.any_cons, sameKey_text_iff.mpr rfl]
      simp
    · have hdiffer : k.sameKey (.text key) = false := by
        rw [Bool.eq_false_iff]
        exact fun h => hk (sameKey_text_iff.mp h)
      rw [lookup?_cons_of_ne hk, List.any_cons, hdiffer, Bool.false_or]
      exact ih

end Value

namespace Settings

open Value (lookup? IsMapping)

variable {entries : List (Value × Value)} {settings : Settings}

/-! ### The three checks -/

theorem isKey_iff {key : Value} :
    isKey key = true ↔ key = .text strictKey ∨ key = .text maxDepthKey := by
  cases key <;> simp [isKey]

/-- The key of a setting is a text. -/
theorem exists_text_of_isKey {key : Value} (h : isKey key = true) : ∃ s, key = .text s := by
  rcases isKey_iff.mp h with rfl | rfl
  · exact ⟨_, rfl⟩
  · exact ⟨_, rfl⟩

/-- The unknown keys. -/
def unknownKeys (entries : List (Value × Value)) : List Value :=
  (entries.map Prod.fst).filter fun key => !isKey key

theorem unknownKeys_eq_nil_iff :
    unknownKeys entries = [] ↔ ∀ entry ∈ entries, isKey entry.1 = true := by
  simp [unknownKeys]

theorem checkKeys_eq (entries : List (Value × Value)) :
    checkKeys entries = if (unknownKeys entries).isEmpty then .ok ()
      else match (unknownKeys entries).mapM keyText? with
        | some keys => .error (.unknownKeys (keys.mergeSort fun a b => !(b < a : Bool)))
        | none => .error .unlistableKeys := rfl

theorem checkKeys_eq_ok_iff :
    checkKeys entries = .ok () ↔ ∀ entry ∈ entries, isKey entry.1 = true := by
  rw [checkKeys_eq, ← unknownKeys_eq_nil_iff]
  cases unknownKeys entries with
  | nil => simp
  | cons key rest => cases (key :: rest).mapM keyText? <;> simp

/-- What is found for `strict` is a truth value, or nothing is found. -/
theorem checkStrict_eq_ok_iff {found : Option Value} {strict : Bool} :
    checkStrict found = .ok strict ↔ found.getD (.bool defaults.strict) = .bool strict := by
  cases found with
  | none => simp [checkStrict]
  | some v => cases v <;> simp [checkStrict]

/-- What is found for `maxDepth` is a positive integer, or nothing is found. -/
theorem checkDepth_eq_ok_iff {found : Option Value} {maxDepth : Int} :
    checkDepth found = .ok maxDepth ↔
      found.getD (.integer defaults.maxDepth) = .integer maxDepth ∧ 1 ≤ maxDepth := by
  cases found with
  | none =>
    simp only [checkDepth, Option.getD_none, Except.ok.injEq, Value.integer.injEq]
    constructor
    · rintro rfl
      exact ⟨rfl, by decide⟩
    · exact And.left
  | some v =>
    cases v with
    | integer n =>
      simp only [checkDepth, Option.getD_some, Value.integer.injEq]
      split
      · rename_i hn
        simp only [Except.ok.injEq]
        constructor
        · rintro rfl
          exact ⟨rfl, hn⟩
        · exact And.left
      · rename_i hn
        simp only [reduceCtorEq, false_iff]
        rintro ⟨rfl, hpos⟩
        exact hn hpos
    | _ => simp [checkDepth]

/-- The constructor refuses nothing but a limit above the ceiling. -/
theorem make_eq_ok_iff {strict : Bool} {maxDepth : Int} :
    make strict maxDepth = .ok settings ↔
      settings.strict = strict ∧ settings.maxDepth = maxDepth := by
  obtain ⟨s, m, hm⟩ := settings
  unfold make
  split
  · simp only [Except.ok.injEq, Settings.mk.injEq]
    exact and_congr eq_comm eq_comm
  · rename_i hceiling
    simp only [reduceCtorEq, false_iff]
    rintro ⟨-, rfl⟩
    exact hceiling hm

/-- The constructor refuses a limit above the ceiling. -/
theorem make_eq_error_iff {strict : Bool} {maxDepth : Int} {e : SettingsError} :
    make strict maxDepth = .error e ↔ 256 < maxDepth ∧ e = .depthTooLarge maxDepth := by
  unfold make
  split
  · rename_i hle
    have hnot : ¬ 256 < maxDepth := Int.not_lt.mpr hle
    simp [hnot]
  · rename_i hnot
    have hlt : 256 < maxDepth := Int.not_le.mp hnot
    simp [hlt, eq_comm]

/-! ### The entries of settings -/

/-- The entries describe the settings: every key belongs to a setting, and each
setting is what stands under its key, or the default where nothing does. -/
structure Describes (entries : List (Value × Value)) (settings : Settings) : Prop where
  keys : ∀ entry ∈ entries, entry.1 = .text strictKey ∨ entry.1 = .text maxDepthKey
  strict : (lookup? strictKey entries).getD (.bool false) = .bool settings.strict
  maxDepth : (lookup? maxDepthKey entries).getD (.integer 64) = .integer settings.maxDepth
  range : 1 ≤ settings.maxDepth ∧ settings.maxDepth ≤ 256

/-- Entries are accepted if and only if they describe settings, and those are
what they give. -/
theorem ofEntries_eq_ok_iff : ofEntries entries = .ok settings ↔ Describes entries settings := by
  have hkeys : checkKeys entries = .ok () ↔
      ∀ entry ∈ entries, entry.1 = .text strictKey ∨ entry.1 = .text maxDepthKey := by
    simp only [checkKeys_eq_ok_iff, isKey_iff]
  simp only [ofEntries, Except.bind_eq_ok_iff]
  constructor
  · rintro ⟨_, hcheck, strict, hstrict, maxDepth, hdepth, hmake⟩
    obtain ⟨rfl, rfl⟩ := make_eq_ok_iff.mp hmake
    obtain ⟨hdepth, hpositive⟩ := checkDepth_eq_ok_iff.mp hdepth
    exact ⟨hkeys.mp hcheck, checkStrict_eq_ok_iff.mp hstrict, hdepth, hpositive,
      settings.maxDepth_le⟩
  · intro h
    exact ⟨(), hkeys.mpr h.keys, settings.strict, checkStrict_eq_ok_iff.mpr h.strict,
      settings.maxDepth, checkDepth_eq_ok_iff.mpr ⟨h.maxDepth, h.range.1⟩,
      make_eq_ok_iff.mpr ⟨rfl, rfl⟩⟩

/-! ### Back and forth -/

/-- The mapping, with the default of each setting that it does not have. -/
def withDefaults (entries : List (Value × Value)) : List (Value × Value) :=
  entries ++ defaults.toEntries.filter fun setting =>
    !entries.any fun entry => entry.1.sameKey setting.1

theorem strictKey_ne_maxDepthKey : strictKey ≠ maxDepthKey := by
  decide

/-- The entries of settings have the one value under each key. -/
theorem mem_toEntries_iff {key value : Value} :
    (key, value) ∈ settings.toEntries ↔
      (key = .text strictKey ∧ value = .bool settings.strict) ∨
        (key = .text maxDepthKey ∧ value = .integer settings.maxDepth) := by
  simp [toEntries]

theorem nodup_toEntries (settings : Settings) : settings.toEntries.Nodup := by
  simp [toEntries]

/-- A mapping whose keys are texts has no entry twice. -/
theorem nodup_of_isMapping (hmapping : IsMapping entries)
    (htext : ∀ entry ∈ entries, ∃ s, entry.1 = .text s) : entries.Nodup := by
  refine List.Pairwise.imp_of_mem ?_ hmapping
  rintro a b ha - hdiffer rfl
  obtain ⟨s, hs⟩ := htext a ha
  rw [hs, Value.sameKey_text_iff.mpr rfl] at hdiffer
  cases hdiffer

/-- With the defaults, a key has what stands under it, or its default. -/
theorem mem_withDefaults_iff (hmapping : IsMapping entries) {key : Text} {value default : Value}
    (hdefault : (.text key, value) ∈ defaults.toEntries ↔ value = default) :
    (.text key, value) ∈ withDefaults entries ↔ value = (lookup? key entries).getD default := by
  rw [withDefaults, List.mem_append, List.mem_filter, hdefault, Value.mem_iff_lookup? hmapping,
    Bool.not_eq_true', ← Value.lookup?_eq_none_iff]
  cases lookup? key entries with
  | none => simp
  | some found => simp [eq_comm]

theorem nodup_withDefaults (hmapping : IsMapping entries)
    (htext : ∀ entry ∈ entries, ∃ s, entry.1 = .text s) : (withDefaults entries).Nodup := by
  refine (nodup_of_isMapping hmapping htext).append ((nodup_toEntries defaults).filter _) ?_
  -- A default is added only where its key is missing.
  intro entry hentry hadded
  have hmissing := (List.mem_filter.mp hadded).2
  obtain ⟨s, hs⟩ := htext entry hentry
  have hsame : entry.1.sameKey entry.1 = true := by
    rw [hs]
    exact Value.sameKey_text_iff.mpr rfl
  rw [Bool.not_eq_true', List.any_eq_false] at hmissing
  exact hmissing entry hentry hsame

/-- The settings that a mapping describes have the entries of that mapping, and
the defaults for those that are missing. -/
theorem Describes.perm_withDefaults (h : Describes entries settings)
    (hmapping : IsMapping entries) : settings.toEntries.Perm (withDefaults entries) := by
  have htext : ∀ entry ∈ entries, ∃ s, entry.1 = .text s :=
    fun entry hentry => exists_text_of_isKey (isKey_iff.mpr (h.keys entry hentry))
  rw [List.perm_ext_iff_of_nodup (nodup_toEntries settings) (nodup_withDefaults hmapping htext)]
  rintro ⟨key, value⟩
  by_cases hstrict : key = .text strictKey
  · have hdefault : (.text strictKey, value) ∈ defaults.toEntries ↔ value = .bool false := by
      simp [mem_toEntries_iff, strictKey_ne_maxDepthKey, defaults]
    rw [hstrict, mem_withDefaults_iff hmapping hdefault, h.strict, mem_toEntries_iff]
    simp [strictKey_ne_maxDepthKey]
  · by_cases hdepth : key = .text maxDepthKey
    · have hdefault : (.text maxDepthKey, value) ∈ defaults.toEntries ↔ value = .integer 64 := by
        simp [mem_toEntries_iff, strictKey_ne_maxDepthKey.symm, defaults]
      rw [hdepth, mem_withDefaults_iff hmapping hdefault, h.maxDepth, mem_toEntries_iff]
      simp [strictKey_ne_maxDepthKey.symm]
    · -- There are no other keys on either side.
      rw [mem_toEntries_iff, withDefaults, List.mem_append, List.mem_filter, mem_toEntries_iff]
      simp only [hstrict, hdepth, false_and, or_false, false_iff]
      intro hmem
      rcases h.keys _ hmem with hkey | hkey
      · exact hstrict hkey
      · exact hdepth hkey

/-- The entries of settings describe them, if their limit is positive. -/
theorem describes_toEntries (h : 1 ≤ settings.maxDepth) :
    Describes settings.toEntries settings := by
  refine ⟨?_, ?_, ?_, h, settings.maxDepth_le⟩
  · simp [toEntries]
  · rw [toEntries, Value.lookup?_cons_self, Option.getD_some]
  · have hne : Value.text strictKey ≠ .text maxDepthKey := by
      simp [strictKey_ne_maxDepthKey]
    rw [toEntries, Value.lookup?_cons_of_ne hne, Value.lookup?_cons_self, Option.getD_some]

/-- The entries of settings with a limit of zero or below are refused for that
limit. -/
theorem ofEntries_toEntries_of_lt (h : settings.maxDepth < 1) :
    ofEntries settings.toEntries = .error (.depthNotPositive (.integer settings.maxDepth)) := by
  have hkeys : checkKeys settings.toEntries = .ok () :=
    checkKeys_eq_ok_iff.mpr (by simp [toEntries, isKey])
  have hne : Value.text strictKey ≠ .text maxDepthKey := by
    simp [strictKey_ne_maxDepthKey]
  have hstrict : lookup? strictKey settings.toEntries = some (.bool settings.strict) :=
    Value.lookup?_cons_self _ _ _
  have hdepth : lookup? maxDepthKey settings.toEntries = some (.integer settings.maxDepth) :=
    (Value.lookup?_cons_of_ne hne _).trans (Value.lookup?_cons_self _ _ _)
  have hrefused : checkDepth (some (.integer settings.maxDepth)) =
      .error (.depthNotPositive (.integer settings.maxDepth)) := if_neg (Int.not_le.mpr h)
  rw [ofEntries, hkeys, hstrict, hdepth, hrefused]
  rfl

/-- An integer is shown in the refusal of a limit that is too low unless it is long. -/
theorem message?_depthNotPositive_eq_none_iff {n : Int} :
    (SettingsError.depthNotPositive (.integer n)).message? = none ↔ Integer.IsLong n := by
  rw [SettingsError.message?_eq_none_iff, SettingsError.Unwritten, Value.unwritten_integer_iff]

/-- **Settings and entries are inverse where settings are valid, and nowhere
else.** The constructor takes every limit up to the ceiling. Settings come back
from their entries if their limit is positive, and are refused otherwise. A
mapping that is accepted comes back from its settings, with the default for
what it does not have, and their limit lies between 1 and 256.

The refusals of either have a message if and only if the limit is not too long to
be written out. -/
theorem entries_round_trip (strict : Bool) (maxDepth : Int) :
    ((∃ settings, make strict maxDepth = .ok settings) ↔ maxDepth ≤ 256) ∧
    (∀ e, make strict maxDepth = .error e →
      e = .depthTooLarge maxDepth ∧ (e.message? = none ↔ Integer.IsLong maxDepth)) ∧
    (∀ settings, make strict maxDepth = .ok settings →
      (settings.strict = strict ∧ settings.maxDepth = maxDepth) ∧
      (1 ≤ maxDepth → ofEntries settings.toEntries = .ok settings) ∧
      (maxDepth < 1 →
        let e : SettingsError := .depthNotPositive (.integer maxDepth)
        ofEntries settings.toEntries = .error e ∧
          (e.message? = none ↔ Integer.IsLong maxDepth))) ∧
    ∀ entries settings, IsMapping entries → ofEntries entries = .ok settings →
      settings.toEntries.Perm (withDefaults entries) ∧
        1 ≤ settings.maxDepth ∧ settings.maxDepth ≤ 256 := by
  refine ⟨?_, ?_, ?_, ?_⟩
  · constructor
    · rintro ⟨settings, hmake⟩
      obtain ⟨-, rfl⟩ := make_eq_ok_iff.mp hmake
      exact settings.maxDepth_le
    · intro hle
      exact ⟨⟨strict, maxDepth, hle⟩, make_eq_ok_iff.mpr ⟨rfl, rfl⟩⟩
  · intro e hmake
    obtain ⟨-, rfl⟩ := make_eq_error_iff.mp hmake
    exact ⟨rfl, SettingsError.message?_eq_none_iff⟩
  · intro settings hmake
    obtain ⟨rfl, rfl⟩ := make_eq_ok_iff.mp hmake
    refine ⟨⟨rfl, rfl⟩, ?_, ?_⟩
    · intro hpositive
      exact ofEntries_eq_ok_iff.mpr (describes_toEntries hpositive)
    · intro hlow
      exact ⟨ofEntries_toEntries_of_lt hlow, message?_depthNotPositive_eq_none_iff⟩
  · intro entries settings hmapping haccepted
    have hdescribes := ofEntries_eq_ok_iff.mp haccepted
    exact ⟨hdescribes.perm_withDefaults hmapping, hdescribes.range⟩

/-- Settings with the limit 3 come back and those with the limit 0 do not, and a
mapping that has the limit only comes back with the default for the rest. -/
theorem entries_round_trip_limits :
    let entries : List (Value × Value) := [(.text maxDepthKey, .integer 3)]
    let three : Settings := ⟨false, 3, by decide⟩
    let zero : Settings := ⟨false, 0, by decide⟩
    make false 3 = .ok three ∧ ofEntries three.toEntries = .ok three ∧
      make false 0 = .ok zero ∧
      ofEntries zero.toEntries = .error (.depthNotPositive (.integer 0)) ∧
      (SettingsError.depthNotPositive (.integer 0)).message? ≠ none ∧
      IsMapping entries ∧ ofEntries entries = .ok three ∧
      three.toEntries.Perm (withDefaults entries) := by
  intro entries three zero
  have hmapping : IsMapping entries := List.pairwise_singleton _ _
  have haccepted : ofEntries entries = .ok three := by rfl
  obtain ⟨-, -, hthree, hback⟩ := entries_round_trip false 3
  obtain ⟨-, -, hzero, -⟩ := entries_round_trip false 0
  obtain ⟨hrefused, hmessage⟩ := (hzero zero rfl).2.2 (by decide)
  have hshort : ¬ Integer.IsLong 0 := Integer.not_isLong_of_natAbs_lt (by decide)
  exact ⟨rfl, (hthree three rfl).2.1 (by decide), rfl, hrefused,
    fun hnone => hshort (hmessage.mp hnone), hmapping, haccepted,
    (hback entries three hmapping haccepted).1⟩

/-- A limit far below zero makes settings, and the refusal of their entries has no
message. It is the highest limit for which this is so. -/
theorem toEntries_refused_without_message :
    let limit : Int := -(Nat.pow 10 Integer.digitLimit)
    ∃ settings, make false limit = .ok settings ∧
      ∃ e, ofEntries settings.toEntries = .error e ∧ e.message? = none := by
  intro limit
  have hlow : limit ≤ 0 := Int.neg_nonpos_of_nonneg (Int.natCast_nonneg _)
  have hceiling : limit ≤ depthCeiling := Int.le_trans hlow (by decide)
  exact ⟨⟨false, limit, hceiling⟩, make_eq_ok_iff.mpr ⟨rfl, rfl⟩, _,
    ofEntries_toEntries_of_lt (Int.lt_of_le_of_lt hlow (by decide)),
    message?_depthNotPositive_eq_none_iff.mpr Integer.isLong_neg_pow⟩

end Settings

end Stencil
