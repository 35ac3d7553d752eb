import Stencil.Proofs.Settings.Entries

/-!
# `Stencil.Proofs.Settings.Refusal`: which refusals have a message

Entries that are no settings are refused by the first check that fails, and the
message shows what was refused: the unknown keys, or the value of a setting. Where
that cannot be shown, there is no message. `Settings.Unexplained` has the ways in
which this may be, and `message?_eq_none_iff_unexplained` says that there are no
others.

There is a lemma for each check that says what it refuses, and one that says what
matters to a message if that check is the one that fails.
-/

set_option autoImplicit false

namespace Stencil.Settings

open Value (lookup?)

variable {entries : List (Value × Value)} {e : SettingsError} {value : Value}

/-! ### Keys that cannot be listed -/

/-- A key that is no text belongs to no setting. -/
theorem isKey_eq_false_of_keyText? {key : Value} (h : keyText? key = none) :
    isKey key = false := by
  cases key with
  | text s => cases h
  | _ => rfl

theorem keyText?_eq_none_iff {key : Value} : keyText? key = none ↔ ∀ s, key ≠ .text s := by
  cases key <;> simp [keyText?]

/-- Keys can be listed unless one of them is no text. -/
theorem mapM_keyText?_eq_none_iff {keys : List Value} :
    keys.mapM keyText? = none ↔ ∃ key ∈ keys, keyText? key = none := by
  induction keys with
  | nil => simp
  | cons key rest ih =>
    rw [List.mapM_cons, List.exists_mem_cons_iff, ← ih]
    cases keyText? key with
    | none => simp
    | some s => cases List.mapM keyText? rest <;> simp

/-- The unknown keys cannot be listed if and only if some key is no text. -/
theorem mapM_unknownKeys_eq_none_iff :
    (unknownKeys entries).mapM keyText? = none ↔ ∃ entry ∈ entries, ∀ s, entry.1 ≠ .text s := by
  rw [mapM_keyText?_eq_none_iff]
  constructor
  · rintro ⟨key, hkey, hnone⟩
    obtain ⟨entry, hentry, rfl⟩ := List.mem_map.mp (List.mem_filter.mp hkey).1
    exact ⟨entry, hentry, keyText?_eq_none_iff.mp hnone⟩
  · rintro ⟨entry, hentry, htext⟩
    have hnone := keyText?_eq_none_iff.mpr htext
    refine ⟨entry.1, List.mem_filter.mpr ⟨List.mem_map_of_mem hentry, ?_⟩, hnone⟩
    rw [isKey_eq_false_of_keyText? hnone]
    rfl

/-- Keys that are not all texts are refused without a list of them. -/
theorem checkKeys_eq_unlistableKeys_iff :
    checkKeys entries = .error .unlistableKeys ↔ ∃ entry ∈ entries, ∀ s, entry.1 ≠ .text s := by
  rw [checkKeys_eq, ← mapM_unknownKeys_eq_none_iff]
  cases unknownKeys entries with
  | nil => simp
  | cons key rest => cases (key :: rest).mapM keyText? <;> simp

/-! ### What each check refuses -/

/-- What is found for `strict` is refused if it is no truth value. -/
theorem checkStrict_eq_error_iff {found : Option Value} :
    checkStrict found = .error e ↔
      ∃ v, found = some v ∧ (∀ b, v ≠ .bool b) ∧ e = .strictNotBoolean v := by
  cases found with
  | none => simp [checkStrict]
  | some v => cases v <;> simp [checkStrict, eq_comm]

/-- What is found for `maxDepth` is refused if it is no positive integer. -/
theorem checkDepth_eq_error_iff {found : Option Value} :
    checkDepth found = .error e ↔
      ∃ v, found = some v ∧ (∀ n, v = .integer n → n < 1) ∧ e = .depthNotPositive v := by
  cases found with
  | none => simp [checkDepth]
  | some v =>
    cases v with
    | integer n =>
      by_cases hn : 1 ≤ n
      · simp [checkDepth, hn, Int.not_lt.mpr hn]
      · simp [checkDepth, hn, Int.not_le.mp hn, eq_comm]
    | _ => simp [checkDepth, eq_comm]

/-- Keys are refused with a list of them, or without one if some key is no text. -/
theorem unwritten_iff_of_checkKeys (h : checkKeys entries = .error e) :
    e.Unwritten ↔ ∃ entry ∈ entries, ∀ s, entry.1 ≠ .text s := by
  rw [← checkKeys_eq_unlistableKeys_iff, h]
  rw [checkKeys_eq] at h
  split at h
  · cases h
  · split at h <;> cases h
    · exact ⟨nofun, nofun⟩
    · exact ⟨fun _ => rfl, fun _ => trivial⟩

/-! ### Refusals without a message -/

/-- The ways in which entries are refused without a message. The checks come one
after the other, so each way needs that those before it went well. -/
inductive Unexplained (entries : List (Value × Value)) : Prop
  | key (entry : Value × Value) (hentry : entry ∈ entries) (h : ∀ s, entry.1 ≠ .text s)
  | strict (keys : ∀ entry ∈ entries, isKey entry.1 = true) (value : Value)
    (hvalue : lookup? strictKey entries = some value) (h : value.Unwritten)
  | maxDepth (keys : ∀ entry ∈ entries, isKey entry.1 = true) (strict : Bool)
    (hstrict : (lookup? strictKey entries).getD (.bool false) = .bool strict) (value : Value)
    (hvalue : lookup? maxDepthKey entries = some value) (h : value.Unwritten)

/-- If a key belongs to no setting, only the keys matter. -/
theorem unexplained_iff_of_unknown (h : ¬ ∀ entry ∈ entries, isKey entry.1 = true) :
    Unexplained entries ↔ ∃ entry ∈ entries, ∀ s, entry.1 ≠ .text s := by
  constructor
  · rintro (⟨entry, hentry, htext⟩ | ⟨hkeys⟩ | ⟨hkeys⟩)
    · exact ⟨entry, hentry, htext⟩
    · exact absurd hkeys h
    · exact absurd hkeys h
  · rintro ⟨entry, hentry, htext⟩
    exact .key entry hentry htext

/-- If `strict` is refused, only its value matters. -/
theorem unexplained_iff_of_strict (hkeys : ∀ entry ∈ entries, isKey entry.1 = true)
    (hvalue : lookup? strictKey entries = some value) (hrefused : ∀ b, value ≠ .bool b) :
    Unexplained entries ↔ value.Unwritten := by
  constructor
  · rintro (⟨entry, hentry, htext⟩ | ⟨-, found, hfound, h⟩ | ⟨-, strict, hstrict, -⟩)
    · obtain ⟨s, hs⟩ := exists_text_of_isKey (hkeys entry hentry)
      exact absurd hs (htext s)
    · obtain rfl := Option.some.inj (hvalue.symm.trans hfound)
      exact h
    · rw [hvalue] at hstrict
      exact absurd hstrict (hrefused strict)
  · exact .strict hkeys value hvalue

/-- If `strict` is accepted, only the value of `maxDepth` matters. -/
theorem unexplained_iff_of_maxDepth (hkeys : ∀ entry ∈ entries, isKey entry.1 = true)
    {strict : Bool} (hstrict : (lookup? strictKey entries).getD (.bool false) = .bool strict) :
    Unexplained entries ↔ ∃ v, lookup? maxDepthKey entries = some v ∧ v.Unwritten := by
  constructor
  · rintro (⟨entry, hentry, htext⟩ | ⟨-, found, hfound, h⟩ | ⟨-, -, -, found, hfound, h⟩)
    · obtain ⟨s, hs⟩ := exists_text_of_isKey (hkeys entry hentry)
      exact absurd hs (htext s)
    · rw [hfound] at hstrict
      obtain rfl : found = .bool strict := hstrict
      exact absurd h (Value.not_unwritten_bool strict)
    · exact ⟨found, hfound, h⟩
  · rintro ⟨v, hv, h⟩
    exact .maxDepth hkeys strict hstrict v hv h

/-- **Which refusals have no message.** -/
theorem message?_eq_none_iff_unexplained (h : ofEntries entries = .error e) :
    e.message? = none ↔ Unexplained entries := by
  rw [SettingsError.message?_eq_none_iff]
  simp only [ofEntries, Except.bind_eq_error_iff] at h
  rcases h with hkeys | ⟨_, hkeys, hstrict | ⟨strict, hstrict, hdepth | ⟨n, hdepth, hmake⟩⟩⟩
  · have hunknown : ¬ ∀ entry ∈ entries, isKey entry.1 = true := by
      intro hknown
      rw [checkKeys_eq_ok_iff.mpr hknown] at hkeys
      cases hkeys
    rw [unwritten_iff_of_checkKeys hkeys, unexplained_iff_of_unknown hunknown]
  · obtain ⟨v, hv, hrefused, rfl⟩ := checkStrict_eq_error_iff.mp hstrict
    exact (unexplained_iff_of_strict (checkKeys_eq_ok_iff.mp hkeys) hv hrefused).symm
  · obtain ⟨v, hv, -, rfl⟩ := checkDepth_eq_error_iff.mp hdepth
    rw [unexplained_iff_of_maxDepth (checkKeys_eq_ok_iff.mp hkeys)
      (checkStrict_eq_ok_iff.mp hstrict), hv]
    simp [SettingsError.Unwritten]
  · obtain ⟨hlarge, rfl⟩ := make_eq_error_iff.mp hmake
    obtain ⟨hfound, -⟩ := checkDepth_eq_ok_iff.mp hdepth
    rw [unexplained_iff_of_maxDepth (checkKeys_eq_ok_iff.mp hkeys)
      (checkStrict_eq_ok_iff.mp hstrict)]
    cases hv : lookup? maxDepthKey entries with
    | none =>
      -- The default is below the ceiling.
      rw [hv] at hfound
      obtain rfl : 64 = n := Value.integer.inj hfound
      exact absurd hlarge (by decide)
    | some v =>
      rw [hv] at hfound
      obtain rfl : v = .integer n := hfound
      simp [SettingsError.Unwritten, Value.unwritten_integer_iff]

end Stencil.Settings
