import Mathlib
import Stencil.Proofs.Settings.Refusal
import Stencil.Settings.Document

/-!
# `Stencil.Proofs.Settings.Document`: which documents hold settings

What a settings file comes to is decided by the value of its document alone,
whatever reader gave that value. `Settings.document_decides_settings` says
which values are accepted and with which settings: mappings that describe
settings (`Settings.Describes`), and values that count as false, which stand
for the defaults. Every other value is refused.

A refusal has a message for the person who wrote the file, unless what is refused
cannot be shown (`Settings.Unexplained`). A mapping with a key that is no text is
refused without a message, and so is a mapping with a value that is not written out,
if it is that value which is refused.
-/

set_option autoImplicit false

namespace Stencil

namespace Settings

section Except

variable {ε ε' α : Type} {x : Except ε α} {f : ε → ε'}

theorem mapError_eq_ok_iff {a : α} : x.mapError f = .ok a ↔ x = .ok a := by
  cases x <;> simp [Except.mapError]

theorem mapError_eq_error_iff {e : ε'} :
    x.mapError f = .error e ↔ ∃ e', x = .error e' ∧ f e' = e := by
  cases x <;> simp [Except.mapError]

end Except

/-- An empty mapping describes the defaults. -/
theorem ofEntries_nil : ofEntries [] = .ok defaults := rfl

/-- A mapping that counts as false is empty. -/
theorem eq_nil_of_isFalsy {entries : List (Value × Value)}
    (h : (Value.map entries).isFalsy = true) : entries = [] :=
  List.isEmpty_iff.mp h

/-- A value counts as false, or it is a mapping that does not, or neither. -/
theorem ofValue_cases (file : Text) (value : Value) :
    (value.isFalsy = true ∧ ofValue file value = .ok defaults) ∨
      (∃ entries, value = .map entries ∧
        ofValue file value = (ofEntries entries).mapError .refused) ∨
      (value.isFalsy = false ∧ (∀ entries, value ≠ .map entries) ∧
        ofValue file value = .error (.notMapping file)) := by
  cases hfalsy : value.isFalsy with
  | true => exact Or.inl ⟨rfl, if_pos hfalsy⟩
  | false =>
    have hne : ¬ value.isFalsy = true := by
      rw [hfalsy]
      exact Bool.false_ne_true
    cases value with
    | map entries => exact Or.inr (Or.inl ⟨entries, rfl, if_neg hne⟩)
    | _ => exact Or.inr (Or.inr ⟨rfl, nofun, if_neg hne⟩)

/-- The settings that a value gives. -/
theorem ofValue_eq_ok_iff {file : Text} {value : Value} {settings : Settings} :
    ofValue file value = .ok settings ↔
      (value.isFalsy = true ∧ settings = defaults) ∨
        ∃ entries, value = .map entries ∧ Describes entries settings := by
  rcases ofValue_cases file value with ⟨hfalsy, hok⟩ | ⟨entries, rfl, hmap⟩ |
    ⟨hfalsy, hvalue, herror⟩
  · rw [hok, Except.ok.injEq]
    constructor
    · rintro rfl
      exact Or.inl ⟨hfalsy, rfl⟩
    · rintro (⟨-, rfl⟩ | ⟨entries, rfl, hdescribes⟩)
      · rfl
      · -- It is the empty mapping, which describes the defaults and nothing else.
        rw [eq_nil_of_isFalsy hfalsy, ← ofEntries_eq_ok_iff, ofEntries_nil] at hdescribes
        exact Except.ok.inj hdescribes
  · rw [hmap, mapError_eq_ok_iff, ofEntries_eq_ok_iff]
    constructor
    · intro hdescribes
      exact Or.inr ⟨entries, rfl, hdescribes⟩
    · rintro (⟨hfalsy, rfl⟩ | ⟨_, heq, hdescribes⟩)
      · rw [eq_nil_of_isFalsy hfalsy]
        exact ofEntries_eq_ok_iff.mp ofEntries_nil
      · cases heq
        exact hdescribes
  · rw [herror, hfalsy]
    simp [hvalue]

/-- Which refusal a value meets: it is no mapping, or its entries are refused,
and that without a message if and only if they cannot be explained. -/
theorem ofValue_eq_error_cases {file : Text} {value : Value} {e : LoadError}
    (h : ofValue file value = .error e) :
    ((∀ entries, value ≠ .map entries) ∧ e = .notMapping file) ∨
      ∃ entries, value = .map entries ∧ ∃ e', e = .refused e' ∧
        (e'.message? = none ↔ Unexplained entries) := by
  rcases ofValue_cases file value with ⟨-, hok⟩ | ⟨entries, rfl, hmap⟩ | ⟨-, hvalue, herror⟩
  · rw [hok] at h
    cases h
  · rw [hmap] at h
    obtain ⟨e', hrefused, rfl⟩ := mapError_eq_error_iff.mp h
    exact Or.inr ⟨entries, rfl, e', rfl, message?_eq_none_iff_unexplained hrefused⟩
  · rw [herror] at h
    cases h
    exact Or.inl ⟨hvalue, rfl⟩

/-- **The value of its document decides what a settings file comes to.** It is
accepted if it counts as false, and then gives the defaults, or if it is a
mapping that describes settings, and then gives these. A value that is no
mapping is refused with the name of the file. All refusals have a message, but
for those of mappings where what is refused cannot be shown. -/
theorem document_decides_settings (reader : DocumentReader) (file s : Text) (value : Value)
    (h : reader s = .ok value) :
    (∀ settings, loadWith reader file (.text s) = .ok settings ↔
      (value.isFalsy = true ∧ settings = defaults) ∨
        ∃ entries, value = .map entries ∧ Describes entries settings) ∧
    ∀ e, loadWith reader file (.text s) = .error e →
      ((∀ entries, value ≠ .map entries) → e = .notMapping file) ∧
      (e.message? = none ↔ ∃ entries, value = .map entries ∧ Unexplained entries) := by
  have hload : loadWith reader file (.text s) = ofValue file value := by
    simp only [loadWith, h]
  rw [hload]
  refine ⟨fun settings => ofValue_eq_ok_iff, ?_⟩
  intro e he
  rcases ofValue_eq_error_cases he with ⟨hvalue, rfl⟩ | ⟨entries, rfl, e', rfl, hmessage⟩
  · refine ⟨fun _ => rfl, ?_⟩
    simp [LoadError.message?, hvalue]
  · refine ⟨fun hvalue => absurd rfl (hvalue entries), ?_⟩
    show e'.message? = none ↔ _
    rw [hmessage]
    simp

/-- A document that sets `strict` and nothing else. -/
theorem document_decides_settings_strict :
    let file : Text := ['f']
    let s : Text := ['s', 't', 'r', 'i', 'c', 't', ':', ' ', 't', 'r', 'u', 'e']
    let entries : List (Value × Value) := [(.text strictKey, .bool true)]
    DocumentReader.plain s = .ok (.map entries) ∧
      Describes entries ⟨true, 64, by decide⟩ ∧
      loadWith .plain file (.text s) = .ok ⟨true, 64, by decide⟩ := by
  intro file s entries
  have hread : DocumentReader.plain s = .ok (.map entries) := by cbv
  have hdescribes : Describes entries ⟨true, 64, by decide⟩ :=
    ⟨by simp [entries], rfl, rfl, by decide⟩
  exact ⟨hread, hdescribes, ((document_decides_settings .plain file s _ hread).1 _).mpr
    (Or.inr ⟨entries, rfl, hdescribes⟩)⟩

/-- Three documents that are no settings and are not refused as such: a mapping
with a truth value as its key and one with too long a limit, for which there is no
message, and an empty list, which passes for the defaults. -/
theorem load_without_message_and_empty_list :
    let file : Text := ['f']
    let keyed : Text := ['t', 'r', 'u', 'e', ':']
    let limit : Int := -(Nat.pow 10 Integer.digitLimit)
    let long : Value := .map [(.text strictKey, .bool false), (.text maxDepthKey, .integer limit)]
    let empty : Text := ['[', ']']
    (DocumentReader.plain keyed = .ok (.map [(.bool true, .null)]) ∧
        ∃ e, load file (.text keyed) = .error e ∧ e.message? = none) ∧
      (∃ e, ofValue file long = .error e ∧ e.message? = none) ∧
      DocumentReader.plain empty = .ok (.list []) ∧ load file (.text empty) = .ok defaults := by
  intro file keyed limit long empty
  have hkeyed : DocumentReader.plain keyed = .ok (.map [(.bool true, .null)]) := by cbv
  have hempty : DocumentReader.plain empty = .ok (.list []) := by cbv
  refine ⟨⟨hkeyed, .refused .unlistableKeys, ?_, rfl⟩, ?_, hempty, ?_⟩
  · simp only [load, loadWith, hkeyed]
    rfl
  · have hlow : limit ≤ 0 := Int.neg_nonpos_of_nonneg (Int.natCast_nonneg _)
    -- These are the entries of settings that the constructor takes.
    let settings : Settings := ⟨false, limit, Int.le_trans hlow (by decide)⟩
    have hrefused : ofEntries settings.toEntries = .error (.depthNotPositive (.integer limit)) :=
      ofEntries_toEntries_of_lt (Int.lt_of_le_of_lt hlow (by decide))
    refine ⟨.refused (.depthNotPositive (.integer limit)), ?_,
      message?_depthNotPositive_eq_none_iff.mpr Integer.isLong_neg_pow⟩
    show (ofEntries settings.toEntries).mapError LoadError.refused = _
    rw [hrefused]
    rfl
  · simp only [load, loadWith, hempty]
    rfl

end Settings

end Stencil
