import Mathlib.Data.List.Basic
import Stencil.Settings.Basic

/-!
# `Stencil.Proofs.Settings.Message`: which values a message can show

A message about a setting shows the value that was refused. `Value.Unwritten` says
which values cannot be shown: those with a long integer in them, however far inside,
and those of further kinds that cannot be shown themselves. `describe?_eq_none_iff`
is the induction on the value.

`SettingsError.message?_eq_none_iff` draws from it which errors have no message:
those about such a value, and the one about keys that cannot be listed.
-/

set_option autoImplicit false

namespace Stencil

namespace Value

/-! ### Values that cannot be shown -/

/-- No message can show the value. -/
inductive Unwritten : Value → Prop
  | integer {n : Int} (h : Integer.IsLong n) : Unwritten (.integer n)
  | item {items : List Value} {v : Value} (hv : v ∈ items) (h : Unwritten v) :
    Unwritten (.list items)
  | key {entries : List (Value × Value)} {key value : Value} (hentry : (key, value) ∈ entries)
    (h : Unwritten key) : Unwritten (.map entries)
  | value {entries : List (Value × Value)} {key value : Value} (hentry : (key, value) ∈ entries)
    (h : Unwritten value) : Unwritten (.map entries)
  | other {falsy : Bool} : Unwritten (.other none falsy)

theorem unwritten_integer_iff {n : Int} : (Value.integer n).Unwritten ↔ Integer.IsLong n :=
  ⟨fun | .integer h => h, .integer⟩

theorem unwritten_list_iff {items : List Value} :
    (Value.list items).Unwritten ↔ ∃ v ∈ items, v.Unwritten :=
  ⟨fun | .item hv h => ⟨_, hv, h⟩, fun ⟨_, hv, h⟩ => .item hv h⟩

theorem unwritten_map_iff {entries : List (Value × Value)} :
    (Value.map entries).Unwritten ↔
      ∃ entry ∈ entries, entry.1.Unwritten ∨ entry.2.Unwritten := by
  constructor
  · intro h
    cases h with
    | key hentry h => exact ⟨_, hentry, Or.inl h⟩
    | value hentry h => exact ⟨_, hentry, Or.inr h⟩
  · rintro ⟨⟨key, value⟩, hentry, h | h⟩
    · exact .key hentry h
    · exact .value hentry h

/-- A truth value can always be shown. -/
theorem not_unwritten_bool (b : Bool) : ¬ (Value.bool b).Unwritten := nofun

/-! ### What is shown -/

/-- Several values are shown if each of them is. -/
theorem describeAll?_cons_eq_none_iff {v : Value} {rest : List Value} :
    describeAll? (v :: rest) = none ↔ v.describe? = none ∨ describeAll? rest = none := by
  rw [describeAll?]
  cases v.describe? <;> cases describeAll? rest <;> simp

/-- A mapping is shown if its keys and values are. In the place of a key a list is
written in another way, but it has the same items. -/
theorem describeEntries?_cons_eq_none_iff {key value : Value} {rest : List (Value × Value)} :
    describeEntries? ((key, value) :: rest) = none ↔
      (key.describe? = none ∨ value.describe? = none) ∨ describeEntries? rest = none := by
  cases key with
  | list items =>
    rw [describeEntries?, describe?]
    cases describeAll? items <;> cases value.describe? <;> cases describeEntries? rest <;> simp
  | _ =>
    rw [describeEntries?]
    · generalize Value.describe? _ = shown
      cases shown <;> cases value.describe? <;> cases describeEntries? rest <;> simp
    · nofun

mutual

/-- **Which values cannot be shown**, by induction on the value. -/
theorem describe?_eq_none_iff (v : Value) : v.describe? = none ↔ v.Unwritten := by
  cases v with
  | integer n => rw [describe?, Integer.written?_eq_none_iff, unwritten_integer_iff]
  | list items =>
    rw [unwritten_list_iff, ← describeAll?_eq_none_iff items, describe?]
    cases describeAll? items <;> simp
  | map entries =>
    rw [unwritten_map_iff, ← describeEntries?_eq_none_iff entries, describe?]
    cases describeEntries? entries <;> simp
  | other shown falsy =>
    cases shown with
    | none => exact ⟨fun _ => .other, fun _ => rfl⟩
    | some s => exact ⟨nofun, nofun⟩
  | _ => exact ⟨nofun, nofun⟩

theorem describeAll?_eq_none_iff (items : List Value) :
    describeAll? items = none ↔ ∃ v ∈ items, v.Unwritten := by
  cases items with
  | nil => simp [describeAll?]
  | cons v rest =>
    rw [describeAll?_cons_eq_none_iff, describe?_eq_none_iff v, describeAll?_eq_none_iff rest,
      List.exists_mem_cons_iff]

theorem describeEntries?_eq_none_iff (entries : List (Value × Value)) :
    describeEntries? entries = none ↔
      ∃ entry ∈ entries, entry.1.Unwritten ∨ entry.2.Unwritten := by
  cases entries with
  | nil => simp [describeEntries?]
  | cons entry rest =>
    obtain ⟨key, value⟩ := entry
    rw [describeEntries?_cons_eq_none_iff, describe?_eq_none_iff key,
      describe?_eq_none_iff value, describeEntries?_eq_none_iff rest, List.exists_mem_cons_iff]

end

end Value

/-! ### Errors without a message -/

namespace SettingsError

/-- The error is about keys that cannot be listed or a value that cannot be shown. -/
def Unwritten : SettingsError → Prop
  | .unknownKeys _ => False
  | .unlistableKeys => True
  | .strictNotBoolean got | .depthNotPositive got => got.Unwritten
  | .depthTooLarge got => Integer.IsLong got

/-- **Which errors have no message.** -/
theorem message?_eq_none_iff {e : SettingsError} : e.message? = none ↔ e.Unwritten := by
  cases e with
  | unknownKeys keys => exact ⟨nofun, nofun⟩
  | unlistableKeys => exact ⟨fun _ => trivial, fun _ => rfl⟩
  | strictNotBoolean got | depthNotPositive got =>
    rw [Unwritten, ← Value.describe?_eq_none_iff, message?]
    cases got.describe? <;> simp
  | depthTooLarge got =>
    rw [Unwritten, ← Integer.written?_eq_none_iff, message?]
    cases Integer.written? got <;> simp

end SettingsError

end Stencil
