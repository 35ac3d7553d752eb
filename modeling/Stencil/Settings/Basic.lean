import Stencil.Settings.Value

/-!
# `Stencil.Settings.Basic`: settings and their check

Two settings govern how a template is read: whether a broken construct is an error
or stays in the text, and how deep conditionals may be nested. The nesting limit is
any integer up to `depthCeiling`, and the type carries that bound. A limit of zero
or below forbids conditionals altogether.

Settings come from the entries of a mapping with `Settings.ofEntries`, which checks
more than the type does: no unknown entry, a truth value for the one, a positive
integer for the other. `Settings.toEntries` goes the other way.

What is refused is shown in the message, so there is none where it cannot be shown:
keys that are not all texts, and values with too long an integer in them.
-/

set_option autoImplicit false

namespace Stencil

/-- The highest limit on nesting that may be set. -/
def depthCeiling : Int := 256

/-- How a template is read. -/
structure Settings where
  /-- A broken construct is an error instead of text. -/
  strict : Bool
  /-- How many conditionals may enclose one another. -/
  maxDepth : Int
  maxDepth_le : maxDepth ≤ depthCeiling
  deriving DecidableEq, Repr

/-- Why settings were refused. -/
inductive SettingsError where
  /-- Entries that are no settings. -/
  | unknownKeys (keys : List Text)
  /-- Entries that are no settings, with a key among them that is not a text. Such
  keys cannot be listed, so there is no message to show. -/
  | unlistableKeys
  | strictNotBoolean (got : Value)
  | depthNotPositive (got : Value)
  | depthTooLarge (got : Int)
  deriving Repr

/-- What is wrong, for a person to read, if that can be said. -/
def SettingsError.message? : SettingsError → Option String
  | .unknownKeys keys =>
    some ("Unknown parser config keys: " ++ String.ofList (Value.commas keys))
  | .unlistableKeys => none
  | .strictNotBoolean got => do
    let shown ← got.describe?
    some ("'strict' must be a boolean, got " ++ String.ofList shown)
  | .depthNotPositive got => do
    let shown ← got.describe?
    some ("'max_nesting_depth' must be a positive integer, got " ++ String.ofList shown)
  | .depthTooLarge got => do
    let shown ← Integer.written? got
    some ("'max_nesting_depth' must not exceed " ++ toString depthCeiling ++ ", got " ++
      String.ofList shown)

namespace Settings

/-- What holds where nothing is set: broken constructs stay in the text, and
sixty-four conditionals may enclose one another. -/
def defaults : Settings :=
  ⟨false, 64, by decide⟩

/-- The key of the setting `strict`. -/
def strictKey : Text := "strict".toList

/-- The key of the setting `maxDepth`. -/
def maxDepthKey : Text := "max_nesting_depth".toList

/-- Settings from their two values. Only a limit above the ceiling is refused. -/
def make (strict : Bool) (maxDepth : Int) : Except SettingsError Settings :=
  if h : maxDepth ≤ depthCeiling then .ok ⟨strict, maxDepth, h⟩
  else .error (.depthTooLarge maxDepth)

/-- The same settings, but strict if that is asked for. -/
def orStrict (settings : Settings) (strict : Bool) : Settings :=
  { settings with strict := settings.strict || strict }

/-- The key belongs to a setting. -/
def isKey : Value → Bool
  | .text key => key = strictKey || key = maxDepthKey
  | _ => false

/-- A key that is a text. -/
def keyText? : Value → Option Text
  | .text key => some key
  | _ => none

/-- Refuses entries that are no settings, and names them in order. -/
def checkKeys (entries : List (Value × Value)) : Except SettingsError Unit :=
  let unknown := (entries.map Prod.fst).filter fun key => !isKey key
  if unknown.isEmpty then .ok ()
  else match unknown.mapM keyText? with
    | some keys => .error (.unknownKeys (keys.mergeSort fun a b => !(b < a : Bool)))
    | none => .error .unlistableKeys

/-- The value for `strict`, which has to be a truth value. -/
def checkStrict : Option Value → Except SettingsError Bool
  | none => .ok defaults.strict
  | some (.bool b) => .ok b
  | some got => .error (.strictNotBoolean got)

/-- The value for `maxDepth`, which has to be a positive integer. -/
def checkDepth : Option Value → Except SettingsError Int
  | none => .ok defaults.maxDepth
  | some (.integer n) => if 1 ≤ n then .ok n else .error (.depthNotPositive (.integer n))
  | some got => .error (.depthNotPositive got)

/-- Settings from the entries of a mapping. What is missing keeps its default. The
first thing that is wrong counts: unknown keys, then `strict`, then the limit. -/
def ofEntries (entries : List (Value × Value)) : Except SettingsError Settings := do
  checkKeys entries
  let strict ← checkStrict (Value.lookup? strictKey entries)
  let maxDepth ← checkDepth (Value.lookup? maxDepthKey entries)
  make strict maxDepth

/-- The entries of a mapping that holds the settings. -/
def toEntries (settings : Settings) : List (Value × Value) :=
  [(.text strictKey, .bool settings.strict), (.text maxDepthKey, .integer settings.maxDepth)]

end Settings

end Stencil
