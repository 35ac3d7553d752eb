import Stencil.Text.Basic

/-!
# `Stencil.Log`: log records

Reading a template and filling a registry leave a trace of records, each with a
level, the channel it belongs to and a message. The definitions that give rise to
records return them as data; writing them somewhere is left to the outermost layer.
-/

set_option autoImplicit false

namespace Stencil

/-- How much a record matters. -/
inductive LogLevel where
  | debug
  | warning
  deriving DecidableEq, Repr

/-- The level's name as it is written. -/
def LogLevel.label : LogLevel → String
  | .debug => "DEBUG"
  | .warning => "WARNING"

/-- The part of the program that a record comes from. -/
inductive LogChannel where
  | templates
  | transforms
  deriving DecidableEq, Repr

/-- The channel's name as it is written. -/
def LogChannel.label : LogChannel → String
  | .templates => "templator.parser.template"
  | .transforms => "templator.transforms"

/-- One record of a log. -/
structure LogRecord where
  level : LogLevel
  channel : LogChannel
  message : String
  deriving DecidableEq, Repr

/-- The line that shows a record, without its line end. -/
def LogRecord.line (r : LogRecord) : String :=
  r.level.label ++ " " ++ r.channel.label ++ ": " ++ r.message

end Stencil
