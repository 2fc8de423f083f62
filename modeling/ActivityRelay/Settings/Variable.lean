import ActivityRelay.Text.Quoted
import ActivityRelay.Text.Utf8

/-! The variables that settings are read from, and what is wrong with a rejected one. -/
namespace ActivityRelay

/-- A variable of the environment, in the order of examination. -/
inductive Variable where
  | defaultActivity
  | bindAddr
  | port
  | staticDir
  | controlAddr
  | controlQueueCapacity
  | controlTimeoutMs
  | clientQueueCapacity
  deriving DecidableEq, Repr

namespace Variable

def all : List Variable :=
  [.defaultActivity, .bindAddr, .port, .staticDir, .controlAddr, .controlQueueCapacity,
    .controlTimeoutMs, .clientQueueCapacity]

theorem mem_all (v : Variable) : v ∈ all := by cases v <;> simp [all]

def name : Variable → String
  | .defaultActivity => "DEFAULT_ACTIVITY"
  | .bindAddr => "BIND_ADDR"
  | .port => "PORT"
  | .staticDir => "STATIC_DIR"
  | .controlAddr => "CONTROL_ADDR"
  | .controlQueueCapacity => "CONTROL_QUEUE_CAPACITY"
  | .controlTimeoutMs => "CONTROL_TIMEOUT_MS"
  | .clientQueueCapacity => "CLIENT_QUEUE_CAPACITY"

end Variable

/-- The value of a variable: bytes that spell a text, or others. -/
inductive RawValue where
  | text (s : String)
  | bytes (b : List UInt8)
  deriving DecidableEq, Repr

def RawValue.ofBytes (b : List UInt8) : RawValue :=
  match Text.Utf8.decode? b with
  | some s => .text s
  | none => .bytes b

/-- What each variable is set to, if it is set. -/
abbrev Environment := Variable → Option RawValue

/-- Why settings are rejected. -/
inductive SettingsError where
  | invalidValue (key : Variable) (value : String)
  | empty (key : Variable)
  | controlAddr (value : String)
  deriving DecidableEq, Repr

namespace SettingsError
open Text

def message : SettingsError → String
  | .invalidValue v value => "invalid value for " ++ v.name ++ ": " ++ quoted value
  | .empty v => v.name ++ " must not be empty"
  | .controlAddr value =>
    "unsupported control address " ++ quoted value ++
      " (expected udp://host:port or tcp://host:port)"

/-- The error with its parts by name, as it stands in a failure at startup. -/
def detail : SettingsError → String
  | .invalidValue v value =>
    "InvalidValue \x7b key: " ++ quoted v.name ++ ", value: " ++ quoted value ++ " \x7d"
  | .empty v => "Empty \x7b key: " ++ quoted v.name ++ " \x7d"
  | .controlAddr value => "ControlAddr(" ++ quoted value ++ ")"

end SettingsError
end ActivityRelay
