import ActivityRelay.Settings.ControlTarget
import ActivityRelay.Text.Decimal

/-! Settings of the relay, read from variables: the first rejected variable decides the error. -/
namespace ActivityRelay
open Text

/-- All that can be set; each field starts with the value of an unset variable. -/
structure Settings where
  bindAddr : String := "0.0.0.0"
  port : Nat := 3000
  staticDir : String := "site"
  defaultActivity : String := "DOKAPON_KINGDOM"
  control : ControlTarget := .log
  controlQueueCapacity : Nat := 1024
  controlTimeoutMs : Nat := 2000
  clientQueueCapacity : Nat := 256
  deriving DecidableEq, Repr

namespace Settings

/-- The text of a variable, none when it is not set. -/
def readText (env : Environment) (v : Variable) : Except SettingsError (Option String) :=
  match env v with
  | none => .ok none
  | some (.text s) => .ok (some s)
  | some (.bytes b) => .error (.invalidValue v (Utf8.lossy b))

/-- A number below the bound, with white space around it allowed. -/
def readNumber (env : Environment) (v : Variable) (bound unset : Nat) :
    Except SettingsError Nat := do
  match ← readText env v with
  | none => .ok unset
  | some raw =>
    match readBelow bound (trim raw.toList) with
    | some n => .ok n
    | none => .error (.invalidValue v raw)

/-- A number of 64 bits other than zero. -/
def readPositive (env : Environment) (v : Variable) (unset : Nat) : Except SettingsError Nat := do
  let n ← readNumber env v UInt64.size unset
  if n = 0 then .error (.invalidValue v "0") else .ok n

/-- The activity to start with, which must not be blank. -/
def readActivity (env : Environment) : Except SettingsError String := do
  let text ← readText env .defaultActivity
  let activity := text.getD ({} : Settings).defaultActivity
  if trim activity.toList = [] then .error (.empty .defaultActivity) else .ok activity

def read (env : Environment) : Except SettingsError Settings := do
  let unset : Settings := {}
  let defaultActivity ← readActivity env
  let bindAddr ← readText env .bindAddr
  let port ← readNumber env .port UInt16.size unset.port
  let staticDir ← readText env .staticDir
  let controlAddr ← readText env .controlAddr
  let control ← ControlTarget.parse controlAddr
  let controlQueueCapacity ←
    readPositive env .controlQueueCapacity unset.controlQueueCapacity
  let controlTimeoutMs ← readPositive env .controlTimeoutMs unset.controlTimeoutMs
  let clientQueueCapacity ← readPositive env .clientQueueCapacity unset.clientQueueCapacity
  return {
    bindAddr := bindAddr.getD unset.bindAddr
    port
    staticDir := staticDir.getD unset.staticDir
    defaultActivity
    control
    controlQueueCapacity
    controlTimeoutMs
    clientQueueCapacity }

/-- An address that holds a colon gets brackets, unless it already begins with one. -/
def listenHost (bindAddr : List Char) : List Char :=
  if ':' ∈ bindAddr ∧ bindAddr.head? ≠ some '[' then ['['] ++ bindAddr ++ [']'] else bindAddr

def listenAddrOf (bindAddr : String) (port : Nat) : String :=
  String.ofList (listenHost bindAddr.toList ++ [':'] ++ decimal port)

/-- The address to listen on. -/
def listenAddr (s : Settings) : String := listenAddrOf s.bindAddr s.port

end Settings
end ActivityRelay
