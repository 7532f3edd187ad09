import Storefront.Binary64
import Storefront.Text.Blank

/-!
# Settings

The settings of the order service and how they are found under their names. `Settings.ofLookup`
reads each setting on its own: what is missing or cannot be read has its default, and no other
setting is touched by it. Times are in milliseconds.
-/

namespace Storefront

/-- Settings of the work that follows an order: where events go, and how long to wait for the
announcement of an event and for a confirmation. -/
structure FollowUpSettings where
  topic : String
  publishTimeout : Nat
  notificationTimeout : Nat
  deriving DecidableEq

/-- The topic `orders`, and five seconds for either wait. -/
def FollowUpSettings.standard : FollowUpSettings :=
  ⟨"orders", 5000, 5000⟩

/-- How log lines are written. -/
inductive LogFormat where
  | plain
  | json
  deriving DecidableEq

/-- All settings of the service. -/
structure Settings where
  host : String
  port : Nat
  logLevel : String
  logFormat : LogFormat
  followUp : FollowUpSettings
  notificationUrl : Option String
  sampleRatio : Float
  paymentUnreachable : Bool
  extraEvents : Nat
  retention : Nat

namespace Settings

/-- The settings when nothing is given. -/
def standard : Settings where
  host := "0.0.0.0"
  port := 3000
  logLevel := "info"
  logFormat := .plain
  followUp := .standard
  notificationUrl := none
  sampleRatio := Binary64.ofInt 1
  paymentUnreachable := false
  extraEvents := 0
  retention := 100

/-- A text with its capital letters A to Z made small. -/
def lowered (s : String) : String :=
  String.ofList (s.toList.map Char.toLower)

/-- The format `json` in any case; every other text is plain. -/
def readFormat (s : String) : LogFormat :=
  if lowered (Text.trim s) = "json" then .json else .plain

/-- The texts that switch something on, in any case. -/
def readFlag (s : String) : Bool :=
  ["1", "true", "yes", "on"].contains (lowered (Text.trim s))

/-- The text unless it is blank. -/
def unlessBlank (s : String) : Option String :=
  if Text.isBlankText s then none else some s

/-- A natural number below a bound, with blanks around it. -/
def readNumber (bound : Nat) (s : String) : Option Nat :=
  Text.readUnsigned bound (Text.trim s)

/-- A number with blanks around it, moved into the range from zero to one. -/
def readShare (s : String) : Option Float :=
  (Binary64.read? (Text.trim s)).map Binary64.clampUnit

/-- Each setting under its own name, with its default when it is missing or cannot be read. -/
def ofLookup (lookup : String → Option String) : Settings where
  host := (lookup "HOST").getD standard.host
  port := (lookup "PORT" >>= readNumber (Nat.pow 2 16)).getD standard.port
  logLevel := (lookup "RUST_LOG").getD standard.logLevel
  logFormat := ((lookup "LOG_FORMAT").map readFormat).getD standard.logFormat
  followUp :=
    { topic := (lookup "ORDER_EVENTS_TOPIC" >>= unlessBlank).getD standard.followUp.topic
      publishTimeout :=
        (lookup "EVENT_PUBLISH_TIMEOUT_MS" >>= readNumber (Nat.pow 2 64)).getD
          standard.followUp.publishTimeout
      notificationTimeout :=
        (lookup "NOTIFICATION_TIMEOUT_MS" >>= readNumber (Nat.pow 2 64)).getD
          standard.followUp.notificationTimeout }
  notificationUrl := lookup "NOTIFICATION_URL" >>= unlessBlank
  sampleRatio := (lookup "TRACE_SAMPLE_RATIO" >>= readShare).getD standard.sampleRatio
  paymentUnreachable :=
    ((lookup "FAULT_PAYMENT_UNREACHABLE").map readFlag).getD standard.paymentUnreachable
  extraEvents :=
    (lookup "FAULT_EVENT_FLOOD" >>= readNumber (Nat.pow 2 32)).getD standard.extraEvents
  retention := (lookup "DEMO_RETENTION" >>= readNumber (Nat.pow 2 64)).getD standard.retention

/-- Host and port of the listening address. -/
def address (s : Settings) : String :=
  s.host ++ ":" ++ Text.decimal s.port

/-- Every setting equals its default, the ratio as a number. -/
def isStandard (s : Settings) : Bool :=
  s.host == standard.host && s.port == standard.port && s.logLevel == standard.logLevel &&
    s.logFormat == standard.logFormat && s.followUp == standard.followUp &&
    s.notificationUrl == standard.notificationUrl && s.sampleRatio == standard.sampleRatio &&
    s.paymentUnreachable == standard.paymentUnreachable &&
    s.extraEvents == standard.extraEvents && s.retention == standard.retention

end Settings

end Storefront
