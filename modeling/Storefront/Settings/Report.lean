import Storefront.Json.Value
import Storefront.Settings

/-!
# Reports of settings

Settings as JSON. Times and numbers of entries are written as decimal texts, since they may have
64 bits, and the sampled share by its bits.
-/

namespace Storefront

/-- The settings of the work that follows an order. -/
def FollowUpSettings.members (f : FollowUpSettings) : List (String × Json) :=
  [("events_topic", .str f.topic),
    ("event_publish_timeout_ms", .str (Text.decimal f.publishTimeout)),
    ("notification_timeout_ms", .str (Text.decimal f.notificationTimeout))]

/-- The name of a format. -/
def LogFormat.name : LogFormat → String
  | .plain => "Plain"
  | .json => "Json"

/-- All settings, and whether they and the settings of follow-up work are the defaults. -/
def Settings.toJson (s : Settings) : Json :=
  .obj (s.followUp.members ++
    [("host", .str s.host), ("port", .int s.port), ("addr", .str s.address),
      ("log_level", .str s.logLevel), ("log_format", .str s.logFormat.name),
      ("notification_url", (s.notificationUrl.map Json.str).getD .null),
      ("trace_sample_ratio", .str (Binary64.hex s.sampleRatio)),
      ("fault_payment_unreachable", .bool s.paymentUnreachable),
      ("fault_event_flood", .int s.extraEvents),
      ("demo_retention", .str (Text.decimal s.retention)), ("is_default", .bool s.isStandard),
      ("orchestrator", .obj (s.followUp.members ++
        [("is_default", .bool (decide (s.followUp = FollowUpSettings.standard)))]))])

end Storefront
