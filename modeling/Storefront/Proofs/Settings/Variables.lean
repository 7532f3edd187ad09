import Mathlib.Logic.Function.Defs
import Storefront.Proofs.Text.Numeral
import Storefront.Settings

/-!
# Variables are read apart

Every setting is found under the name of one variable, and what the other variables hold makes no
difference to it: it is what it would be if every variable held the same text, `get_ofLookup`. The
main theorem, `variables_are_read_apart`, says that a change of one variable changes no setting but
its own, and that a variable for a number gives the number that is written in it if that is a
numeral for a number in range, and otherwise what it gives when it is missing.
-/

namespace Storefront.Settings

/-- The variables that hold a number. -/
inductive NumberVariable where
  | port
  | publishTimeout
  | notificationTimeout
  | extraEvents
  | retention
  deriving DecidableEq

/-- The variables from which settings are read. -/
inductive Variable where
  | number (v : NumberVariable)
  | host
  | logLevel
  | logFormat
  | topic
  | notificationUrl
  | sampleRatio
  | paymentUnreachable
  deriving DecidableEq

/-- The name of a variable for a number. -/
def NumberVariable.name : NumberVariable → String
  | .port => "PORT"
  | .publishTimeout => "EVENT_PUBLISH_TIMEOUT_MS"
  | .notificationTimeout => "NOTIFICATION_TIMEOUT_MS"
  | .extraEvents => "FAULT_EVENT_FLOOD"
  | .retention => "DEMO_RETENTION"

/-- The bits of the word in which the number is kept. -/
def NumberVariable.bits : NumberVariable → Nat
  | .port => 16
  | .extraEvents => 32
  | .publishTimeout | .notificationTimeout | .retention => 64

namespace Variable

/-- The name of a variable. -/
def name : Variable → String
  | .number v => v.name
  | .host => "HOST"
  | .logLevel => "RUST_LOG"
  | .logFormat => "LOG_FORMAT"
  | .topic => "ORDER_EVENTS_TOPIC"
  | .notificationUrl => "NOTIFICATION_URL"
  | .sampleRatio => "TRACE_SAMPLE_RATIO"
  | .paymentUnreachable => "FAULT_PAYMENT_UNREACHABLE"

/-- The type of the setting that is read from a variable. -/
def Content : Variable → Type
  | .number _ => Nat
  | .host | .logLevel | .topic => String
  | .logFormat => LogFormat
  | .notificationUrl => Option String
  | .sampleRatio => Float
  | .paymentUnreachable => Bool

/-- `v.IsFollowUp` says that a setting of the work that follows an order is read from a variable. -/
def IsFollowUp (v : Variable) : Prop :=
  v = .topic ∨ v = .number .publishTimeout ∨ v = .number .notificationTimeout

/-- All variables. -/
def all : List Variable :=
  [.number .port, .number .publishTimeout, .number .notificationTimeout, .number .extraEvents,
    .number .retention, .host, .logLevel, .logFormat, .topic, .notificationUrl, .sampleRatio,
    .paymentUnreachable]

/-- There are no others. -/
theorem mem_all (v : Variable) : v ∈ all := by
  cases v with
  | number v => cases v <;> decide
  | _ => decide

/-- No two variables have one name. -/
theorem name_injective : Function.Injective name := by
  have hdistinct : ∀ v ∈ all, ∀ w ∈ all, v.name = w.name → v = w := by decide
  exact fun v w ↦ hdistinct v (mem_all v) w (mem_all w)

end Variable

/-- The number that is set by a variable. -/
def number (s : Settings) : NumberVariable → Nat
  | .port => s.port
  | .publishTimeout => s.followUp.publishTimeout
  | .notificationTimeout => s.followUp.notificationTimeout
  | .extraEvents => s.extraEvents
  | .retention => s.retention

/-- What is set by a variable. -/
def get (s : Settings) : (v : Variable) → v.Content
  | .number v => s.number v
  | .host => s.host
  | .logLevel => s.logLevel
  | .logFormat => s.logFormat
  | .topic => s.followUp.topic
  | .notificationUrl => s.notificationUrl
  | .sampleRatio => s.sampleRatio
  | .paymentUnreachable => s.paymentUnreachable

/-- Settings of follow-up work that are set by variables alike are equal. -/
theorem followUp_eq_of_get {a b : Settings} (h : ∀ v : Variable, v.IsFollowUp → a.get v = b.get v) :
    a.followUp = b.followUp := by
  have htopic := h .topic (.inl rfl)
  have hpublish := h (.number .publishTimeout) (.inr (.inl rfl))
  have hnotification := h (.number .notificationTimeout) (.inr (.inr rfl))
  cases ha : a.followUp
  cases hb : b.followUp
  simp only [get, number, ha, hb] at htopic hpublish hnotification
  rw [htopic, hpublish, hnotification]

/-- Nothing is set but by variables. -/
theorem eq_of_get {a b : Settings} (h : ∀ v : Variable, a.get v = b.get v) : a = b := by
  obtain ⟨host, port, logLevel, logFormat, followUp, url, ratio, unreachable, events, kept⟩ := a
  obtain ⟨host', port', logLevel', logFormat', followUp', url', ratio', unreachable', events',
    kept'⟩ := b
  obtain rfl : host = host' := h .host
  obtain rfl : port = port' := h (.number .port)
  obtain rfl : logLevel = logLevel' := h .logLevel
  obtain rfl : logFormat = logFormat' := h .logFormat
  obtain rfl : followUp = followUp' := followUp_eq_of_get fun v _ ↦ h v
  obtain rfl : url = url' := h .notificationUrl
  obtain rfl : ratio = ratio' := h .sampleRatio
  obtain rfl : unreachable = unreachable' := h .paymentUnreachable
  obtain rfl : events = events' := h (.number .extraEvents)
  obtain rfl : kept = kept' := h (.number .retention)
  rfl

/-- What a variable sets is what it would set if every variable held its text. -/
theorem get_ofLookup (lookup : String → Option String) (v : Variable) :
    (ofLookup lookup).get v = (ofLookup fun _ ↦ lookup v.name).get v := by
  cases v with
  | number v => cases v <;> rfl
  | _ => rfl

/-- What a variable sets when it is found in one place as in another. -/
theorem get_ofLookup_congr {lookup other : String → Option String} {v : Variable}
    (h : lookup v.name = other v.name) : (ofLookup lookup).get v = (ofLookup other).get v := by
  rw [get_ofLookup, get_ofLookup other, h]

/-- The number that is set by a variable is read with blanks around it, or else its default. -/
theorem number_ofLookup (lookup : String → Option String) (v : NumberVariable) :
    (ofLookup lookup).number v =
      (lookup v.name >>= readNumber (2 ^ v.bits)).getD (standard.number v) := by
  cases v <;> rfl

/-- `Writes v text n` says that the text of a variable is a numeral with blanks around it, for a
number that fits in the word of the variable. -/
def Writes (v : NumberVariable) (text : String) (n : Nat) : Prop :=
  Text.IsUnsigned (Text.trim text).toList n ∧ n < 2 ^ v.bits

/-- A number that is written is set. -/
theorem number_of_writes {lookup : String → Option String} {v : NumberVariable} {text : String}
    {n : Nat} (htext : lookup v.name = some text) (h : Writes v text n) :
    (ofLookup lookup).number v = n := by
  have hread : readNumber (2 ^ v.bits) text = some n := Text.readUnsigned_eq_some_iff.mpr h
  rw [number_ofLookup, htext]
  simp only [bind, Option.bind, hread, Option.getD_some]

/-- A text in which no number is written sets what a missing variable sets. -/
theorem number_of_not_writes {lookup : String → Option String} {v : NumberVariable}
    (h : ∀ text, lookup v.name = some text → ∀ n, ¬Writes v text n) :
    (ofLookup lookup).number v = standard.number v := by
  rw [number_ofLookup]
  cases htext : lookup v.name with
  | none => rfl
  | some text =>
      have hread : readNumber (2 ^ v.bits) text = none :=
        Option.eq_none_iff_forall_ne_some.mpr fun n hn ↦
          h text htext n (Text.readUnsigned_eq_some_iff.mp hn)
      simp only [bind, Option.bind, hread, Option.getD_none]

/-- No variable sets a number that does not fit in its word. -/
theorem number_ofLookup_lt (lookup : String → Option String) (v : NumberVariable) :
    (ofLookup lookup).number v < 2 ^ v.bits := by
  rw [number_ofLookup]
  cases hread : lookup v.name >>= readNumber (2 ^ v.bits) with
  | none => cases v <;> decide
  | some n =>
      obtain ⟨text, -, htext⟩ := Option.bind_eq_some_iff.mp hread
      exact (Text.readUnsigned_eq_some_iff.mp htext).2

/-- Two environments that differ in one variable at most give settings that differ at most in what
that variable sets; the settings of follow-up work are equal unless the variable is one of theirs,
and all settings are if it is no variable of theirs. A variable for a number sets the number that is
written in it, if it fits in a word, and otherwise its default, as if it were missing. -/
theorem variables_are_read_apart :
    (∀ (lookup other : String → Option String) (name : String),
      (∀ n, n ≠ name → lookup n = other n) →
        (∀ v : Variable, v.name ≠ name → (ofLookup lookup).get v = (ofLookup other).get v) ∧
        ((∀ v : Variable, v.IsFollowUp → v.name ≠ name) →
          (ofLookup lookup).followUp = (ofLookup other).followUp) ∧
        ((∀ v : Variable, v.name ≠ name) → ofLookup lookup = ofLookup other)) ∧
    Function.Injective Variable.name ∧
    ∀ (lookup : String → Option String) (v : NumberVariable),
      (∀ text n, lookup v.name = some text → Writes v text n →
        (ofLookup lookup).number v = n) ∧
      ((∀ text, lookup v.name = some text → ∀ n, ¬Writes v text n) →
        (ofLookup lookup).number v = standard.number v) := by
  refine ⟨fun lookup other name h ↦ ?_, Variable.name_injective, fun lookup v ↦
    ⟨fun text n ↦ number_of_writes, number_of_not_writes⟩⟩
  have hget : ∀ v : Variable, v.name ≠ name → (ofLookup lookup).get v = (ofLookup other).get v :=
    fun v hv ↦ get_ofLookup_congr (h v.name hv)
  exact ⟨hget, fun hname ↦ followUp_eq_of_get fun v hv ↦ hget v (hname v hv),
    fun hname ↦ eq_of_get fun v ↦ hget v (hname v)⟩

/-- An environment with a port and one other variable. -/
def portEnv (port name : String) : Option String :=
  if name = "PORT" then some port else if name = "DEMO_RETENTION" then some "7" else none

/-- The greatest port is taken, with a plus sign and blanks around it; the first number beyond it
gives the port that is taken when there is none. Nothing else differs. -/
theorem port_is_read_apart :
    (∀ name, name ≠ "PORT" → portEnv " +65535\n" name = portEnv "65536" name) ∧
      Writes .port " +65535\n" 65535 ∧ (∀ n, ¬Writes .port "65536" n) ∧
      (ofLookup (portEnv " +65535\n")).port = 65535 ∧ (ofLookup (portEnv "65536")).port = 3000 ∧
      (ofLookup (portEnv " +65535\n")).get (.number .retention) =
        (ofLookup (portEnv "65536")).get (.number .retention) ∧
      (ofLookup (portEnv " +65535\n")).followUp = (ofLookup (portEnv "65536")).followUp := by
  have hdiffer : ∀ name, name ≠ "PORT" → portEnv " +65535\n" name = portEnv "65536" name := by
    intro name hname
    unfold portEnv
    rw [if_neg hname, if_neg hname]
  have hwrites : Writes .port " +65535\n" 65535 :=
    Text.readUnsigned_eq_some_iff.mp (by decide +kernel)
  have hread : readNumber (2 ^ NumberVariable.port.bits) "65536" = none := by decide +kernel
  have hnot : ∀ n, ¬Writes .port "65536" n := by
    intro n hn
    cases hread.symm.trans (Text.readUnsigned_eq_some_iff.mpr hn)
  obtain ⟨hframe, -, hnumbers⟩ := variables_are_read_apart
  obtain ⟨hget, hfollowUp, -⟩ := hframe _ _ "PORT" hdiffer
  refine ⟨hdiffer, hwrites, hnot, (hnumbers _ .port).1 _ _ rfl hwrites, ?_, ?_, ?_⟩
  · refine (hnumbers _ .port).2 ?_
    rintro text ⟨⟩
    exact hnot
  · exact hget _ (by decide)
  · refine hfollowUp ?_
    rintro v (rfl | rfl | rfl) <;> decide

end Storefront.Settings
