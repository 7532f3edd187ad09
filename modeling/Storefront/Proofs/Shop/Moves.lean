import Mathlib.Logic.Relation
import Storefront.Proofs.Shop.Operations

/-!
# Moves of a shop

What can happen in a shop while something waits. A move is one thing that happens: time passes and
tasks are rearranged, a call is sent, settled, or given up, a confirmation ends, an announcement
begins, or a copy of one ends. A wait and a call are sequences of moves, `waitUntil_moves` and
`call_moves`, so what every move preserves they preserve, `MovesTo.preserves`, and a quantity that
no move changes is not changed by them, `MovesTo.eq`. What a move leaves in the log, in the metrics,
and with the broker is `Moves.leaves`.
-/

namespace Storefront.Shop

/-- `shop.Moves next` says that one thing happens in the background of a shop or in a call. -/
inductive Moves (shop : Shop) : Shop → Prop where
  | rearranged (clock tasks ended) :
      Moves shop { shop with clock := clock, tasks := tasks, ended := ended }
  | sent (caller request) : Moves shop (shop.send caller request).2
  | settled (request sent) : Moves shop (shop.settle request sent).2
  | givenUp (span) : Moves shop (shop.finishSpan span)
  | confirmed (confirmation sent) : Moves shop (shop.endConfirmation confirmation sent)
  | begun (caller order) : Moves shop (shop.beginAnnouncement caller order).2
  | copied (sent) : Moves shop (shop.endCopy sent)

/-- `shop.MovesTo later` says that a shop becomes `later` by moves. -/
abbrev MovesTo : Shop → Shop → Prop :=
  Relation.ReflTransGen Moves

namespace MovesTo

variable {shop later : Shop}

/-- What every move preserves is preserved. -/
theorem preserves {P : Shop → Prop}
    (hmove : ∀ {shop next : Shop}, shop.Moves next → P shop → P next) (h : shop.MovesTo later)
    (hshop : P shop) : P later := by
  induction h with
  | refl => exact hshop
  | tail _ hlast ih => exact hmove hlast ih

/-- What no move changes is not changed. -/
theorem eq {β : Type} {f : Shop → β}
    (hmove : ∀ {shop next : Shop}, shop.Moves next → f next = f shop) (h : shop.MovesTo later) :
    f later = f shop :=
  h.preserves (P := fun s ↦ f s = f shop) (fun hnext hsame ↦ (hmove hnext).trans hsame) rfl

end MovesTo

/-- A confirmation is sent, and ends if there is nothing to wait for. -/
theorem confirm_moves (shop : Shop) (caller : Caller) (confirmation : Confirmation) :
    shop.MovesTo (shop.confirm caller confirmation).2 := by
  have hsend : shop.MovesTo (shop.send caller (.confirm confirmation)).2 := .single (.sent _ _)
  unfold confirm
  dsimp only
  split
  · exact hsend
  · exact hsend.tail (.confirmed _ _)

/-- Announcements begin and end one after the other. -/
theorem announceAll_moves (shop : Shop) (caller : Caller) (order : Order) (copies : Nat) :
    shop.MovesTo (shop.announceAll caller order copies).2 := by
  induction copies generalizing shop with
  | zero => exact .refl
  | succ copies ih =>
      have hbegin : shop.MovesTo (shop.beginAnnouncement caller order).2 := .single (.begun _ _)
      unfold announceAll
      dsimp only
      split
      · exact hbegin
      · exact (hbegin.tail (.copied _)).trans (ih _)

/-- A task begins or goes on. -/
theorem resume_moves (shop : Shop) (task : Task) : shop.MovesTo (shop.resume task).2 := by
  match task with
  | .confirmation caller confirmation none => exact shop.confirm_moves caller confirmation
  | .confirmation _ confirmation (some sent) => exact .single (.confirmed confirmation sent)
  | .announcement caller order copies none => exact shop.announceAll_moves caller order copies
  | .announcement caller order copies (some sent) =>
      exact .head (.copied sent) (announceAll_moves _ caller order (copies - 1))

/-- A task begins or goes on, and is kept or over. -/
theorem run_moves (shop : Shop) (task : Task) : shop.MovesTo (shop.run task) := by
  have hresume := shop.resume_moves task
  unfold run
  rcases h : shop.resume task with ⟨_ | waiting, next⟩
  · rw [h] at hresume
    exact hresume.tail (.rearranged next.clock next.tasks (next.ended + 1))
  · rw [h] at hresume
    exact hresume.tail (.rearranged next.clock (next.tasks ++ [waiting]) next.ended)

/-- Tasks go on one after the other. -/
theorem foldl_run_moves (shop : Shop) (tasks : List Task) :
    shop.MovesTo (tasks.foldl run shop) := by
  induction tasks generalizing shop with
  | nil => exact .refl
  | cons task rest ih => exact (shop.run_moves task).trans (ih _)

/-- All tasks begin that have not. -/
theorem runFresh_moves (shop : Shop) : shop.MovesTo shop.runFresh := by
  have hwaiting : shop.Moves
      { shop with tasks := (shop.tasks.partition fun t ↦ t.due?.isSome).1 } := .rearranged _ _ _
  exact .head hwaiting (foldl_run_moves _ _)

/-- Waiting tasks go on at their times. -/
theorem runDue_moves (isDue : Nat → Bool) (steps : Nat) (shop : Shop) :
    shop.MovesTo (runDue isDue steps shop) := by
  induction steps generalizing shop with
  | zero => exact .refl
  | succ steps ih =>
      unfold runDue
      split
      · exact .refl
      · rename_i due task others _
        split
        · have hnow : shop.Moves { shop with clock := max shop.clock due, tasks := others } :=
            .rearranged _ _ _
          exact .head hnow ((run_moves _ task).trans (ih _))
        · exact .refl

/-- All tasks go on that can without time passing. -/
theorem settleDown_moves (shop : Shop) : shop.MovesTo shop.settleDown :=
  (runDue_moves _ _ shop).trans (runFresh_moves _)

/-- A wait is made of moves. -/
theorem waitUntil_moves (shop : Shop) (moment : Nat) : shop.MovesTo (shop.waitUntil moment) := by
  unfold waitUntil
  split
  · exact .refl
  · exact (shop.settleDown_moves.trans (runDue_moves _ _ _)).tail (.rearranged moment _ _)

/-- Waiting for the background is made of moves. -/
theorem drain_moves (shop : Shop) : shop.MovesTo shop.drain.2 := by
  unfold drain
  dsimp only
  split
  · exact .single (.rearranged _ _ 0)
  · exact (shop.settleDown_moves.trans (runDue_moves _ _ _)).tail (.rearranged _ _ 0)

/-- A wait that may be abandoned is made of moves. -/
theorem waitOrAbandon_moves (shop : Shop) (abandonAt : Option Nat) (moment : Nat) :
    shop.MovesTo (shop.waitOrAbandon abandonAt moment).2 := by
  unfold waitOrAbandon
  split
  · exact .refl
  · split
    · split <;> exact shop.waitUntil_moves _
    · exact shop.waitUntil_moves _

/-- A call is made of moves, whether it is abandoned or not. -/
theorem call_moves (shop : Shop) (caller : Caller) (abandonAt : Option Nat) (request : Request) :
    shop.MovesTo (shop.call caller abandonAt request).2 := by
  have hsend : shop.MovesTo (shop.send caller request).2 := .single (.sent caller request)
  have hwait := hsend.trans (waitOrAbandon_moves _ abandonAt (shop.send caller request).1.time)
  unfold call
  dsimp only
  split
  · exact hwait.tail (.settled request _)
  · exact hwait.tail (.givenUp _)

/-- The texts that calls and the background write to the log. -/
def backgroundTexts : List String :=
  ["baggage exceeds W3C limits; third-party receivers may truncate it", "order confirmation sent",
    "best-effort step failed", "order event delivered", "order event not delivered"]

/-- What calls and the background measure at once: nothing, a confirmation that failed, an
announcement that was delivered, or one that failed, counted twice. -/
def backgroundMeasurements : List (List Measurement) :=
  [[], [.stepFailed .sendConfirmation], [.eventDelivered],
    [.stepFailed .publishEvent, .eventFailed]]

/-- `shop.Leaves next` says what is left on record when `next` comes of a move: lines that are not
about the progress of an order, what is measured at once, and a message for each delivery that was
counted if the services answer for themselves. -/
structure Leaves (shop next : Shop) : Prop where
  log : ∃ lines, next.log = shop.log ++ lines ∧ ∀ line ∈ lines, line.message ∈ backgroundTexts
  metrics : ∃ taken ∈ backgroundMeasurements, next.metrics = taken ++ shop.metrics
  messages : shop.collaborators.scripted = .none → next.collaborators.scripted = .none ∧
    next.collaborators.broker.messages.total + shop.metrics.count .eventDelivered =
      shop.collaborators.broker.messages.total + next.metrics.count .eventDelivered

namespace Leaves

variable {shop next : Shop}

/-- What neither measures nor answers leaves lines at most. -/
theorem of_quiet {lines : List LogLine} (hlog : next.log = shop.log ++ lines)
    (hlines : ∀ line ∈ lines, line.message ∈ backgroundTexts)
    (hmetrics : next.metrics = shop.metrics)
    (hcollaborators : next.collaborators = shop.collaborators) : shop.Leaves next where
  log := ⟨lines, hlog, hlines⟩
  metrics := ⟨[], .head _, hmetrics⟩
  messages h := by rw [hcollaborators, hmetrics]; exact ⟨h, rfl⟩

/-- What comes to its end leaves one line and is measured, and each delivery that is measured has
sent its message. -/
theorem of_ended {ended : Shop} (line : LogLine) (taken : List Measurement)
    (hlog : ended.log = shop.log) (hmetrics : ended.metrics = shop.metrics)
    (hended : shop.collaborators.scripted = .none → ended.collaborators.scripted = .none ∧
      ended.collaborators.broker.messages.total =
        shop.collaborators.broker.messages.total + taken.count .eventDelivered)
    (hline : line.message ∈ backgroundTexts) (htaken : taken ∈ backgroundMeasurements)
    (hnext : next.log = ended.log ++ [line] ∧ next.metrics = taken ++ ended.metrics ∧
      next.collaborators = ended.collaborators) : shop.Leaves next := by
  obtain ⟨hwritten, hmeasured, hcollaborators⟩ := hnext
  rw [hlog] at hwritten
  rw [hmetrics] at hmeasured
  refine ⟨⟨[line], hwritten, List.forall_mem_singleton.mpr hline⟩, ⟨taken, htaken, hmeasured⟩,
    fun hscripted ↦ ?_⟩
  obtain ⟨hstill, hsent⟩ := hended hscripted
  rw [hcollaborators, hmeasured, List.count_append]
  refine ⟨hstill, ?_⟩
  omega

end Leaves

/-- The warning that a header is too long is one of the background's lines. -/
theorem message_of_warning? {baggage : Baggage} :
    ∀ line ∈ baggage.warning?.toList, line.message ∈ backgroundTexts := by
  unfold Baggage.warning?
  dsimp only
  split
  · simp [backgroundTexts]
  · nofun

/-- A call that is sent leaves a warning at most. -/
theorem send_leaves (shop : Shop) (caller : Caller) (request : Request) :
    shop.Leaves (shop.send caller request).2 := by
  unfold send
  dsimp only
  split
  · obtain ⟨heard, heq, -⟩ := exists_hear_eq _ request _
    rw [heq]
    exact .of_quiet rfl message_of_warning? rfl rfl
  · exact .of_quiet rfl message_of_warning? rfl rfl

/-- The end of a call writes nothing. -/
theorem log_settle (shop : Shop) (request : Request) (sent : Sent) :
    (shop.settle request sent).2.log = shop.log := by
  obtain ⟨span, hsettle⟩ := shop.exists_settle_eq request sent
  rw [hsettle]
  unfold answerUnless
  cases sent.interruption <;> rfl

/-- The end of a call sends no message. -/
theorem broker_settle (shop : Shop) (h : shop.collaborators.scripted = .none) (request : Request)
    (sent : Sent) :
    (shop.settle request sent).2.collaborators.scripted = .none ∧
      (shop.settle request sent).2.collaborators.broker = shop.collaborators.broker := by
  obtain ⟨span, hsettle⟩ := shop.exists_settle_eq request sent
  rw [hsettle]
  unfold answerUnless
  cases sent.interruption with
  | some reason => exact ⟨h, rfl⟩
  | none =>
      obtain ⟨hscripted, hbroker, -⟩ := shop.collaborators.sent_answer h request sent.isScripted
      exact ⟨hscripted, hbroker⟩

/-- The end of a confirmation leaves one line, and its failure is measured. -/
theorem endConfirmation_leaves (shop : Shop) (confirmation : Confirmation) (sent : Sent) :
    shop.Leaves (shop.endConfirmation confirmation sent) := by
  have hlog := shop.log_settle (.confirm confirmation) sent
  have hmetrics := shop.metrics_settle (.confirm confirmation) sent
  have hbroker := fun h ↦ shop.broker_settle h (.confirm confirmation) sent
  unfold endConfirmation
  rcases hsettle : shop.settle (.confirm confirmation) sent with ⟨answer, ended⟩
  rw [hsettle] at hlog hmetrics hbroker
  have hended : ∀ {taken : List Measurement}, taken.count .eventDelivered = 0 →
      shop.collaborators.scripted = .none → ended.collaborators.scripted = .none ∧
        ended.collaborators.broker.messages.total =
          shop.collaborators.broker.messages.total + taken.count .eventDelivered := by
    intro taken hnone hscripted
    obtain ⟨hstill, hsame⟩ := hbroker hscripted
    rw [hnone, hsame]
    exact ⟨hstill, rfl⟩
  cases answer with
  | ok accepted =>
      exact .of_ended ⟨.debug, "order confirmation sent", []⟩ [] hlog hmetrics (hended rfl)
        (by simp [backgroundTexts]) (.head _) ⟨rfl, rfl, rfl⟩
  | error failure =>
      exact .of_ended _ [.stepFailed .sendConfirmation] hlog hmetrics (hended rfl)
        (by simp [backgroundTexts]) (.tail _ (.head _)) ⟨rfl, rfl, rfl⟩

/-- The end of a copy leaves one line, and what came of it is measured. -/
theorem endCopy_leaves (shop : Shop) (sent : Sent × Message) : shop.Leaves (shop.endCopy sent) := by
  have hsent := fun h ↦ shop.sent_deliverUnless h sent.2 sent.1
  have hsame : (shop.deliverUnless sent.2 sent.1).2.log = shop.log ∧
      (shop.deliverUnless sent.2 sent.1).2.metrics = shop.metrics := by
    unfold deliverUnless
    cases sent.1.interruption <;> exact ⟨rfl, rfl⟩
  unfold endCopy endAnnouncement
  rcases hdeliver : shop.deliverUnless sent.2 sent.1 with ⟨reply, ended⟩
  rw [hdeliver] at hsame hsent
  obtain ⟨hlog, hmetrics⟩ := hsame
  cases reply with
  | ok receipt =>
      refine .of_ended _ [.eventDelivered] hlog hmetrics (fun hscripted ↦ ?_)
        (by simp [backgroundTexts]) (.tail _ (.tail _ (.head _))) ⟨rfl, rfl, rfl⟩
      obtain ⟨hstill, -, hmessages⟩ := hsent hscripted
      exact ⟨hstill, congrArg RetainedLog.total hmessages⟩
  | error error =>
      refine .of_ended _ [.stepFailed .publishEvent, .eventFailed] hlog hmetrics
        (fun hscripted ↦ ?_) (by simp [backgroundTexts]) (.tail _ (.tail _ (.tail _ (.head _))))
        ⟨rfl, rfl, rfl⟩
      obtain ⟨hstill, -, hmessages⟩ := hsent hscripted
      exact ⟨hstill, congrArg RetainedLog.total hmessages⟩

/-- What a move leaves on record. -/
theorem Moves.leaves {shop next : Shop} (h : shop.Moves next) : shop.Leaves next := by
  cases h with
  | rearranged => exact .of_quiet (List.append_nil _).symm nofun rfl rfl
  | sent caller request => exact shop.send_leaves caller request
  | settled request sent =>
      have hmetrics := shop.metrics_settle request sent
      refine ⟨⟨[], ?_, nofun⟩, ⟨[], .head _, hmetrics⟩, fun h ↦ ?_⟩
      · rw [List.append_nil, log_settle]
      · obtain ⟨hscripted, hbroker⟩ := shop.broker_settle h request sent
        rw [hbroker, hmetrics]
        exact ⟨hscripted, rfl⟩
  | givenUp => exact .of_quiet (List.append_nil _).symm nofun rfl rfl
  | confirmed confirmation sent => exact shop.endConfirmation_leaves confirmation sent
  | begun caller order => exact .of_quiet rfl message_of_warning? rfl rfl
  | copied sent => exact shop.endCopy_leaves sent

/-- Following up an order rearranges tasks, and says so if there is nobody to confirm it to. -/
theorem followUp_eq (shop : Shop) (caller : Caller) (order : Order) (email : String) :
    ∃ tasks, shop.followUp caller order email =
      { shop with
        tasks := tasks
        ended := 0
        log := shop.log ++ if email = "" then
          [⟨.info, "no email on request; skipping confirmation", [("order_id", order.id.text)]⟩]
          else [] } := by
  unfold followUp startAnnouncement startConfirmation
  dsimp only
  by_cases hemail : email = ""
  · rw [if_pos hemail, if_pos hemail]
    split <;> exact ⟨_, rfl⟩
  · rw [if_neg hemail, if_neg hemail, List.append_nil]
    split <;> exact ⟨_, rfl⟩

end Storefront.Shop
