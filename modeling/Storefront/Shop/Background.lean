import Storefront.Shop.Announce
import Storefront.Shop.Call

/-!
# Work in the background

Tasks run only while something waits. They begin in the order in which they were started, and those
that wait go on in the order of their times. `waitUntil` lets time pass up to a moment: what is due
before the moment happens, each thing at its own time, and what is due at the moment itself happens
when something waits again. `drain` lets time pass until no task is left.
-/

namespace Storefront.Shop

/-- End the sending of a confirmation. -/
def endConfirmation (shop : Shop) (confirmation : Confirmation) (sent : Sent) : Shop :=
  match shop.settle (.confirm confirmation) sent with
  | (.ok _, shop) => shop.say ⟨.debug, "order confirmation sent", []⟩
  | (.error failure, shop) => shop.setback (.notificationFailed failure.toTransport)

/-- Start sending a confirmation, and end it if there is nothing to wait for. -/
def confirm (shop : Shop) (caller : Caller) (confirmation : Confirmation) :
    Option Task × Shop :=
  let (sent, shop) := shop.send caller (.confirm confirmation)
  if shop.clock < sent.time then (some (.confirmation caller confirmation (some sent)), shop)
  else (none, shop.endConfirmation confirmation sent)

/-- End one announcement of several, and count it if it failed. -/
def endCopy (shop : Shop) (sent : Sent × Message) : Shop :=
  match shop.endAnnouncement sent.1 sent.2 with
  | (.ok _, shop) => shop
  | (.error error, shop) => shop.measure (.stepFailed error.step)

/-- Announce an order a number of times, one after the other, until there is something to wait
for. -/
def announceAll (shop : Shop) (caller : Caller) (order : Order) : Nat → Option Task × Shop
  | 0 => (none, shop)
  | copies + 1 =>
      let (sent, shop) := shop.beginAnnouncement caller order
      if shop.clock < sent.1.time then
        (some (.announcement caller order (copies + 1) (some sent)), shop)
      else announceAll (shop.endCopy sent) caller order copies

/-- Let a task begin or go on, until it is over or waits again. -/
def resume (shop : Shop) : Task → Option Task × Shop
  | .confirmation caller confirmation none => shop.confirm caller confirmation
  | .confirmation _ confirmation (some sent) => (none, shop.endConfirmation confirmation sent)
  | .announcement caller order copies none => shop.announceAll caller order copies
  | .announcement caller order copies (some sent) =>
      (shop.endCopy sent).announceAll caller order (copies - 1)

/-- Let a task begin or go on, and keep it as the last one if it is not over. -/
def run (shop : Shop) (task : Task) : Shop :=
  match shop.resume task with
  | (some task, shop) => { shop with tasks := shop.tasks ++ [task] }
  | (none, shop) => { shop with ended := shop.ended + 1 }

/-- Let all tasks begin that have not. -/
def runFresh (shop : Shop) : Shop :=
  let (waiting, fresh) := shop.tasks.partition fun t ↦ t.due?.isSome
  fresh.foldl run { shop with tasks := waiting }

/-- Let waiting tasks go on one after the other, each at its time, as long as that time is one of
those given, and at most a number of times. -/
def runDue (isDue : Nat → Bool) : Nat → Shop → Shop
  | 0, shop => shop
  | steps + 1, shop =>
      match Task.earliest? shop.tasks with
      | none => shop
      | some (due, task, others) =>
          if isDue due then
            let shop := { shop with clock := max shop.clock due, tasks := others }
            runDue isDue steps (shop.run task)
          else shop

/-- How often tasks may still go on. -/
def work (shop : Shop) : Nat :=
  shop.tasks.foldl (fun n t ↦ n + t.size) 0

/-- Let waiting tasks go on as long as their time is one of those given. -/
def runWhile (shop : Shop) (isDue : Nat → Bool) : Shop :=
  runDue isDue shop.work shop

/-- Let all tasks go on that can without time passing. -/
def settleDown (shop : Shop) : Shop :=
  (shop.runWhile (· ≤ shop.clock)).runFresh

/-- Let time pass up to a moment. -/
def waitUntil (shop : Shop) (moment : Nat) : Shop :=
  if moment ≤ shop.clock then shop
  else { shop.settleDown.runWhile (· < moment) with clock := moment }

/-- Let time pass until no task is left, and say how many there were. -/
def drain (shop : Shop) : Nat × Shop :=
  (shop.tasks.length + shop.ended,
    if shop.tasks.isEmpty then shop.reap else (shop.settleDown.runWhile fun _ ↦ true).reap)

end Storefront.Shop
