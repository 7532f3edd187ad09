import Storefront.Proofs.Checkout.Calls
import Storefront.Proofs.Checkout.Conformance

/-!
# Why a checkout fails

A checkout that fails does so at one step: the request is refused before anything is asked, all that
was asked is answered but there is no total, or the last call is not answered. `FailsAt` names the
step, and `Ends.failsAt` says that it is the one that the error names. Without interruptions the
error is none, `Ends.isInterruption_eq_false`.
-/

namespace Storefront

/-- No request belongs to the check of the request for an order. -/
theorem Request.step_ne_validate (request : Request) : request.step ≠ .validate := by
  cases request <;> nofun

/-- No call is blamed by a defect of the request for an order. -/
theorem Request.blame?_ne_invalidRequest {request : Request} {failure : CallFailure}
    {defect : RequestDefect} : request.blame? failure ≠ some (.invalidRequest defect) := by
  intro h
  have hstep := (explains_of_blame? h).1
  exact request.step_ne_validate hstep.symm

/-- The error is that of an interruption. -/
def PlacementError.isInterruption : PlacementError → Bool
  | .cancelled _ | .deadlineExceeded _ => true
  | _ => false

/-- The call was interrupted. -/
def Call.isInterrupted (call : Call) : Bool :=
  match call.answer with
  | .error (.interrupted _) => true
  | _ => false

/-- What is not interrupted is not blamed by an interruption. -/
theorem Request.isInterruption_of_blame? {request : Request} {failure : CallFailure}
    {error : PlacementError} (h : request.blame? failure = some error)
    (hanswered : Call.isInterrupted ⟨request, .error failure⟩ = false) :
    error.isInterruption = false := by
  cases failure with
  | interrupted => cases hanswered
  | transport cause =>
      obtain ⟨-, -, htransport⟩ := explains_of_blame? h
      cases error with
      | cancelled | deadlineExceeded => cases htransport
      | _ => rfl

namespace Checkout

/-- `FailsAt request events step` says at which step a checkout fails in which `events` happen. -/
inductive FailsAt (request : OrderRequest) (events : List Event) : Step → Prop where
  /-- The request is refused, and nothing is asked. -/
  | refused {defect} :
      request.validate = .error defect → callsOf events = [] → FailsAt request events .validate
  /-- Everything that was asked is answered, but there is no total. -/
  | unpayable : (∀ call ∈ callsOf events, call.succeeded = true) →
      FailsAt request events .prepareTotal
  /-- The last call is not answered. -/
  | unanswered {before asked failure} :
      callsOf events = before ++ [⟨asked, .error failure⟩] → FailsAt request events asked.step

/-- `Ends request events error` says which error a checkout ends with in which `events` happen. -/
inductive Ends (request : OrderRequest) (events : List Event) : PlacementError → Prop where
  | refused {defect} : request.validate = .error defect → events = [] →
      Ends request events (.invalidRequest defect)
  | unpayable {cause} : (∀ call ∈ callsOf events, call.succeeded = true) →
      Ends request events (.invalidAmount .prepareTotal cause)
  | unanswered {before asked failure error} :
      callsOf events = before ++ [⟨asked, .error failure⟩] → asked.blame? failure = some error →
      Ends request events error

variable {id : OrderId} {request : OrderRequest} {events : List Event} {error : PlacementError}

/-- Every checkout that fails ends in one of these ways. -/
theorem Conforms.ends (h : Conforms id request events (.error error)) :
    Ends request events error := by
  generalize hresult : (.error error : Except PlacementError Order) = result at h
  cases h with
  | refused hvalid =>
      cases hresult
      exact .refused hvalid rfl
  | stopped plan hvalid hstops =>
      cases hresult
      obtain ⟨before, call, failure, -, hcalls, hblame⟩ := calls_of_stopsAt hstops
      exact .unanswered hcalls hblame
  | unpayable plan hvalid htotal =>
      cases hresult
      refine .unpayable fun call hcall ↦ ?_
      rw [callsOf_opening] at hcall
      exact (Plan.of_mem_pricing hcall).2
  | uncharged plan diverted failure hvalid htotal hblame =>
      cases hresult
      exact .unanswered (callsOf_toCharge ..) hblame
  | @unshipped valid total error plan diverted transaction failure hvalid htotal hblame =>
      cases hresult
      have hcalls : callsOf (toShipment plan id total diverted transaction (.error failure) ++
          [chargedInVain id transaction]) =
          (plan.pricing ++ [⟨.charge total valid.card diverted, .ok transaction⟩]) ++
            [⟨.shipOrder valid.address plan.cart.lines, .error failure⟩] := by
        simp [chargedInVain, logged]
      exact .unanswered hcalls hblame
  | placed => cases hresult

/-- The error of a checkout names the step at which it fails. -/
theorem Ends.failsAt (h : Ends request events error) : FailsAt request events error.step := by
  cases h with
  | refused hvalid hevents => exact .refused hvalid (congrArg callsOf hevents)
  | unpayable hcalls => exact .unpayable hcalls
  | unanswered hcalls hblame =>
      rw [(Request.explains_of_blame? hblame).1]
      exact .unanswered hcalls

/-- A checkout none of whose calls is interrupted is not interrupted. -/
theorem Ends.isInterruption_eq_false (h : Ends request events error)
    (hcalls : ∀ call ∈ callsOf events, call.isInterrupted = false) :
    error.isInterruption = false := by
  cases h with
  | refused => rfl
  | unpayable => rfl
  | unanswered hlast hblame =>
      refine Request.isInterruption_of_blame? hblame (hcalls _ ?_)
      rw [hlast]
      exact List.mem_append_right _ (List.mem_singleton.mpr rfl)

/-- Nothing happens in a checkout of an invalid request. -/
theorem Ends.events_eq_nil {defect : RequestDefect}
    (h : Ends request events (.invalidRequest defect)) : events = [] := by
  generalize herror : PlacementError.invalidRequest defect = error at h
  cases h with
  | refused _ hevents => exact hevents
  | unpayable => cases herror
  | unanswered _ hblame =>
      cases herror
      exact absurd hblame Request.blame?_ne_invalidRequest

end Checkout

end Storefront
