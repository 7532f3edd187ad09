import Storefront.RetainedLog
import Storefront.Trace.Carrier

/-!
# Call records

What collaborators have seen of the calls that reached them: which method was called, and on whose
behalf as far as the carrier tells. A log without room records nothing and counts nothing.
-/

namespace Storefront

/-- A call that reached a collaborator. -/
structure CallRecord where
  service : String
  method : String
  context : Context

/-- Records of calls, oldest first. -/
abbrev CallLog := RetainedLog CallRecord

namespace CallLog

/-- A log with room for everything. -/
def unbounded : CallLog :=
  .empty none

/-- A log that records nothing. -/
def disabled : CallLog :=
  .empty (some 0)

/-- Record a call with what its carrier tells. -/
def record {C : Type} [Carrier C] (log : CallLog) (service method : String) (carrier : C) :
    CallLog :=
  if log.capacity = some 0 then log else log.push ⟨service, method, extract carrier⟩

/-- The methods called, in order. -/
def methods (log : CallLog) : List String :=
  log.entries.map CallRecord.method

/-- How many calls of a method are recorded. -/
def count (log : CallLog) (method : String) : Nat :=
  log.methods.count method

end CallLog

end Storefront
