import DigitalSolutions.Foundation.Table
import DigitalSolutions.Persistence.Json
import DigitalSolutions.Persistence.Schema

namespace DigitalSolutions
namespace Licensing

open Foundation Persistence

/-!
# The table of lease operations

Rotations of the signing key, transfers, renewals, refreshes and revocations
record their operations in one table, under ids that are unique in it.  The
columns `action` and `status` are free text.
-/

/-- `value.name`, where `value` is a record. -/
def property (value : Json) (name : String) : Option Json :=
  match value with
  | .object entries => (entries.find? fun entry => entry.1 = name).map Prod.snd
  | _ => none

structure LeaseOperationRow where
  id : Id
  operationId : String
  licenseId : Option Id
  action : String
  status : String
  resultLeaseId : Option String
  metadata : Json
  createdAt : Time
  completedAt : Option Time
  deriving DecidableEq

inductive LeaseOperationRow.Key
  | id (value : Id) | operationId (value : String) | resultLeaseId (value : String)
  deriving DecidableEq

instance : Keyed LeaseOperationRow LeaseOperationRow.Key where
  keys row := [.id row.id, .operationId row.operationId] ++
    match row.resultLeaseId with
    | some resultLeaseId => [.resultLeaseId resultLeaseId]
    | none => []

theorem LeaseOperationRow.operationId_key (row : LeaseOperationRow) :
    LeaseOperationRow.Key.operationId row.operationId ∈ Keyed.keys row :=
  List.mem_append_left _ (List.mem_cons_of_mem _ List.mem_cons_self)

theorem LeaseOperationRow.operationId_of_key {row : LeaseOperationRow} {operationId : String}
    (occupied : LeaseOperationRow.Key.operationId operationId ∈ Keyed.keys row) :
    row.operationId = operationId := by
  unfold Keyed.keys instKeyedLeaseOperationRowKey at occupied
  cases isResult : row.resultLeaseId with
  | none =>
    simp only [isResult, List.append_nil, List.mem_cons, reduceCtorEq, LeaseOperationRow.Key.operationId.injEq,
      List.not_mem_nil, or_false, false_or] at occupied
    exact occupied.symm
  | some resultLeaseId =>
    simp only [isResult, List.mem_append, List.mem_cons, reduceCtorEq,
      LeaseOperationRow.Key.operationId.injEq, List.not_mem_nil, or_false, false_or] at occupied
    exact occupied.symm

theorem lookup_operation {operations : Table LeaseOperationRow} {row : LeaseOperationRow}
    (member : row ∈ operations) : operations.lookup (.operationId row.operationId) = some row :=
  operations.lookup_of_mem member row.operationId_key

end Licensing
end DigitalSolutions
