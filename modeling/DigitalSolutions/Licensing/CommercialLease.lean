import DigitalSolutions.Licensing.EntitlementManagement

namespace DigitalSolutions
namespace Licensing

open Foundation Persistence

/-!
# Commercial leases and devices

`issueCommercialLease` hands a lease request to the licensing package, which
activates devices and completes lease operations on its own.  The host itself
only deactivates devices.
-/

inductive LeaseAction
  | activation | validation | renewal | transfer
  deriving DecidableEq

structure CommercialLeaseRequest where
  licenseId : Id
  deviceHash : String
  action : LeaseAction
  deriving DecidableEq

/-- The lease capability of the licensing package, as a transaction on the
licensing tables. -/
structure LeasePackage where
  issue : Moment -> CommercialLeaseRequest -> Tx LicensingStore Unit

/-- What the host relies on: a lease changes no licence and no subscription,
and a device that it leaves active was active before or belongs to an active
licence. -/
structure LeasePackage.Lawful (package : LeasePackage) : Prop where
  licenses : forall moment request before after answer,
    (package.issue moment request).Commits before answer after -> after.licenses = before.licenses
  subscriptions : forall moment request before after answer,
    (package.issue moment request).Commits before answer after ->
      after.subscriptions = before.subscriptions
  devices : forall moment request before after answer,
    (package.issue moment request).Commits before answer after ->
    forall device, device ∈ after.deviceActivations -> device.active = true ->
      (Exists fun old => old ∈ before.deviceActivations ∧ old.active = true ∧
        old.licenseId = device.licenseId) ∨
      (Exists fun license => license ∈ before.licenses ∧ license.id = device.licenseId ∧
        license.status = .active)

/-- `deactivateAgentLicenseDevice`, for a device of a licence of the account. -/
def deactivateDevice (moment : Moment) (accountId licenseId deviceActivationId : Id)
    (store : LicensingStore) : LicensingStore :=
  { store with
    deviceActivations := store.deviceActivations.update
      (fun row => row.id = deviceActivationId && row.licenseId = licenseId && row.active &&
        (store.licenses.lookup (.id row.licenseId)).any (fun license => license.accountId = accountId))
      (fun row => { row with active := false, deactivatedAt := some moment.now }) }

end Licensing
end DigitalSolutions
