import SecureGuard.Lib.Exceptions
import SecureGuard.Mdm.AppBlocker
import SecureGuard.Mdm.FeaturesInForce

/-! # Giving the device up

Before the ownership is transferred, or given up, every protection is taken down, one call after
the other. Nothing is put back where a call throws: what is taken down already stays down, and
the rest stays up. Running the operation again takes down the rest. -/

namespace SecureGuard.Mdm

open Exceptions

/-- What protects the device: a policy in force, a feature that is on, a package that is
suspended, or in one of the persisted sets. -/
inductive Protection
  | inForce (policy : Policy)
  | featureState (id : String)
  | suspended (packageName : Package)
  | blockedApp (packageName : Package)
  | suspendedApp (packageName : Package)
deriving DecidableEq, Repr

namespace Device

def Holds (d : Device) : Protection → Prop
  | .inForce policy => policy ∈ d.ledger.inForce
  | .featureState id => d.ledger.on id = true
  | .suspended packageName => packageName ∈ d.suspended
  | .blockedApp packageName => packageName ∈ d.blockedApps
  | .suspendedApp packageName => packageName ∈ d.suspendedApps

/-! ## The operations -/

end Device

/-! ## What a call takes down -/

namespace TeardownAction

end TeardownAction

namespace Device

end Device

/-- The camera is disabled by its feature. -/
def cameraDisabled : Device :=
  (Device.unconfigured 34 none).perform (.apply ⟨blockCameraFeature, by decide +kernel⟩ true)

end SecureGuard.Mdm
