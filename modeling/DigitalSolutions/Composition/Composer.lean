import DigitalSolutions.Foundation.InsertionMap
import DigitalSolutions.Platform.Text

namespace DigitalSolutions
namespace Composition

open Foundation Platform

/-!
# Composing capabilities

Modules declare which capabilities they need and provide.  The composer
checks the declarations and then starts the modules, in passes over those
that are still pending, each as soon as its needs are there.  A capability is
an arbitrary value; a module's `start` is an arbitrary function of the
resolver that it is handed.
-/

abbrev CapabilityId := String

structure ModuleManifest where
  moduleId : String
  needs : List CapabilityId
  provides : List CapabilityId

structure CapabilityRegistration (Value : Type) where
  id : CapabilityId
  value : Value

/-- What a `throw` carries: a `CompositionError`, or what a module threw itself. -/
inductive Fault where
  | composition (message : String)
  | thrown (reason : String)
  deriving DecidableEq, Repr

structure CapabilityResolver (Value : Type) where
  has : CapabilityId -> Except Fault Bool
  get : CapabilityId -> Except Fault Value

structure CapabilityModule (Value : Type) where
  manifest : ModuleManifest
  start : CapabilityResolver Value -> Except Fault (List (CapabilityRegistration Value))

abbrev Capabilities (Value : Type) := InsertionMap CapabilityId Value

variable {Value : Type}

/-! ## Checks on the declarations -/

def unique (values : List String) : Bool := values.toFinset.card == values.length

def assertManifest (manifest : ModuleManifest) : Except Fault Unit :=
  if trim manifest.moduleId = "" then
    .error (.composition "Module id must not be empty.")
  else if unique manifest.needs = false then
    .error (.composition s!"Module {manifest.moduleId} declares a capability need more than once.")
  else if unique manifest.provides = false then
    .error (.composition s!"Module {manifest.moduleId} declares a capability provider more than once.")
  else .ok ()

/-- The provider of each capability, by the module's id. -/
abbrev DeclaredProviders := InsertionMap CapabilityId String

def declareProviders (moduleId : String) :
    List CapabilityId -> DeclaredProviders -> Except Fault DeclaredProviders
  | [], declared => .ok declared
  | capabilityId :: rest, declared =>
    match declared.get? capabilityId with
    | some existingProvider =>
      -- An existing provider counts when its id is a truthy string.
      if existingProvider = "" then declareProviders moduleId rest (declared.set capabilityId moduleId)
      else .error (.composition
        s!"Capability {capabilityId} is declared by both {existingProvider} and {moduleId}.")
    | none => declareProviders moduleId rest (declared.set capabilityId moduleId)

def assertManifests :
    List (CapabilityModule Value) -> DeclaredProviders -> Except Fault DeclaredProviders
  | [], declared => .ok declared
  | entry :: rest, declared => do
    assertManifest entry.manifest
    let declared <- declareProviders entry.manifest.moduleId entry.manifest.provides declared
    assertManifests rest declared

/-! ## Starting one module -/

def joinIds (ids : List CapabilityId) : String := ", ".intercalate ids

/-- `ids.join(", ") || "none"`. -/
def idsOrNone (ids : List CapabilityId) : String :=
  if joinIds ids = "" then "none" else joinIds ids

def assertRegistrationMatchesManifest (manifest : ModuleManifest)
    (registrations : List (CapabilityRegistration Value)) : Except Fault Unit :=
  let actualIds := registrations.map (·.id)
  if unique actualIds = false then
    .error (.composition s!"Module {manifest.moduleId} returned a capability more than once.")
  else
    let missing := manifest.provides.filter fun id => id ∉ actualIds
    let undeclared := actualIds.filter fun id => id ∉ manifest.provides
    if missing.length > 0 ∨ undeclared.length > 0 then
      .error (.composition (s!"Module {manifest.moduleId} provider output does not match its manifest. " ++
        s!"Missing: {idsOrNone missing}; undeclared: {idsOrNone undeclared}."))
    else .ok ()

def assertDeclared (manifest : ModuleManifest) (capabilityId : CapabilityId) : Except Fault Unit :=
  if capabilityId ∈ manifest.needs then .ok ()
  else .error (.composition
    s!"Module {manifest.moduleId} attempted undeclared capability access: {capabilityId}.")

def scopedResolver (manifest : ModuleManifest) (capabilities : Capabilities Value) :
    CapabilityResolver Value where
  has capabilityId := do
    assertDeclared manifest capabilityId
    .ok (capabilities.has capabilityId)
  get capabilityId := do
    assertDeclared manifest capabilityId
    match capabilities.get? capabilityId with
    | some value => .ok value
    | none => .error (.composition
        s!"Capability {capabilityId} is not available to module {manifest.moduleId}.")

/-- One call of a module's `start`, with the capabilities there were. -/
structure Start (Value : Type) where
  entry : CapabilityModule Value
  capabilities : Capabilities Value

def Start.resolver (start : Start Value) : CapabilityResolver Value :=
  scopedResolver start.entry.manifest start.capabilities

/-- Where a composition is.  `starts` records the calls of `start` so far. -/
structure Composing (Value : Type) where
  capabilities : Capabilities Value
  startedModuleIds : List String
  starts : List (Start Value)

def register (registrations : List (CapabilityRegistration Value))
    (capabilities : Capabilities Value) : Capabilities Value :=
  registrations.foldl (fun stored registration => stored.set registration.id registration.value)
    capabilities

def missingNeeds (entry : CapabilityModule Value) (capabilities : Capabilities Value) :
    List CapabilityId :=
  entry.manifest.needs.filter fun capabilityId => !capabilities.has capabilityId

def startModule (entry : CapabilityModule Value) (state : Composing Value) :
    Composing Value × Except Fault Unit :=
  let called := { state with starts := state.starts ++ [⟨entry, state.capabilities⟩] }
  let outcome := do
    let registrations <- entry.start (scopedResolver entry.manifest state.capabilities)
    assertRegistrationMatchesManifest entry.manifest registrations
    .ok registrations
  match outcome with
  | .error fault => (called, .error fault)
  | .ok registrations =>
    ({ called with
        capabilities := register registrations called.capabilities
        startedModuleIds := called.startedModuleIds ++ [entry.manifest.moduleId] }, .ok ())

/-! ## Passes over the pending modules -/

/-- One pass of the `for` loop: whether a module was started, and what is left
of `pending`. -/
def startReady (progress : Bool) : List (CapabilityModule Value) -> Composing Value ->
    Composing Value × Except Fault (Bool × List (CapabilityModule Value))
  | [], state => (state, .ok (progress, []))
  | entry :: rest, state =>
    if (missingNeeds entry state.capabilities).length > 0 then
      match startReady progress rest state with
      | (after, .ok (progress, left)) => (after, .ok (progress, entry :: left))
      | (after, .error fault) => (after, .error fault)
    else
      match startModule entry state with
      | (after, .ok ()) => startReady true rest after
      | (after, .error fault) => (after, .error fault)

def unresolved (pending : List (CapabilityModule Value)) (capabilities : Capabilities Value) : String :=
  "; ".intercalate (pending.map fun entry =>
    s!"{entry.manifest.moduleId} -> [{joinIds (missingNeeds entry capabilities)}]")

def cannotResolve (pending : List (CapabilityModule Value)) (capabilities : Capabilities Value) : Fault :=
  .composition s!"Composition cannot resolve remaining module needs: {unresolved pending capabilities}."

/-- The `while` loop; `none` when it has taken `fuel` rounds without an end. -/
def startPending : Nat -> List (CapabilityModule Value) -> Composing Value ->
    Option (Composing Value × Except Fault Unit)
  | 0, _, _ => none
  | fuel + 1, pending, state =>
    if pending.length > 0 then
      match startReady false pending state with
      | (after, .ok (true, left)) => startPending fuel left after
      | (after, .ok (false, left)) =>
        some (after, .error (cannotResolve left after.capabilities))
      | (after, .error fault) => some (after, .error fault)
    else some (state, .ok ())

structure ComposedApplication (Value : Type) where
  moduleIds : List String
  capabilityIds : List CapabilityId
  has : CapabilityId -> Bool
  get : CapabilityId -> Except Fault Value

def composedApplication (state : Composing Value) : ComposedApplication Value where
  moduleIds := state.startedModuleIds
  capabilityIds := state.capabilities.keys
  has := state.capabilities.has
  get capabilityId :=
    match state.capabilities.get? capabilityId with
    | some value => .ok value
    | none => .error (.composition s!"Capability {capabilityId} is not composed.")

/-- What a composition did: the modules it started, and how it ended. -/
structure Composed (Value : Type) where
  starts : List (Start Value)
  outcome : Except Fault (ComposedApplication Value)

def assertModules (modules : List (CapabilityModule Value)) : Except Fault DeclaredProviders :=
  if unique (modules.map (·.manifest.moduleId)) = false then
    .error (.composition "Module ids must be unique.")
  else assertManifests modules InsertionMap.empty

def composeCapabilities (fuel : Nat) (modules : List (CapabilityModule Value)) :
    Option (Composed Value) :=
  match assertModules modules with
  | .error fault => some ⟨[], .error fault⟩
  | .ok _ =>
    (startPending fuel modules ⟨InsertionMap.empty, [], []⟩).map fun (state, outcome) =>
      ⟨state.starts, outcome.map fun () => composedApplication state⟩

end Composition
end DigitalSolutions
