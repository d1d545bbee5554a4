import VentureOS.Foundations.Program

/-! # Capability policy

`decideCapabilityPolicy` of `capability-policy.ts`: whether the subscription of a workspace, its plan, the mode of the
provider and the usage so far allow a protected operation. -/

namespace VentureOS.Opportunities

/-- `PolicyReasonCode`. -/
inductive PolicyReasonCode where
  | SUBSCRIPTION_MISSING
  | SUBSCRIPTION_STATUS_DENIED
  | TRIAL_EXPIRY_MISSING
  | TRIAL_EXPIRED
  | PLAN_MISSING
  | PLAN_INACTIVE
  | ENTITLEMENT_MISSING
  | USAGE_LIMIT_EXHAUSTED
  | GLOBAL_SWITCH_DISABLED
  | GLOBAL_SWITCH_INVALID
  | PROVIDER_MODE_MISSING
  | PROVIDER_MODE_UNKNOWN
  | PROVIDER_MODE_DISABLED
  | PROVIDER_MODE_UNAVAILABLE
  | POLICY_STATE_UNAVAILABLE
  deriving DecidableEq, Repr

/-- `CapabilityDefinition.usageLimit`. -/
inductive UsageLimit where
  | MARKETPLACE_ACCOUNTS
  | VENTURES
  deriving DecidableEq, Repr

/-- `CapabilityDefinition`. -/
structure CapabilityDefinition where
  entitlement : String
  providerModeEnv : Option String
  supportedProviderModes : List String
  liveProviderModes : List String
  globalSwitchEnv : Option String
  usageLimit : Option UsageLimit
  deriving DecidableEq, Repr

/-- `CAPABILITY_DEFINITIONS.VENTURE_CREATE`. -/
def ventureCreate : CapabilityDefinition where
  entitlement := "opportunities"
  providerModeEnv := none
  supportedProviderModes := ["internal"]
  liveProviderModes := []
  globalSwitchEnv := none
  usageLimit := some .VENTURES

/-- The plan of a subscription. -/
structure SubscriptionPlan where
  key : String
  isActive : Bool
  features : List String
  maxMarketplaceAccounts : Int
  maxVentures : Int
  deriving DecidableEq, Repr

/-- `CapabilityPolicySnapshot.subscription`. -/
structure Subscription where
  status : String
  trialEndsAt : Option Int
  plan : Option SubscriptionPlan
  deriving DecidableEq, Repr

/-- `CapabilityPolicySnapshot`. -/
structure CapabilityPolicySnapshot where
  subscription : Option Subscription
  providerMode : Option String
  configuredProviderMode : Option String
  marketplaceAccountCount : Nat
  ventureCount : Nat
  globalSwitchValue : Option String
  deriving DecidableEq, Repr

/-- `CapabilityPolicyDecision`, with the time of the decision. -/
structure CapabilityPolicyDecision where
  allowed : Bool
  reasonCode : Option PolicyReasonCode
  subscriptionStatus : Option String
  planKey : Option String
  entitlement : String
  providerMode : Option String
  enforcedAt : Int
  deriving DecidableEq, Repr

/-- A string that is missing or empty. -/
def isMissing (text : Option String) : Bool := decide (text.getD "" = "")

/-- `parseStrictBoolean`. -/
def parseStrictBoolean (value : Option String) : Option Bool :=
  if value = some "true" then some true else if value = some "false" then some false else none

/-! ## Checks -/

/-- The status of the subscription allows an operation. -/
def checkStatus (subscription : Subscription) (now : Int) : Except PolicyReasonCode Unit :=
  if subscription.status = "TRIALING" then
    match subscription.trialEndsAt with
    | none => .error .TRIAL_EXPIRY_MISSING
    | some trialEndsAt => throwIf (trialEndsAt ≤ now) .TRIAL_EXPIRED
  else throwIf (subscription.status ≠ "ACTIVE") .SUBSCRIPTION_STATUS_DENIED

/-- The provider is in the mode that is configured, if one has to be. -/
def checkConfiguredMode (definition : CapabilityDefinition) (providerMode configuredProviderMode : Option String) :
    Except PolicyReasonCode Unit :=
  if definition.providerModeEnv.isNone then .ok ()
  else do
    throwIf (isMissing configuredProviderMode) .PROVIDER_MODE_MISSING
    throwIf (configuredProviderMode.getD ""
      ∉ definition.supportedProviderModes ++ definition.liveProviderModes) .PROVIDER_MODE_UNKNOWN
    throwIf (providerMode ≠ configuredProviderMode) .PROVIDER_MODE_DISABLED

/-- A mode in which the provider is used for real is switched on. -/
def checkGlobalSwitch (definition : CapabilityDefinition) (mode : String) (globalSwitchValue : Option String) :
    Except PolicyReasonCode Unit :=
  if mode ∈ definition.liveProviderModes then
    if definition.globalSwitchEnv.isNone then .error .GLOBAL_SWITCH_INVALID
    else
      match parseStrictBoolean globalSwitchValue with
      | none => .error .GLOBAL_SWITCH_INVALID
      | some switchValue => throwIf (switchValue = false) .GLOBAL_SWITCH_DISABLED
  else .ok ()

/-- The mode of the provider allows an operation. -/
def checkProviderMode (definition : CapabilityDefinition) (providerMode : Option String)
    (snapshot : CapabilityPolicySnapshot) : Except PolicyReasonCode Unit := do
  checkConfiguredMode definition providerMode snapshot.configuredProviderMode
  throwIf (isMissing providerMode) .PROVIDER_MODE_MISSING
  throwIf (providerMode.getD "" ∉ definition.supportedProviderModes ++ definition.liveProviderModes)
    .PROVIDER_MODE_UNKNOWN
  checkGlobalSwitch definition (providerMode.getD "") snapshot.globalSwitchValue
  throwIf (providerMode.getD "" ∉ definition.supportedProviderModes) .PROVIDER_MODE_UNAVAILABLE

/-- The usage is below the limit of the plan. -/
def checkUsageLimit (definition : CapabilityDefinition) (plan : SubscriptionPlan)
    (snapshot : CapabilityPolicySnapshot) : Except PolicyReasonCode Unit := do
  throwIf (definition.usageLimit = some .MARKETPLACE_ACCOUNTS
    ∧ plan.maxMarketplaceAccounts ≤ snapshot.marketplaceAccountCount) .USAGE_LIMIT_EXHAUSTED
  throwIf (definition.usageLimit = some .VENTURES ∧ plan.maxVentures ≤ snapshot.ventureCount)
    .USAGE_LIMIT_EXHAUSTED

/-- All that is checked of a subscription with a plan. -/
def checkPolicy (definition : CapabilityDefinition) (providerMode : Option String) (now : Int)
    (snapshot : CapabilityPolicySnapshot) (subscription : Subscription) (plan : SubscriptionPlan) :
    Except PolicyReasonCode Unit := do
  checkStatus subscription now
  throwIf (plan.isActive = false) .PLAN_INACTIVE
  throwIf (definition.entitlement ∉ plan.features) .ENTITLEMENT_MISSING
  checkProviderMode definition providerMode snapshot
  checkUsageLimit definition plan snapshot

/-! ## Decisions -/

/-- `deniedDecision`. -/
def deniedDecision (definition : CapabilityDefinition) (now : Int) (reasonCode : PolicyReasonCode)
    (subscriptionStatus planKey providerMode : Option String) : CapabilityPolicyDecision where
  allowed := false
  reasonCode := some reasonCode
  subscriptionStatus
  planKey
  entitlement := definition.entitlement
  providerMode
  enforcedAt := now

/-- What is decided for a subscription with a plan. -/
def decidePlan (definition : CapabilityDefinition) (providerMode : Option String) (now : Int)
    (snapshot : CapabilityPolicySnapshot) (subscription : Subscription) (plan : SubscriptionPlan) :
    CapabilityPolicyDecision :=
  match checkPolicy definition providerMode now snapshot subscription plan with
  | .error reasonCode =>
    deniedDecision definition now reasonCode (some subscription.status) (some plan.key) providerMode
  | .ok () =>
    { allowed := true
      reasonCode := none
      subscriptionStatus := some subscription.status
      planKey := some plan.key
      entitlement := definition.entitlement
      providerMode
      enforcedAt := now }

/-- `decideCapabilityPolicy`, for a mode that the caller may ask for. -/
def decideCapabilityPolicy (definition : CapabilityDefinition) (requestedMode : Option String) (now : Int)
    (snapshot : CapabilityPolicySnapshot) : CapabilityPolicyDecision :=
  match snapshot.subscription with
  | none =>
    deniedDecision definition now .SUBSCRIPTION_MISSING none none (requestedMode.or snapshot.providerMode)
  | some subscription =>
    match subscription.plan with
    | none =>
      deniedDecision definition now .PLAN_MISSING (some subscription.status) none
        (requestedMode.or snapshot.providerMode)
    | some plan =>
      decidePlan definition (requestedMode.or snapshot.providerMode) now snapshot subscription plan

variable {definition : CapabilityDefinition} {providerMode : Option String} {now : Int}
  {snapshot : CapabilityPolicySnapshot} {subscription : Subscription} {plan : SubscriptionPlan}

theorem decidePlan_allowed :
    (decidePlan definition providerMode now snapshot subscription plan).allowed = true
      ↔ checkPolicy definition providerMode now snapshot subscription plan = .ok () := by
  unfold decidePlan
  cases checkPolicy definition providerMode now snapshot subscription plan with
  | error reasonCode => simp [deniedDecision]
  | ok u => simp

/-- **What is allowed has passed all checks.** -/
theorem allowed_iff {requestedMode : Option String} :
    (decideCapabilityPolicy definition requestedMode now snapshot).allowed = true
      ↔ ∃ subscription plan, snapshot.subscription = some subscription ∧ subscription.plan = some plan
        ∧ checkPolicy definition (requestedMode.or snapshot.providerMode) now snapshot subscription plan = .ok () := by
  unfold decideCapabilityPolicy
  cases hsubscription : snapshot.subscription with
  | none => simp [deniedDecision]
  | some subscription =>
    cases hplan : subscription.plan with
    | none => simp [deniedDecision, hplan]
    | some plan => simp [decidePlan_allowed, hplan]

/-- A limited capability is allowed below its limit only. -/
theorem below_of_checkPolicy (h : checkPolicy definition providerMode now snapshot subscription plan = .ok ())
    (hlimit : definition.usageLimit = some .VENTURES) : (snapshot.ventureCount : Int) < plan.maxVentures := by
  simp only [checkPolicy, checkUsageLimit, check_bind_eq_ok, throwIf_eq_ok, not_and] at h
  exact Int.not_le.mp (h.2.2.2.2.2 hlimit)

end VentureOS.Opportunities
