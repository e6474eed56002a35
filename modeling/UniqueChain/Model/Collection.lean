import UniqueChain.Model.Properties

/-!
# Collections: settings, limits and permissions

The data of a collection, with the effective values of its optional limits and
permissions, and the rules by which new limits and permissions are merged into
the old ones.
-/

namespace UniqueChain

/-- The three kinds of collections. -/
inductive CollectionMode where
  | nft
  | fungible (decimalPoints : ℕ)
  | reFungible
  deriving DecidableEq

/-- The number of a mode in events. -/
def CollectionMode.id : CollectionMode → ℕ
  | .nft => 1
  | .fungible _ => 2
  | .reFungible => 3

/-- Only a fungible collection has decimals. -/
def CollectionMode.decimalPoints : CollectionMode → ℕ
  | .fungible decimalPoints => decimalPoints
  | _ => 0

/-- Who may use a collection. -/
inductive AccessMode where
  | normal
  | allowList
  deriving DecidableEq

/-- The sponsor of a collection, who has to confirm. -/
inductive SponsorshipState (AccountId : Type) where
  | disabled
  | unconfirmed (sponsor : AccountId)
  | confirmed (sponsor : AccountId)
  deriving DecidableEq

namespace SponsorshipState

variable {AccountId : Type}

/-- The sponsor, once confirmed. -/
def sponsor : SponsorshipState AccountId → Option AccountId
  | confirmed sponsor => some sponsor
  | _ => none

/-- The sponsor, confirmed or not. -/
def pendingSponsor : SponsorshipState AccountId → Option AccountId
  | unconfirmed sponsor => some sponsor
  | confirmed sponsor => some sponsor
  | disabled => none

end SponsorshipState

/-- What the chain itself sets. -/
structure CollectionFlags where
  foreign : Bool
  erc721metadata : Bool
  external : Bool
  reserved : ℕ
  deriving DecidableEq

/-- What a user may ask for at the creation. -/
def CollectionFlags.isAllowedForUser (flags : CollectionFlags) : Bool :=
  !flags.foreign && !flags.external && flags.reserved == 0

/-- How often data are sponsored. -/
inductive SponsoringRateLimit where
  | sponsoringDisabled
  | blocks (count : ℕ)
  deriving DecidableEq

/-- `none` means the chain default. -/
structure CollectionLimits where
  accountTokenOwnershipLimit? : Option ℕ := none
  sponsoredDataSize? : Option ℕ := none
  sponsoredDataRateLimit? : Option SponsoringRateLimit := none
  tokenLimit? : Option ℕ := none
  sponsorTransferTimeout? : Option ℕ := none
  sponsorApproveTimeout? : Option ℕ := none
  ownerCanTransfer? : Option Bool := none
  ownerCanDestroy? : Option Bool := none
  transfersEnabled? : Option Bool := none
  deriving DecidableEq

namespace CollectionLimits

variable (limits : CollectionLimits)

/-- The most tokens of an account. -/
def accountTokenOwnershipLimit : ℕ :=
  min (limits.accountTokenOwnershipLimit?.getD UniqueChain.accountTokenOwnershipLimit)
    maxTokenOwnership

/-- The most bytes a sponsor pays for. -/
def sponsoredDataSize : ℕ := min (limits.sponsoredDataSize?.getD customDataLimit) customDataLimit

/-- The most tokens of the collection. -/
def tokenLimit : ℕ := limits.tokenLimit?.getD collectionTokenLimit

/-- Blocks between sponsored transfers; the default depends on the mode. -/
def sponsorTransferTimeout (default : ℕ) : ℕ :=
  min (limits.sponsorTransferTimeout?.getD default) maxSponsorTimeout

/-- Blocks between sponsored approvals. -/
def sponsorApproveTimeout : ℕ :=
  min (limits.sponsorApproveTimeout?.getD UniqueChain.sponsorApproveTimeout) maxSponsorTimeout

/-- May owner and admins move the tokens of others? -/
def ownerCanTransfer : Bool := limits.ownerCanTransfer?.getD false

/-- Was that set at all? -/
def ownerCanTransferInstalled : Bool := limits.ownerCanTransfer?.isSome

/-- May the owner destroy the collection? -/
def ownerCanDestroy : Bool := limits.ownerCanDestroy?.getD true

/-- May tokens be moved? -/
def transfersEnabled : Bool := limits.transfersEnabled?.getD true

/-- Blocks between sponsored writes; none if they are not sponsored. -/
def sponsoredDataRateLimit : Option ℕ :=
  match limits.sponsoredDataRateLimit?.getD .sponsoringDisabled with
  | .sponsoringDisabled => none
  | .blocks count => some (min count maxSponsorTimeout)

end CollectionLimits

/-- Who may nest tokens under a token of the collection, and from which
collections. -/
structure NestingPermissions where
  tokenOwner : Bool := false
  collectionAdmin : Bool := false
  restricted : Option (Finset CollectionId) := none
  deriving DecidableEq

/-- The permissions as stored: those never set are absent. -/
structure CollectionPermissions where
  access? : Option AccessMode := none
  mintMode? : Option Bool := none
  nesting? : Option NestingPermissions := none
  deriving DecidableEq

namespace CollectionPermissions

variable (permissions : CollectionPermissions)

/-- Anyone unless set. -/
def access : AccessMode := permissions.access?.getD .normal

/-- Whether others than owner and admins may mint. -/
def mintMode : Bool := permissions.mintMode?.getD false

/-- Nobody may nest unless set. -/
def nesting : NestingPermissions := permissions.nesting?.getD {}

end CollectionPermissions

/-- The record of a collection. -/
structure Collection (AccountId : Type) where
  owner : AccountId
  mode : CollectionMode
  tokenPrefix : List UInt8
  sponsorship : SponsorshipState AccountId
  limits : CollectionLimits
  permissions : CollectionPermissions
  flags : CollectionFlags

/-- What the creator of a collection hands in. -/
structure CreateCollectionData (CrossAccountId : Type) where
  mode : CollectionMode
  tokenPrefix : List UInt8 := []
  limits : Option CollectionLimits := none
  permissions : Option CollectionPermissions := none
  tokenPropertyPermissions : List PropertyKeyPermission := []
  properties : List Property := []
  adminList : List CrossAccountId := []
  pendingSponsor : Option CrossAccountId := none
  flags : CollectionFlags := ⟨false, false, false, 0⟩

/-! ## Merging new settings into old ones -/

/-- Why new limits are refused. -/
inductive LimitError where
  | collectionLimitBoundsExceeded
  | collectionTokenLimitExceeded
  | ownerPermissionsCantBeReverted
  deriving DecidableEq

/-- One field of `limit_default!`: a new value must pass its check against the
effective old one, a missing new value keeps the stored old one. -/
def mergeLimit {Value : Type} (check : Value → Bool) (error : LimitError)
    (old new : Option Value) : Except LimitError (Option Value) :=
  match new with
  | some value => if check value then .ok (some value) else .error error
  | none => .ok old

/-- Merge the set fields of `new` into `old`.  The default transfer timeout the
source passes for each mode is only bound to a name there and never tested. -/
def clampLimits (old new : CollectionLimits) : Except LimitError CollectionLimits := do
  let accountTokenOwnershipLimit? ← mergeLimit (· ≤ maxTokenOwnership)
    .collectionLimitBoundsExceeded old.accountTokenOwnershipLimit? new.accountTokenOwnershipLimit?
  let sponsoredDataSize? ← mergeLimit (· ≤ customDataLimit)
    .collectionLimitBoundsExceeded old.sponsoredDataSize? new.sponsoredDataSize?
  let sponsoredDataRateLimit? ← mergeLimit (fun _ => true)
    .collectionLimitBoundsExceeded old.sponsoredDataRateLimit? new.sponsoredDataRateLimit?
  let tokenLimit? ← mergeLimit (fun limit => limit ≤ old.tokenLimit && 0 < limit)
    .collectionTokenLimitExceeded old.tokenLimit? new.tokenLimit?
  let sponsorTransferTimeout? ← mergeLimit (· ≤ maxSponsorTimeout)
    .collectionLimitBoundsExceeded old.sponsorTransferTimeout? new.sponsorTransferTimeout?
  let sponsorApproveTimeout? ← mergeLimit (fun _ => true)
    .collectionLimitBoundsExceeded old.sponsorApproveTimeout? new.sponsorApproveTimeout?
  let ownerCanTransfer? ← mergeLimit
    (fun allowed => !old.ownerCanTransferInstalled || old.ownerCanTransfer || !allowed)
    .ownerPermissionsCantBeReverted old.ownerCanTransfer? new.ownerCanTransfer?
  let ownerCanDestroy? ← mergeLimit (fun allowed => old.ownerCanDestroy || !allowed)
    .ownerPermissionsCantBeReverted old.ownerCanDestroy? new.ownerCanDestroy?
  let transfersEnabled? ← mergeLimit (fun _ => true)
    .collectionLimitBoundsExceeded old.transfersEnabled? new.transfersEnabled?
  .ok { accountTokenOwnershipLimit?, sponsoredDataSize?, sponsoredDataRateLimit?, tokenLimit?,
        sponsorTransferTimeout?, sponsorApproveTimeout?, ownerCanTransfer?, ownerCanDestroy?,
        transfersEnabled? }

/-- Merge the set fields of `new` into `old`; nothing is checked. -/
def clampPermissions (old new : CollectionPermissions) : CollectionPermissions where
  access? := new.access? <|> old.access?
  mintMode? := new.mintMode? <|> old.mintMode?
  nesting? := new.nesting? <|> old.nesting?

end UniqueChain
