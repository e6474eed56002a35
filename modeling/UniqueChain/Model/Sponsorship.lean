import UniqueChain.Model.ContractHelpers
import UniqueChain.Model.Runtime
import UniqueChain.Model.UniqueCall

/-!
# Blocks, fees and who pays them

The pallets of collections and tokens together with the sponsors of contracts, block
after block.  Before an extrinsic is executed the handlers of this module are asked
whether a sponsor pays its fee: `UniqueSponsorshipHandler` for the calls of the pallet
`unique`, and for calls of the EVM first `UniqueEthSponsorshipHandler`, when the target
is a collection or a refungible token, then the sponsor of the contract.  What a handler
writes stays, whether it names a sponsor or not, unless the call is only checked.

The pallet `app-promotion` may become the sponsor of a collection or of a contract
without being asked by its owner.
-/

namespace UniqueChain

open Execution

variable {T : UniqueChain.Config}

/-! ## Calls of the EVM -/

/-- A property as a contract passes it: a key and a value of any length. -/
structure EthProperty where
  key : List UInt8
  value : List UInt8

/-- The calls of an NFT collection's contract that have sponsors. -/
inductive UniqueNFTCall where
  | setProperty (tokenId : ℕ) (key value : List UInt8)
  | setProperties (tokenId : ℕ) (properties : List EthProperty)
  | transfer (tokenId : ℕ)
  | mintCross (properties : List EthProperty)
  | mint
  | mintCheckId
  | mintWithTokenUri (tokenUri : List UInt8)
  | mintWithTokenUriCheckId (tokenUri : List UInt8)
  | transferFrom (from' : H160) (tokenId : ℕ)
  | approve (tokenId : ℕ)
  /-- A call that is not sponsored. -/
  | other

/-- Those of a fungible collection's contract. -/
inductive UniqueFungibleCall where
  | transfer
  | transferFrom (from' : H160)
  | approve
  | other

/-- Those of a refungible collection's contract. -/
inductive UniqueRefungibleCall where
  | setProperty (tokenId : ℕ) (key value : List UInt8)
  | transferFrom (from' : H160) (tokenId : ℕ)
  | mintCross (properties : List EthProperty)
  | transferCross (tokenId : ℕ)
  | transferFromCross (tokenId : ℕ)
  | transfer (tokenId : ℕ)
  | mint
  | mintCheckId
  | mintWithTokenUri (tokenUri : List UInt8)
  | mintWithTokenUriCheckId (tokenUri : List UInt8)
  | other

/-- Those of a refungible token's contract. -/
inductive UniqueRefungibleTokenCall where
  | transfer
  | transferFrom (from' : H160)
  | approve
  | transferCross
  | transferFromCross
  | approveCross
  | other

/-! ## State -/

/-- What the handlers are generic over: the account of `app-promotion`, the defaults of
the chain, and the parsers of the input of a call. -/
structure SponsorConfig (T : Config) where
  fromSub : T.AccountId → T.CrossAccountId
  promotionAccount : T.AccountId
  defaultSponsoringRateLimit : ℕ
  minGasPrice : ℕ
  Input : Type
  parseNFT : Input → Option UniqueNFTCall
  parseFungible : Input → Option UniqueFungibleCall
  parseRefungible : Input → Option UniqueRefungibleCall
  parseRefungibleToken : Input → Option UniqueRefungibleTokenCall

/-- A withdrawal from the sponsor of a collection that was granted. -/
structure CollectionDecision (T : Config) where
  handle : CollectionHandle T
  withdrawal : Withdrawal T
  blockNumber : ℕ

/-- The sponsor of a contract was named for a call of a user. -/
structure ContractDecision (T : Config) where
  contract : H160
  user : H160
  maxFee : ℕ
  sponsor : T.CrossAccountId
  blockNumber : ℕ

/-- The decisions are recorded for reference, the latest first; no code reads them. -/
structure SponsoredState (S : SponsorConfig T) where
  chain : State T
  helpers : ContractHelpersStorage T
  /-- The admin of the pallet `app-promotion`. -/
  admin : Option T.AccountId
  blockNumber : ℕ
  decisions : List (CollectionDecision T)
  contractDecisions : List (ContractDecision T)

variable {S : SponsorConfig T}

/-- A handler names a sponsor or declines; it keeps what it has written. -/
abbrev Handler (S : SponsorConfig T) (α : Type) := Execution Refusal (SponsoredState S) α

/-! ## Sponsors of collections -/

/-- Ask the sponsor of the collection for a withdrawal. -/
def withdraw (handle : CollectionHandle T) (withdrawal : Withdrawal T) : Handler S Unit := do
  let x ← read
  let unique ← okOr (Sponsoring.run handle x.blockNumber x.chain withdrawal) .declined
  update fun x =>
    { x with
      chain := x.chain.mapUnique fun _ => unique
      decisions := ⟨handle, withdrawal, x.blockNumber⟩ :: x.decisions }

/-- Load a collection and make the withdrawal from its sponsor. -/
def withdrawFrom (id : CollectionId) (withdrawal : Withdrawal T) : Handler S T.AccountId := do
  let x ← read
  let (sponsor, handle) ← okOr (load x.chain id) .declined
  withdraw handle withdrawal
  pure sponsor

/-- In bytes. -/
def Property.size (property : Property) : ℕ := property.key.1.length + property.value.length

/-- In bytes. -/
def EthProperty.size (property : EthProperty) : ℕ := property.key.length + property.value.length

/-- The sponsor of a call of `pallet-unique`. -/
def UniqueSponsorshipHandler.getSponsor (who : T.AccountId) : UniqueCall T → Handler S T.AccountId
  | .setTokenProperties collectionId tokenId properties =>
    withdrawFrom collectionId
      (.setExistingTokenProperty (S.fromSub who) tokenId (properties.map Property.size).sum)
  | .createItem collectionId data =>
    withdrawFrom collectionId (.createItem (S.fromSub who) data)
  | .transfer collectionId itemId => withdrawFrom collectionId (.transfer (S.fromSub who) itemId)
  | .transferFrom from' collectionId itemId => withdrawFrom collectionId (.transfer from' itemId)
  | .approve collectionId itemId => withdrawFrom collectionId (.approve who itemId)
  | _ => fail .declined

/-- A number of 256 bits as the number of a token. -/
def toTokenId (number : ℕ) : Handler S TokenId :=
  okOr (if number ≤ u32Max then some number else none) .declined

namespace UniqueEthSponsorshipHandler

variable (handle : CollectionHandle T) (who : T.CrossAccountId)

/-- A mint across accounts is two withdrawals, and the first one stays if the second is
refused. -/
def nonfungibleCallSponsor : UniqueNFTCall → Handler S Unit
  | .setProperty tokenId key value => do
    let tokenId ← toTokenId tokenId
    withdraw handle (.setExistingTokenProperty who tokenId (key.length + value.length))
  | .setProperties tokenId properties => do
    let tokenId ← toTokenId tokenId
    withdraw handle (.setExistingTokenProperty who tokenId (properties.map EthProperty.size).sum)
  | .transfer tokenId => do
    let tokenId ← toTokenId tokenId
    withdraw handle (.transfer who tokenId)
  | .mintCross properties => do
    withdraw handle (.createItem who (.nft []))
    let x ← read
    let tokenId ← okOr (Nonfungible.nextTokenId x.chain handle).toOption .declined
    withdraw handle (.setTokenProperty tokenId (properties.map EthProperty.size).sum)
  | .mint => withdraw handle (.createItem who (.nft []))
  | .mintCheckId => withdraw handle (.createItem who (.nft []))
  | .mintWithTokenUri _ => withdraw handle (.createItem who (.nft []))
  | .mintWithTokenUriCheckId _ => withdraw handle (.createItem who (.nft []))
  | .transferFrom from' tokenId => do
    let tokenId ← toTokenId tokenId
    withdraw handle (.transfer (T.fromEth from') tokenId)
  | .approve tokenId => do
    let tokenId ← toTokenId tokenId
    withdraw handle (.approve (T.asSub who) tokenId)
  | .other => fail .declined

/-- Whether the sponsor of the collection pays. -/
def fungibleCallSponsor : UniqueFungibleCall → Handler S Unit
  | .transfer => withdraw handle (.transfer who 0)
  | .transferFrom from' => withdraw handle (.transfer (T.fromEth from') 0)
  | .approve => withdraw handle (.approve (T.asSub who) 0)
  | .other => fail .declined

/-- New tokens are rated like non-fungible ones. -/
def refungibleCallSponsor : UniqueRefungibleCall → Handler S Unit
  | .setProperty tokenId key value => do
    let tokenId ← toTokenId tokenId
    withdraw handle (.setExistingTokenProperty who tokenId (key.length + value.length))
  | .transferFrom from' tokenId => do
    let tokenId ← toTokenId tokenId
    withdraw handle (.transfer (T.fromEth from') tokenId)
  | .mintCross _ => withdraw handle (.createItem who (.nft []))
  | .transferCross tokenId => do
    let tokenId ← toTokenId tokenId
    withdraw handle (.transfer who tokenId)
  | .transferFromCross tokenId => do
    let tokenId ← toTokenId tokenId
    withdraw handle (.transfer who tokenId)
  | .transfer tokenId => do
    let tokenId ← toTokenId tokenId
    withdraw handle (.transfer who tokenId)
  | .mint => withdraw handle (.createItem who (.nft []))
  | .mintCheckId => withdraw handle (.createItem who (.nft []))
  | .mintWithTokenUri _ => withdraw handle (.createItem who (.nft []))
  | .mintWithTokenUriCheckId _ => withdraw handle (.createItem who (.nft []))
  | .other => fail .declined

/-- Whether the sponsor of the collection pays. -/
def refungibleTokenCallSponsor (tokenId : TokenId) : UniqueRefungibleTokenCall → Handler S Unit
  | .transfer => withdraw handle (.transfer who tokenId)
  | .transferFrom from' => withdraw handle (.transfer (T.fromEth from') tokenId)
  | .approve => withdraw handle (.approve (T.asSub who) tokenId)
  | .transferCross => withdraw handle (.transfer who tokenId)
  | .transferFromCross => withdraw handle (.transfer who tokenId)
  | .approveCross => withdraw handle (.approve (T.asSub who) tokenId)
  | .other => fail .declined

/-- A call of a collection, parsed by its mode. -/
def callSponsor (input : S.Input) : Handler S Unit :=
  match handle.collection.mode with
  | .nft => do
    let call ← okOr (S.parseNFT input) .declined
    nonfungibleCallSponsor handle who call
  | .reFungible => do
    let call ← okOr (S.parseRefungible input) .declined
    refungibleCallSponsor handle who call
  | .fungible _ => do
    let call ← okOr (S.parseFungible input) .declined
    fungibleCallSponsor handle who call

/-- The sponsor of a call of a collection, a token or a contract. -/
def getSponsor (who : T.CrossAccountId) (callContext : CallContext S.Input) :
    Handler S T.CrossAccountId :=
  match mapEthToId callContext.contractAddress with
  | some collectionId => do
    let x ← read
    let (sponsor, handle) ← okOr (load x.chain collectionId) .declined
    callSponsor handle who callContext.input
    pure (S.fromSub sponsor)
  | none => do
    let (collectionId, tokenId) ← okOr (evmAddressToToken callContext.contractAddress) .declined
    let x ← read
    let collection ← okOr (x.chain.common.collectionById.get collectionId) .declined
    ensure (collection.mode = .reFungible) .declined
    let sponsor ← okOr collection.sponsorship.sponsor .declined
    let call ← okOr (S.parseRefungibleToken callContext.input) .declined
    refungibleTokenCallSponsor ⟨collectionId, collection⟩ who tokenId call
    pure (S.fromSub sponsor)

end UniqueEthSponsorshipHandler

/-! ## Sponsors of contracts -/

/-- Ask the sponsor of the contract, and record the decision. -/
def contractSponsor (who : T.CrossAccountId) (callContext : CallContext S.Input) :
    Handler S T.CrossAccountId :=
  ⟨fun x =>
    match (HelpersContractSponsoring.getSponsor S.defaultSponsoringRateLimit x.blockNumber who
      callContext).run x.helpers with
    | .ok sponsor helpers =>
      .ok sponsor
        { x with
          helpers
          contractDecisions :=
            ⟨callContext.contractAddress, T.asEth who, callContext.maxFee, sponsor,
              x.blockNumber⟩ :: x.contractDecisions }
    | .error refusal helpers => .error refusal { x with helpers }⟩

/-- The first handler that names a sponsor. -/
def EvmSponsorshipHandler.getSponsor (who : T.CrossAccountId) (callContext : CallContext S.Input) :
    Handler S T.CrossAccountId := do
  match ← attempt (UniqueEthSponsorshipHandler.getSponsor who callContext) with
  | .ok sponsor => pure sponsor
  | .error .declined => contractSponsor who callContext
  | .error .panicked => fail .panicked

/-- What the fee is taken for. -/
inductive WithdrawReason (Input : Type) where
  | call (target : H160) (input : Input)
  | create

/-- What the fee of a call of the EVM is computed from. -/
structure EvmFee (Input : Type) where
  source : H160
  maxFeePerGas : Option ℕ
  gasLimit : ℕ
  reason : WithdrawReason Input
  isTransactional : Bool
  isCheck : Bool

/-- Creations of contracts have no sponsor. -/
def whoPaysFee (origin : H160) (maxFee : ℕ) : WithdrawReason S.Input → Handler S T.CrossAccountId
  | .call target input =>
    EvmSponsorshipHandler.getSponsor (T.fromEth origin) ⟨target, input, maxFee⟩
  | .create => fail .declined

/-- Wallets offer twice the price of the chain; a little more is accepted. -/
def acceptGasFee (baseFee gasFee : ℕ) : Bool := baseFee ≤ gasFee && gasFee ≤ baseFee * 21 / 10

/-- A price that is not accepted has no sponsor. -/
def EvmFee.getSponsor (fee : EvmFee S.Input) : Handler S T.CrossAccountId := do
  let (maxFeePerGas, maySponsor) ← match fee.maxFeePerGas, fee.isTransactional with
    | some maxFeePerGas, _ => pure (maxFeePerGas, acceptGasFee S.minGasPrice maxFeePerGas)
    | none, false => pure (0, true)
    | none, true => fail .declined
  ensure (maySponsor = true) .declined
  whoPaysFee fee.source (min (maxFeePerGas * fee.gasLimit) u256Max) fee.reason

/-! ## Burning an item -/

/-- The token itself is owned by the account. -/
def Nonfungible.checkTokenImmediateOwnership (handle : CollectionHandle T) (token : TokenId)
    (possibleOwner : T.CrossAccountId) : Exec T Unit := do
  let s ← read
  let data ← okOr (s.nonfungible.tokenData.get (handle.id, token)) CommonError.tokenNotFound
  ensure (data.owner = possibleOwner) CommonError.noPermission

/-- Burning none checks the owner only. -/
def Nonfungible.burnItem (handle : CollectionHandle T) (sender : T.CrossAccountId)
    (token : TokenId) (amount : ℕ) : Exec T Unit := do
  ensure (amount ≤ 1) DispatchError.nonfungibleItemsHaveNoAmount
  if amount = 1 then Nonfungible.burn handle sender token
  else Nonfungible.checkTokenImmediateOwnership handle token sender

/-- A fungible collection has only item 0. -/
def Fungible.burnItem (handle : CollectionHandle T) (sender : T.CrossAccountId)
    (token : TokenId) (amount : ℕ) : Exec T Unit := do
  ensure (token = 0) CommonError.fungibleItemsHaveNoId
  Fungible.burn handle sender amount

/-- The dispatch of a burn to the pallet of the collection. -/
def dispatchBurnItem (sender : T.CrossAccountId) (collectionId : CollectionId) (itemId : TokenId)
    (value : ℕ) : Exec T Unit := do
  let s ← read
  match CollectionDispatch.dispatch s collectionId with
  | some (.nonfungible handle) => do
    handle.checkIsInternal
    Nonfungible.burnItem handle sender itemId value
  | some (.fungible handle) => do
    handle.checkIsInternal
    Fungible.burnItem handle sender itemId value
  | some (.refungible handle) => do
    handle.checkIsInternal
    Refungible.burn handle sender itemId value
  | some .nativeFungible => fail CommonError.unsupportedOperation
  | none => fail CommonError.collectionNotFound

/-- The call `burn_item`.  The baskets of the item are emptied if its value is one,
whatever kind of collection it is in. -/
def burnItem (sender : T.CrossAccountId) (collectionId : CollectionId) (itemId : TokenId)
    (value : ℕ) : Exec T Unit := do
  dispatchBurnItem sender collectionId itemId value
  if value = 1 then
    update (·.mapUnique fun unique =>
      { unique with
        nftTransferBasket := unique.nftTransferBasket.erase (collectionId, itemId)
        nftApproveBasket := unique.nftApproveBasket.erase (collectionId, itemId) })
  else
    pure ()

/-! ## The sponsoring calls of the pallet `app-promotion` -/

/-- The errors of the calls below. -/
inductive SponsoringFailure where
  | chain (failure : Failure)
  | helpers (error : ContractHelpersError)
  | adminNotSet
  | noPermission
  | sponsorNotSet
  deriving DecidableEq

/-- An operation on the chain with its sponsors. -/
abbrev SponsoredExec (S : SponsorConfig T) (α : Type) :=
  Execution SponsoringFailure (SponsoredState S) α

/-- Run code of the pallets of collections. -/
def onPallets {α : Type} (body : Exec T α) : SponsoredExec S α :=
  ⟨fun x =>
    match body.run x.chain with
    | .ok value chain => .ok value { x with chain }
    | .error failure chain => .error (.chain failure) { x with chain }⟩

/-- Run code of the pallet of contracts. -/
def onHelpers {α : Type} (body : HelpersExec T α) : SponsoredExec S α :=
  ⟨fun x =>
    match body.run x.helpers with
    | .ok value helpers => .ok value { x with helpers }
    | .error error helpers => .error (.helpers error) { x with helpers }⟩

namespace AppPromotion

variable (adminId : T.AccountId)

/-- Refuses all but the admin of the promotion. -/
def ensureAdmin : SponsoredExec S Unit := do
  let x ← read
  let admin ← okOr x.admin .adminNotSet
  ensure (adminId = admin) .noPermission

/-- Makes the promotion the sponsor of a collection. -/
def sponsorCollection (collectionId : CollectionId) : SponsoredExec S Unit := do
  ensureAdmin adminId
  let handle ← onPallets (tryGet collectionId)
  onPallets (forceSetSponsor handle S.promotionAccount)

/-- Ends a sponsorship by the promotion. -/
def stopSponsoringCollection (collectionId : CollectionId) : SponsoredExec S Unit := do
  ensureAdmin adminId
  let handle ← onPallets (tryGet collectionId)
  let sponsor ← okOr handle.collection.sponsorship.sponsor .sponsorNotSet
  ensure (sponsor = S.promotionAccount) .noPermission
  onPallets (forceRemoveSponsor handle)

/-- Makes the promotion the sponsor of a contract. -/
def sponsorContract (contractId : H160) : SponsoredExec S Unit := do
  ensureAdmin adminId
  onHelpers (ContractHelpers.forceSetSponsor contractId (S.fromSub S.promotionAccount))

/-- Ends a sponsorship by the promotion. -/
def stopSponsoringContract (contractId : H160) : SponsoredExec S Unit := do
  ensureAdmin adminId
  let x ← read
  let sponsor ← okOr (ContractHelpers.getSponsor x.helpers contractId) .sponsorNotSet
  ensure (T.asSub sponsor = S.promotionAccount) .noPermission
  onHelpers (ContractHelpers.forceRemoveSponsor contractId)

end AppPromotion

/-! ## Steps -/

/-- What changes the state. -/
inductive SponsoredCall (S : SponsorConfig T) where
  | nextBlock
  | extrinsic (submitted : Extrinsic T)
  | burnItem (sender : T.AccountId) (collectionId : CollectionId) (itemId : TokenId) (value : ℕ)
      (budget : ℕ)
  /-- The fee of a call of the pallet `unique` is charged. -/
  | charge (who : T.AccountId) (call : UniqueCall T)
  | chargeEvm (fee : EvmFee S.Input)
  | helpers (call : ContractHelpers.Call)
  | setAdminAddress (admin : T.AccountId)
  | sponsorCollection (adminId : T.AccountId) (collectionId : CollectionId)
  | stopSponsoringCollection (adminId : T.AccountId) (collectionId : CollectionId)
  | sponsorContract (adminId : T.AccountId) (contractId : H160)
  | stopSponsoringContract (adminId : T.AccountId) (contractId : H160)

/-- Withdrawals are made when fees are charged, and in no other way. -/
def Call.isWithdrawal : Call T → Bool
  | .sponsor .. => true
  | _ => false

/-- The state after a successful call. -/
def committed {α : Type} (x : SponsoredState S) (body : SponsoredExec S α) :
    Option (SponsoredState S) :=
  match body.run x with
  | .ok _ x' => some x'
  | .error _ _ => none

/-- The state a handler leaves, whether it names a sponsor or not. -/
def charged {α : Type} (x : SponsoredState S) (handler : Handler S α) : Option (SponsoredState S) :=
  match handler.run x with
  | .ok _ x' => some x'
  | .error .declined x' => some x'
  | .error .panicked _ => none

/-- Block numbers have 32 bits. -/
def sponsoredStep (x : SponsoredState S) : SponsoredCall S → Option (SponsoredState S)
  | .nextBlock =>
    if x.blockNumber + 1 < 2 ^ 32 then some { x with blockNumber := x.blockNumber + 1 } else none
  | .extrinsic submitted =>
    if submitted.call.isWithdrawal then none
    else (step x.chain submitted).map fun chain => { x with chain }
  | .burnItem sender collectionId itemId value budget =>
    committed { x with chain := x.chain.setBudget budget }
      (onPallets (UniqueChain.burnItem (S.fromSub sender) collectionId itemId value))
  | .charge who call => charged x (UniqueSponsorshipHandler.getSponsor who call)
  | .chargeEvm fee => if fee.isCheck then some x else charged x fee.getSponsor
  | .helpers call => committed x (onHelpers call.execute)
  | .setAdminAddress admin => some { x with admin := some admin }
  | .sponsorCollection adminId collectionId =>
    committed x (AppPromotion.sponsorCollection adminId collectionId)
  | .stopSponsoringCollection adminId collectionId =>
    committed x (AppPromotion.stopSponsoringCollection adminId collectionId)
  | .sponsorContract adminId contractId =>
    committed x (AppPromotion.sponsorContract adminId contractId)
  | .stopSponsoringContract adminId contractId =>
    committed x (AppPromotion.stopSponsoringContract adminId contractId)

/-- No sponsors at genesis. -/
def sponsoredGenesis (balances : T.Balances) : SponsoredState S where
  chain := genesis balances
  helpers := .empty
  admin := none
  blockNumber := 0
  decisions := []
  contractDecisions := []

/-- A run from a genesis with the given balances. -/
def SponsoredReaches (balances : T.Balances)
    (history : List (CallRecord (SponsoredState S) (SponsoredCall S))) (x : SponsoredState S) :
    Prop :=
  Run sponsoredStep (sponsoredGenesis balances) history x

end UniqueChain
