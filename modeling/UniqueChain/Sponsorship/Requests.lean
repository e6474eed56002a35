import UniqueChain.Model.Sponsorship

/-!
# What a call asks of the sponsor of a collection

Whatever the interface, a call whose fee may be sponsored asks the sponsor of one
collection for one withdrawal, or for two if it mints an NFT across accounts.  Which ones
they are (`Inquiry`) is decided by the call and the settings of the collection, before
anything is written.  The handlers do nothing but perform this request
(`UniqueSponsorshipHandler.run_getSponsor`, `UniqueEthSponsorshipHandler.run_getSponsor`).
-/

namespace UniqueChain

open Execution

variable {T : Config} {S : SponsorConfig T}

/-! ## Requests -/

/-- The withdrawals that are made for one call, and the account on whose behalf. -/
inductive Request (T : Config) where
  | single (who : T.CrossAccountId) (withdrawal : Withdrawal T)
  | mintCross (who : T.CrossAccountId) (dataSize : ℕ)

/-- The withdrawals of a request. -/
def Request.perform (handle : CollectionHandle T) : Request T → Handler S Unit
  | .single _ withdrawal => withdraw handle withdrawal
  | .mintCross who dataSize => do
    withdraw handle (.createItem who (.nft []))
    let x ← read
    let tokenId ← okOr (Nonfungible.nextTokenId x.chain handle).toOption .declined
    withdraw handle (.setTokenProperty tokenId dataSize)

namespace Request

variable (who : T.CrossAccountId)

def property (item : TokenId) (dataSize : ℕ) : Request T :=
  .single who (.setExistingTokenProperty who item dataSize)

def transfer (item : TokenId) : Request T := .single who (.transfer who item)

def approve (item : TokenId) : Request T := .single who (.approve (T.asSub who) item)

def create (data : CreateItemData) : Request T := .single who (.createItem who data)

end Request

/-- A request about the token with a number of 256 bits. -/
def onToken (number : ℕ) (request : TokenId → Request T) : Option (Request T) :=
  if number ≤ u32Max then some (request number) else none

namespace UniqueNFTCall

def request (who : T.CrossAccountId) : UniqueNFTCall → Option (Request T)
  | .setProperty tokenId key value =>
    onToken tokenId fun token => .property who token (key.length + value.length)
  | .setProperties tokenId properties =>
    onToken tokenId fun token => .property who token (properties.map EthProperty.size).sum
  | .transfer tokenId => onToken tokenId fun token => .transfer who token
  | .mintCross properties => some (.mintCross who (properties.map EthProperty.size).sum)
  | .mint | .mintCheckId | .mintWithTokenUri _ | .mintWithTokenUriCheckId _ =>
    some (.create who (.nft []))
  | .transferFrom from' tokenId => onToken tokenId fun token => .transfer (T.fromEth from') token
  | .approve tokenId => onToken tokenId fun token => .approve who token
  | .other => none

end UniqueNFTCall

def UniqueFungibleCall.request (who : T.CrossAccountId) : UniqueFungibleCall → Option (Request T)
  | .transfer => some (.transfer who 0)
  | .transferFrom from' => some (.transfer (T.fromEth from') 0)
  | .approve => some (.approve who 0)
  | .other => none

def UniqueRefungibleCall.request (who : T.CrossAccountId) :
    UniqueRefungibleCall → Option (Request T)
  | .setProperty tokenId key value =>
    onToken tokenId fun token => .property who token (key.length + value.length)
  | .transferFrom from' tokenId => onToken tokenId fun token => .transfer (T.fromEth from') token
  | .transferCross tokenId | .transferFromCross tokenId | .transfer tokenId =>
    onToken tokenId fun token => .transfer who token
  | .mintCross _ | .mint | .mintCheckId | .mintWithTokenUri _ | .mintWithTokenUriCheckId _ =>
    some (.create who (.nft []))
  | .other => none

def UniqueRefungibleTokenCall.request (who : T.CrossAccountId) (tokenId : TokenId) :
    UniqueRefungibleTokenCall → Option (Request T)
  | .transfer | .transferCross | .transferFromCross => some (.transfer who tokenId)
  | .transferFrom from' => some (.transfer (T.fromEth from') tokenId)
  | .approve | .approveCross => some (.approve who tokenId)
  | .other => none

/-- The collection that a call of the pallet `unique` is for, and its request. -/
def UniqueCall.request (S : SponsorConfig T) (who : T.AccountId) :
    UniqueCall T → Option (CollectionId × Request T)
  | .setTokenProperties collectionId tokenId properties =>
    some (collectionId,
      .property (S.fromSub who) tokenId (properties.map Property.size).sum)
  | .createItem collectionId data => some (collectionId, .create (S.fromSub who) data)
  | .transfer collectionId itemId => some (collectionId, .transfer (S.fromSub who) itemId)
  | .transferFrom from' collectionId itemId => some (collectionId, .transfer from' itemId)
  | .approve collectionId itemId =>
    some (collectionId, .single (S.fromSub who) (.approve who itemId))
  | _ => none

/-! ## The data of a call -/

def CreateItemData.dataSize : CreateItemData → ℕ
  | .nft properties => (properties.map Property.size).sum
  | .fungible _ => 0
  | .reFungible _ properties => (properties.map Property.size).sum

/-- The property that keeps the address of a token. -/
def tokenUriProperty (tokenUri : List UInt8) : EthProperty := ⟨"URI".toUTF8.toList, tokenUri⟩

/-- The keys and values of properties in a call. -/
def UniqueCall.dataSize : UniqueCall T → ℕ
  | .setTokenProperties _ _ properties => (properties.map Property.size).sum
  | .createItem _ data => data.dataSize
  | _ => 0

def UniqueNFTCall.dataSize : UniqueNFTCall → ℕ
  | .setProperty _ key value => key.length + value.length
  | .setProperties _ properties => (properties.map EthProperty.size).sum
  | .mintCross properties => (properties.map EthProperty.size).sum
  | .mintWithTokenUri tokenUri | .mintWithTokenUriCheckId tokenUri =>
    (tokenUriProperty tokenUri).size
  | _ => 0

def UniqueRefungibleCall.dataSize : UniqueRefungibleCall → ℕ
  | .setProperty _ key value => key.length + value.length
  | .mintCross properties => (properties.map EthProperty.size).sum
  | .mintWithTokenUri tokenUri | .mintWithTokenUriCheckId tokenUri =>
    (tokenUriProperty tokenUri).size
  | _ => 0

/-! ## Handlers -/

/-- A sponsor is asked to pay for a call of a collection. -/
structure Inquiry (T : Config) where
  sponsor : T.AccountId
  handle : CollectionHandle T
  request : Request T
  dataSize : ℕ

/-- A call whose fee is to be charged. -/
inductive FeeCall (S : SponsorConfig T) where
  | unique (who : T.AccountId) (call : UniqueCall T)
  | evm (who : T.CrossAccountId) (callContext : CallContext S.Input)

namespace FeeCall

/-- What is asked for a call of a collection, as its mode has it parsed. -/
def collectionRequest (mode : CollectionMode) (who : T.CrossAccountId) (input : S.Input) :
    Option (Request T × ℕ) :=
  match mode with
  | .nft => do
    let call ← S.parseNFT input
    let request ← call.request who
    some (request, call.dataSize)
  | .reFungible => do
    let call ← S.parseRefungible input
    let request ← call.request who
    some (request, call.dataSize)
  | .fungible _ => do
    let call ← S.parseFungible input
    let request ← call.request who
    some (request, 0)

def inquiry (s : State T) : FeeCall S → Option (Inquiry T)
  | .unique who call => do
    let (collectionId, request) ← call.request S who
    let (sponsor, handle) ← load s collectionId
    some ⟨sponsor, handle, request, call.dataSize⟩
  | .evm who callContext =>
    match mapEthToId callContext.contractAddress with
    | some collectionId => do
      let (sponsor, handle) ← load s collectionId
      let (request, dataSize) ←
        collectionRequest handle.collection.mode who callContext.input
      some ⟨sponsor, handle, request, dataSize⟩
    | none => do
      let (collectionId, tokenId) ← evmAddressToToken callContext.contractAddress
      let (sponsor, handle) ← load s collectionId
      if handle.collection.mode = .reFungible then
        let call ← S.parseRefungibleToken callContext.input
        let request ← call.request who tokenId
        some ⟨sponsor, handle, request, 0⟩
      else none

end FeeCall

theorem load_eq_some {s : State T} {id : CollectionId} {handle : CollectionHandle T}
    {sponsor : T.AccountId} (hload : load s id = some (sponsor, handle)) :
    handle.id = id ∧ s.common.collectionById.get handle.id = some handle.collection ∧
      handle.collection.sponsorship.sponsor = some sponsor := by
  simp only [load, Option.bind_eq_bind, Option.bind_eq_some_iff, Option.some.injEq,
    Prod.mk.injEq] at hload
  obtain ⟨collection, hstored, _, hsponsor, rfl, rfl⟩ := hload
  exact ⟨rfl, hstored, hsponsor⟩

/-- The sponsor of a stored collection is asked. -/
theorem FeeCall.inquiry_stored {call : FeeCall S} {s : State T} {asked : Inquiry T}
    (hasked : call.inquiry s = some asked) :
    s.common.collectionById.get asked.handle.id = some asked.handle.collection ∧
      asked.handle.collection.sponsorship.sponsor = some asked.sponsor := by
  cases call with
  | unique who call =>
    simp only [inquiry, Option.bind_eq_bind, Option.bind_eq_some_iff, Option.some.injEq] at hasked
    obtain ⟨_, _, _, hload, rfl⟩ := hasked
    exact (load_eq_some hload).2
  | evm who callContext =>
    rw [inquiry] at hasked
    split at hasked
    · simp only [Option.bind_eq_bind, Option.bind_eq_some_iff, Option.some.injEq] at hasked
      obtain ⟨_, hload, _, _, rfl⟩ := hasked
      exact (load_eq_some hload).2
    · simp only [Option.bind_eq_bind, Option.bind_eq_some_iff, Option.ite_none_right_eq_some,
        Option.some.injEq] at hasked
      obtain ⟨_, _, _, hload, _, _, _, _, _, rfl⟩ := hasked
      exact (load_eq_some hload).2

/-- A handler that makes the withdrawals and names the sponsor. -/
def Inquiry.perform {α : Type} (name : T.AccountId → α) (inquiry : Option (Inquiry T)) :
    Handler S α := do
  let asked ← okOr inquiry .declined
  asked.request.perform asked.handle
  pure (name asked.sponsor)

theorem UniqueSponsorshipHandler.run_getSponsor (who : T.AccountId) (call : UniqueCall T)
    (x : SponsoredState S) :
    (getSponsor who call).run x =
      (Inquiry.perform id ((FeeCall.unique (S := S) who call).inquiry x.chain)).run x := by
  have hload : ∀ (collectionId : CollectionId) (who : T.CrossAccountId)
      (withdrawal : Withdrawal T) (dataSize : ℕ),
      (withdrawFrom collectionId withdrawal : Handler S T.AccountId).run x =
        (Inquiry.perform id ((load x.chain collectionId).bind fun loaded =>
          some ⟨loaded.1, loaded.2, .single who withdrawal, dataSize⟩) :
            Handler S T.AccountId).run x := by
    intro collectionId who withdrawal dataSize
    change (okOr (load x.chain collectionId) Refusal.declined >>= _ :
      Handler S T.AccountId).run x = _
    cases load x.chain collectionId <;> rfl
  cases call with
  | setTokenProperties collectionId tokenId properties => exact hload _ _ _ _
  | createItem collectionId data => exact hload _ _ _ _
  | transfer collectionId itemId => exact hload _ _ _ _
  | transferFrom from' collectionId itemId => exact hload _ _ _ _
  | approve collectionId itemId => exact hload _ _ _ _
  | _ => rfl

namespace UniqueEthSponsorshipHandler

variable {handle : CollectionHandle T} {who : T.CrossAccountId}

theorem toTokenId_bind {number : ℕ} {account : T.CrossAccountId}
    {withdrawal : TokenId → Withdrawal T} :
    (toTokenId number >>= fun token => withdraw handle (withdrawal token) : Handler S Unit) =
      okOr (onToken number fun token => .single account (withdrawal token)) .declined >>=
        Request.perform handle := by
  unfold toTokenId onToken
  split <;> rfl

theorem nonfungibleCallSponsor_eq (call : UniqueNFTCall) :
    (nonfungibleCallSponsor handle who call : Handler S Unit) =
      okOr (call.request who) .declined >>= Request.perform handle := by
  cases call with
  | setProperty => exact toTokenId_bind
  | setProperties => exact toTokenId_bind
  | transfer => exact toTokenId_bind
  | transferFrom => exact toTokenId_bind
  | approve => exact toTokenId_bind
  | _ => rfl

theorem fungibleCallSponsor_eq (call : UniqueFungibleCall) :
    (fungibleCallSponsor handle who call : Handler S Unit) =
      okOr (call.request who) .declined >>= Request.perform handle := by
  cases call <;> rfl

theorem refungibleCallSponsor_eq (call : UniqueRefungibleCall) :
    (refungibleCallSponsor handle who call : Handler S Unit) =
      okOr (call.request who) .declined >>= Request.perform handle := by
  cases call with
  | setProperty => exact toTokenId_bind
  | transferFrom => exact toTokenId_bind
  | transferCross => exact toTokenId_bind
  | transferFromCross => exact toTokenId_bind
  | transfer => exact toTokenId_bind
  | _ => rfl

theorem refungibleTokenCallSponsor_eq (tokenId : TokenId) (call : UniqueRefungibleTokenCall) :
    (refungibleTokenCallSponsor handle who tokenId call : Handler S Unit) =
      okOr (call.request who tokenId) .declined >>= Request.perform handle := by
  cases call <;> rfl

theorem callSponsor_eq (input : S.Input) :
    callSponsor handle who input =
      okOr (FeeCall.collectionRequest handle.collection.mode who input) .declined >>=
        fun asked => asked.1.perform handle := by
  have hparsed : ∀ {Call : Type} (parsed : Option Call) (request : Call → Option (Request T))
      (dataSize : Call → ℕ) (sponsor : Call → Handler S Unit),
      (∀ call, sponsor call = okOr (request call) .declined >>= Request.perform handle) →
      (okOr parsed Refusal.declined >>= sponsor) =
        okOr (parsed.bind fun call => (request call).bind fun asked =>
          some (asked, dataSize call)) Refusal.declined >>=
            fun asked => asked.1.perform handle := by
    intro Call parsed request dataSize sponsor hsponsor
    cases parsed with
    | none => rfl
    | some call =>
      change sponsor call = okOr ((request call).bind _) _ >>= _
      rw [hsponsor]
      cases request call <;> rfl
  unfold callSponsor FeeCall.collectionRequest
  cases handle.collection.mode with
  | nft => exact hparsed _ _ _ _ nonfungibleCallSponsor_eq
  | reFungible => exact hparsed _ _ _ _ refungibleCallSponsor_eq
  | fungible decimals => exact hparsed _ _ (fun _ => 0) _ fungibleCallSponsor_eq

theorem run_getSponsor (callContext : CallContext S.Input) (x : SponsoredState S) :
    (getSponsor who callContext).run x =
      (Inquiry.perform S.fromSub ((FeeCall.evm who callContext).inquiry x.chain)).run x := by
  rw [getSponsor, FeeCall.inquiry]
  cases mapEthToId callContext.contractAddress with
  | some collectionId =>
    change (okOr (load x.chain collectionId) Refusal.declined >>= _ :
      Handler S T.CrossAccountId).run x = (Inquiry.perform S.fromSub
        ((load x.chain collectionId).bind _)).run x
    cases load x.chain collectionId with
    | none => rfl
    | some loaded =>
      change (callSponsor loaded.2 who callContext.input >>= fun _ =>
        pure (S.fromSub loaded.1) : Handler S T.CrossAccountId).run x =
          (Inquiry.perform S.fromSub ((FeeCall.collectionRequest
            loaded.2.collection.mode who callContext.input).bind _)).run x
      rw [callSponsor_eq]
      cases FeeCall.collectionRequest loaded.2.collection.mode who callContext.input <;> rfl
  | none =>
    cases evmAddressToToken callContext.contractAddress with
    | none => rfl
    | some token =>
      change (okOr (x.chain.common.collectionById.get token.1) Refusal.declined >>= _ :
        Handler S T.CrossAccountId).run x = (Inquiry.perform S.fromSub
          (((x.chain.common.collectionById.get token.1).bind _).bind _)).run x
      cases x.chain.common.collectionById.get token.1 with
      | none => rfl
      | some collection =>
        change (ensure (collection.mode = .reFungible) Refusal.declined >>= fun _ =>
          okOr collection.sponsorship.sponsor Refusal.declined >>= _ :
            Handler S T.CrossAccountId).run x = (Inquiry.perform S.fromSub
              ((collection.sponsorship.sponsor.bind _).bind _)).run x
        by_cases hmode : collection.mode = .reFungible
        · cases collection.sponsorship.sponsor with
          | none =>
            rw [ensure, if_pos hmode]
            rfl
          | some sponsor =>
            change _ = (Inquiry.perform S.fromSub (if collection.mode = .reFungible then
              (S.parseRefungibleToken callContext.input).bind fun call =>
                (call.request who token.2).bind _ else none)).run x
            rw [ensure, if_pos hmode, if_pos hmode]
            cases S.parseRefungibleToken callContext.input with
            | none => rfl
            | some call =>
              change (refungibleTokenCallSponsor ⟨token.1, collection⟩ who token.2
                call >>= fun _ => pure (S.fromSub sponsor) : Handler S T.CrossAccountId).run x =
                  (Inquiry.perform S.fromSub ((call.request who token.2).bind _)).run x
              rw [refungibleTokenCallSponsor_eq]
              cases call.request who token.2 <;> rfl
        · rw [ensure, if_neg hmode]
          cases collection.sponsorship.sponsor with
          | none => rfl
          | some sponsor =>
            change _ = (Inquiry.perform S.fromSub (if collection.mode = .reFungible then
              _ else none)).run x
            rw [if_neg hmode]
            rfl

end UniqueEthSponsorshipHandler

end UniqueChain
