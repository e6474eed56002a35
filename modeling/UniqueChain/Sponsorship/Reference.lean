import UniqueChain.Model.Reference
import UniqueChain.Sponsorship.Steps

/-!
# A reference configuration for sponsors

The reference accounts, with calls of the EVM that are given as they are parsed.
-/

namespace UniqueChain

namespace reference

/-- The input of a call, as each kind of contract would parse it. -/
inductive Input where
  | nft (call : UniqueNFTCall)
  | fungible (call : UniqueFungibleCall)
  | refungible (call : UniqueRefungibleCall)
  | refungibleToken (call : UniqueRefungibleTokenCall)

/-- A unit of gas costs one. -/
def sponsors : SponsorConfig reference where
  fromSub := id
  promotionAccount := ReferenceAccount.substrate 2000
  defaultSponsoringRateLimit := 7200
  minGasPrice := 1
  Input := Input
  parseNFT
    | .nft call => some call
    | _ => none
  parseFungible
    | .fungible call => some call
    | _ => none
  parseRefungible
    | .refungible call => some call
    | _ => none
  parseRefungibleToken
    | .refungibleToken call => some call
    | _ => none

variable (calls : List (SponsoredCall sponsors))

/-- The run of the given calls from a genesis without balances. -/
def sponsoredHistory? :
    Option (List (CallRecord (SponsoredState sponsors) (SponsoredCall sponsors)) ×
      SponsoredState sponsors) :=
  replay sponsoredStep [] (sponsoredGenesis noBalances) calls

/-- The history of a run that succeeds. -/
abbrev sponsoredHistoryOf (hcalls : (sponsoredHistory? calls).isSome) :
    List (CallRecord (SponsoredState sponsors) (SponsoredCall sponsors)) :=
  replayHistory sponsoredStep (sponsoredGenesis noBalances) calls hcalls

/-- The last state of a run that succeeds. -/
abbrev sponsoredStateOf (hcalls : (sponsoredHistory? calls).isSome) : SponsoredState sponsors :=
  replayState sponsoredStep (sponsoredGenesis noBalances) calls hcalls

end reference

end UniqueChain
