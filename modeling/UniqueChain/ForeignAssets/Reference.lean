import UniqueChain.Model.ForeignAssets
import UniqueChain.Model.Reference

/-!
# A reference configuration with foreign assets

The reference configuration as a parachain.  A location of one opaque junction
belongs to the Substrate account with that key, and there is one version of XCM.
-/

namespace UniqueChain.reference

/-- The account of the pallet. -/
def palletAccount : ReferenceAccount := .substrate 1000

/-- The parachain with its currency. -/
def parachain : XcmConfig reference where
  palletAccount := palletAccount
  selfLocation := ⟨1, [.parachain 2037]⟩
  locationToAccountId
    | ⟨0, [.other code]⟩ => some (.substrate (BitVec.ofNat 64 code))
    | _ => none
  VersionedAssetId := AssetId
  toAssetId := some
  mintInto balances account amount :=
    some (Function.update balances account (balances account + amount))
  burnFrom balances account amount :=
    if amount ≤ balances account then
      some (Function.update balances account (balances account - amount))
    else
      none

/-- The location of an account. -/
def atAlice : Location := ⟨0, [.other 1]⟩

/-- That of another account. -/
def atBob : Location := ⟨0, [.other 2]⟩

/-- The asset of another parachain. -/
def statemint : AssetId := ⟨1, [.parachain 1000]⟩

/-- That of a third one. -/
def moonbeam : AssetId := ⟨1, [.parachain 2004]⟩

variable (calls : List (XcmCall parachain))

/-- The run of calls that all succeed, from a genesis without balances. -/
def xcmHistory? :
    Option (List (CallRecord (XcmState parachain) (XcmCall parachain)) × XcmState parachain) :=
  replay xcmStep [] (xcmGenesis noBalances) calls

variable (h : (xcmHistory? calls).isSome)

/-- The history of such a run. -/
abbrev xcmHistoryOf : List (CallRecord (XcmState parachain) (XcmCall parachain)) :=
  replayHistory xcmStep (xcmGenesis noBalances) calls h

/-- The last state of such a run. -/
abbrev xcmStateOf : XcmState parachain := replayState xcmStep (xcmGenesis noBalances) calls h

end UniqueChain.reference
