import UniqueChain.Model.Runtime

/-!
# A reference configuration

An instance of the configuration in which everything can be computed: accounts
are Substrate keys or Ethereum addresses, and the native currency is a function
from accounts to amounts.  A Substrate key is shorter than an Ethereum address,
so the address it is truncated to is never that of a token.
-/

namespace UniqueChain

/-- An account of either side. -/
inductive ReferenceAccount where
  | substrate (key : BitVec 64)
  | ethereum (address : H160)
  deriving DecidableEq

namespace ReferenceAccount

/-- The Ethereum address of an account. -/
def asEth : ReferenceAccount → H160
  | substrate key => key.setWidth 160
  | ethereum address => address

/-- A Substrate account. -/
def alice : ReferenceAccount := substrate 1

/-- Another one. -/
def bob : ReferenceAccount := substrate 2

/-- A third one. -/
def carol : ReferenceAccount := substrate 3

/-- The balances after a transfer, if the source can pay it. -/
def transferBalance (balances : ReferenceAccount → ℕ) (source target : ReferenceAccount)
    (amount : ℕ) : Option (ReferenceAccount → ℕ) :=
  if amount ≤ balances source then
    let debited := Function.update balances source (balances source - amount)
    some (Function.update debited target (debited target + amount))
  else
    none

end ReferenceAccount

/-- The account an Ethereum address stands for on the Substrate side is its own;
creating a collection costs nothing. -/
def reference : Config where
  AccountId := ReferenceAccount
  CrossAccountId := ReferenceAccount
  asSub := id
  asEth := ReferenceAccount.asEth
  fromEth := .ethereum
  convEq first second := first.asEth == second.asEth
  contractAddress := 0
  Balances := ReferenceAccount → ℕ
  balance balances account := balances account
  transferBalance := ReferenceAccount.transferBalance
  payCollectionCreation balances _ := some balances

namespace reference

/-- Nobody owns native currency. -/
def noBalances : reference.Balances := fun _ => 0

variable (calls : List (Extrinsic reference))

/-- The run of the given calls from a genesis without balances. -/
def history? : Option (History reference × State reference) :=
  replay step [] (genesis noBalances) calls

variable (h : (history? calls).isSome)

/-- The history of a run that succeeds. -/
abbrev historyOf : History reference := replayHistory step (genesis noBalances) calls h

/-- The last state of a run that succeeds. -/
abbrev stateOf : State reference := replayState step (genesis noBalances) calls h

theorem reachable_stateOf : Reachable (stateOf calls h) :=
  ⟨noBalances, _, run_replay step (genesis noBalances) calls h⟩

/-- The handle of a collection that exists. -/
def handleOf (s : State reference) (id : CollectionId)
    (h : (s.common.collectionById.get id).isSome) : CollectionHandle reference :=
  ⟨id, (s.common.collectionById.get id).get h⟩

/-- The creation of a collection by its owner, with default settings. -/
def create (mode : CollectionMode) : Extrinsic reference :=
  ⟨.createCollection ReferenceAccount.alice (.user ReferenceAccount.alice) { mode }, 5⟩

/-- The same for an NFT collection that lets token owners nest under its tokens. -/
def createNesting : Extrinsic reference :=
  ⟨.createCollection ReferenceAccount.alice (.user ReferenceAccount.alice)
    { mode := .nft, permissions := some { nesting? := some { tokenOwner := true } } }, 5⟩

end reference

end UniqueChain
