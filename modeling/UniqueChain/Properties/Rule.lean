import UniqueChain.Nonfungible.Ledger
import UniqueChain.Properties.NewTokens
import UniqueChain.Refungible.Ledger

/-!
# The property writer follows the rule

`WriterFacts.apply` is the rule for updates of token properties: they are taken
from left to right on a copy of the stored properties, and each one is checked
against the facts.  The writer finds these facts out one at a time and only if it
needs them.  Here the two are compared for whole operations in reachable states:
the operation succeeds exactly if the rule gives properties, these are what is
stored after it, and a failing operation leaves storage alone.
-/

namespace UniqueChain

open Execution CollectionDispatch

variable {T : Config} {s s' : State T} {handle : CollectionHandle T} {token : TokenId}
  {sender : T.CrossAccountId} {updates : List PropertyUpdate} {collection : CollectionId}

/-- The mint of numbered items succeeds if it would do so without properties and
the rule gives properties to every item; these are then stored. -/
structure MintFollowsRule {ι : Type} (mint : List ι → Exec T Unit) (s : State T)
    (data : List ι) (withoutProperties : ι → ι) (rule : ι → Option TokenProperties)
    (firstToken : TokenId) (stored : State T → TokenId → TokenProperties) : Prop where
  succeeds_iff : (∃ s', (mint data).run s = .ok () s') ↔
    (∃ s', (mint (data.map withoutProperties)).run s = .ok () s') ∧
      ∀ item ∈ data, (rule item).isSome
  stored : ∀ s', (mint data).run s = .ok () s' →
    ∀ item ∈ data.zipIdx firstToken, rule item.1 = some (stored s' item.2)
  unchanged : ∀ error s', (mint data).run s = .error error s' → s'.storage = s.storage

theorem MintForm.followsRule {form : MintForm T} (hform : form.Lawful)
    (hnew : ∀ token, form.minted s handle.id + 1 ≤ token →
      (form.tokenProperties s).get (handle.id, token) = none)
    (data : List form.Item) :
    MintFollowsRule (form.create handle sender) s data form.withoutProperties
      (form.rule handle sender s) (form.minted s handle.id + 1)
      (fun s' token => (form.tokenProperties s').getD (handle.id, token) Properties.new) where
  succeeds_iff := create_succeeds_iff hform
  stored := fun _ hrun _ hitem =>
    storedProperties_of_create_ok hform hrun hitem (hnew _ (List.mem_zipIdx hitem).1)
  unchanged := preservesOnError_create s

/-- A token that is still to be minted has no properties. -/
theorem Nonfungible.Ledger.properties_eq_none (hledger : Ledger s.nonfungible) (token : TokenId)
    (hnew : s.nonfungible.tokensMinted.getD collection 0 + 1 ≤ token) :
    s.nonfungible.tokenProperties.get (collection, token) = none := by
  by_contra hget
  have hle := (hledger.numbered collection token (hledger.described _ hget)).2
  exact absurd (Nat.le_trans hnew hle) (Nat.not_succ_le_self _)

theorem Refungible.Ledger.properties_eq_none (hledger : Ledger s.refungible) (token : TokenId)
    (hnew : s.refungible.tokensMinted.getD collection 0 + 1 ≤ token) :
    s.refungible.tokenProperties.get (collection, token) = none := by
  by_contra hget
  have hle := (hledger.numbered collection token (hledger.described _ hget)).2
  exact absurd (Nat.le_trans hnew hle) (Nat.not_succ_le_self _)

/-- In every reachable state and with every budget, changing the properties of a
token and minting tokens with properties follow the rule, in both kinds of
collections.  For a token that is being minted, being its only receiver takes the
place of owning it. -/
theorem propertyWriter_followsRule (hreachable : Reachable s) (budget : ℕ)
    (handle : CollectionHandle T) (sender : T.CrossAccountId) :
    (dispatch s handle.id = some (.nonfungible handle) →
      (∀ token updates,
        FollowsRule (Nonfungible.modifyTokenProperties handle sender token updates)
          (s.setBudget budget)
          ((Nonfungible.tokenFacts handle sender token (s.setBudget budget)).apply updates
            (Nonfungible.storedProperties s (handle.id, token)))
          (Nonfungible.writtenProperties handle token updates (s.setBudget budget))) ∧
      ∀ data, MintFollowsRule (Nonfungible.createMultipleItems handle sender)
        (s.setBudget budget) data Nonfungible.CreateItemData.withoutProperties
        (Nonfungible.itemRule handle sender s)
        (s.nonfungible.tokensMinted.getD handle.id 0 + 1)
        (fun s' token => Nonfungible.storedProperties s' (handle.id, token))) ∧
    (dispatch s handle.id = some (.refungible handle) →
      (∀ token updates,
        FollowsRule (Refungible.modifyTokenProperties handle sender token updates)
          (s.setBudget budget)
          ((Refungible.tokenFacts handle sender token (s.setBudget budget)).apply updates
            (Refungible.storedProperties s (handle.id, token)))
          (Refungible.writtenProperties handle token updates (s.setBudget budget))) ∧
      ∀ data, MintFollowsRule (Refungible.createMultipleItems handle sender)
        (s.setBudget budget) data Refungible.CreateItemData.withoutProperties
        (Refungible.itemRule handle sender s)
        (s.refungible.tokensMinted.getD handle.id 0 + 1)
        (fun s' token => Refungible.storedProperties s' (handle.id, token))) := by
  have hnonfungible := Nonfungible.ledger_of_reachable hreachable
  have hrefungible := Refungible.ledger_of_reachable hreachable
  refine ⟨fun hfound => ⟨fun token updates => ?_, fun data => ?_⟩,
    fun hfound => ⟨fun token updates => ?_, fun data => ?_⟩⟩
  · exact Nonfungible.modifyTokenProperties_followsRule hfound
  · rw [funext Nonfungible.createMultipleItems_eq]
    exact MintForm.followsRule (s := s.setBudget budget) Nonfungible.mintForm_lawful
      hnonfungible.properties_eq_none data
  · exact Refungible.modifyTokenProperties_followsRule hrefungible.held hfound
  · rw [funext Refungible.createMultipleItems_eq]
    exact MintForm.followsRule (s := s.setBudget budget) Refungible.mintForm_lawful
      hrefungible.properties_eq_none data

namespace PropertyExample

def key : PropertyKey := ⟨[0x61], by decide⟩

/-- An NFT collection and a refungible one, both with a property that owners may
change, and a token of the first. -/
def calls : List (Extrinsic reference) :=
  [reference.create .nft, reference.create .reFungible,
    ⟨.settings 1 (.setTokenPropertyPermissions .alice [⟨key, ⟨true, false, true⟩⟩]), 5⟩,
    ⟨.settings 2 (.setTokenPropertyPermissions .alice [⟨key, ⟨true, false, true⟩⟩]), 5⟩,
    ⟨.nonfungible 1 (.createMultipleItems .alice [⟨.alice, [⟨key, [1]⟩]⟩]), 5⟩]

def state : State reference := reference.stateOf calls rfl

/-- The same key twice in one list. -/
def exampleUpdates : List PropertyUpdate := [(key, none), (key, some [2])]

def exampleItems : List (Refungible.CreateItemData reference) :=
  [⟨⟨[(.alice, 3), (.bob, 0)], by decide⟩, [⟨key, [7]⟩]⟩]

end PropertyExample

open PropertyExample in
theorem propertyWriter_followsRule_example :
    (∃ s', (Nonfungible.modifyTokenProperties (reference.handleOf state 1 rfl)
        ReferenceAccount.alice 1 exampleUpdates).run (state.setBudget 5) = .ok () s') ∧
      ∃ s', (Refungible.createMultipleItems (reference.handleOf state 2 rfl)
        ReferenceAccount.alice exampleItems).run (state.setBudget 5) = .ok () s' := by
  have hreachable : Reachable state := reference.reachable_stateOf calls rfl
  have hfirst := (propertyWriter_followsRule hreachable 5 (reference.handleOf state 1 rfl)
    ReferenceAccount.alice).1 rfl
  have hsecond := (propertyWriter_followsRule hreachable 5 (reference.handleOf state 2 rfl)
    ReferenceAccount.alice).2 rfl
  obtain ⟨s', hrun, _⟩ := (hfirst.1 1 exampleUpdates).complete _ rfl
  exact ⟨⟨s', hrun⟩, (hsecond.2 exampleItems).succeeds_iff.mpr ⟨⟨_, rfl⟩, by decide⟩⟩

end UniqueChain
