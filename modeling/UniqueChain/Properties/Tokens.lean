import UniqueChain.Model.Runtime
import UniqueChain.Nonfungible.Effects
import UniqueChain.Refungible.Minting

/-!
# Token properties of the two pallets

The property writer of NFTs and of refungible tokens, run on the storage of its
pallet, follows the eager rule.  What is particular to a pallet is how it tells
that a token exists and who owns it: a passed owner check implies that the token
exists, for an NFT in every state, and for a refungible token in every state
whose ledger is consistent.
-/

namespace UniqueChain

open Execution CollectionDispatch

variable {T : Config} {s s' : State T} {handle : CollectionHandle T} {sender : T.CrossAccountId}
  {token : TokenId} {updates : List PropertyUpdate} {collection : CollectionId}

/-- A check of indirect ownership that answers yes has found the way up. -/
theorem findParent_ne_tokenNotFound_of_answersYes {tokenKey : Token}
    (hyes : answersYes (checkIndirectlyOwned sender tokenKey none) s = true) :
    findParent s tokenKey ≠ .tokenNotFound := by
  unfold answersYes at hyes
  cases hrun : (checkIndirectlyOwned sender tokenKey none).run s with
  | error error reached => simp [hrun] at hyes
  | ok owned reached =>
    rw [hrun] at hyes
    obtain ⟨_, _, _, hpath, _⟩ := (checkIndirectlyOwned_ok hrun).2 hyes
    exact hpath.findParent_ne_tokenNotFound

namespace Nonfungible

/-- The facts that decide about updates of an NFT. -/
def tokenFacts (handle : CollectionHandle T) (sender : T.CrossAccountId) (token : TokenId)
    (s : State T) : WriterFacts :=
  existingTokenFacts handle sender s (tokenExists s (handle.id, token))
    (answersYes (checkTokenIndirectOwner handle sender token) s)

/-- The properties of an NFT. -/
def storedProperties (s : State T) (token : Token) : TokenProperties :=
  (s.nonfungible.tokenProperties.get token).getD Properties.new

theorem tokenExists_of_answersYes (hfound : dispatch s handle.id = some (.nonfungible handle))
    (hyes : answersYes (checkTokenIndirectOwner handle sender token) s = true) :
    tokenExists s (handle.id, token) = true := by
  have hparent := findParent_ne_tokenNotFound_of_answersYes hyes
  rw [findParent_nonfungible hfound] at hparent
  unfold tokenExists FiniteMap.contains
  cases hitem : s.nonfungible.tokenData.get (handle.id, token) with
  | none => simp [hitem] at hparent
  | some item => rfl

/-- The properties are written back unless there is no update. -/
def writtenProperties (handle : CollectionHandle T) (token : TokenId)
    (updates : List PropertyUpdate) (s : State T) (final : TokenProperties) : State T :=
  if updates = [] then s else setTokenPropertiesRaw (handle.id, token) final s

theorem modifyTokenProperties_followsRule
    (hfound : dispatch s handle.id = some (.nonfungible handle)) :
    FollowsRule (modifyTokenProperties handle sender token updates) s
      ((tokenFacts handle sender token s).apply updates (storedProperties s (handle.id, token)))
      (writtenProperties handle token updates s) :=
  ExistingToken.followsRule
    { keeps := preserves_checkTokenIndirectOwner
      commutes := commutes_checkIndirectlyOwned
      exists_congr := fun s' hstorage => by
        simp only [tokenExists, (State.storage_eq_iff.mp hstorage).2.1]
      stored_congr := fun s' hstorage => by
        simp only [(State.storage_eq_iff.mp hstorage).2.1]
      set_congr := fun final s' hstorage => State.storage_mapNonfungible_congr hstorage
      inferred := tokenExists_of_answersYes hfound }

end Nonfungible

/-- An accepted list of updates is empty, or the token exists. -/
theorem WriterFacts.tokenExists_of_apply {facts : WriterFacts} {copy final : TokenProperties}
    (hupdates : updates ≠ []) (happly : facts.apply updates copy = some final) :
    facts.tokenExists = true := by
  cases updates with
  | nil => exact absurd rfl hupdates
  | cons update rest =>
    unfold WriterFacts.apply at happly
    cases haccepts : facts.accepts copy update with
    | false => simp [haccepts] at happly
    | true =>
      simp only [WriterFacts.accepts, Bool.and_eq_true] at haccepts
      exact haccepts.1.1

namespace Refungible

/-- The facts that decide about updates of a refungible token. -/
def tokenFacts (handle : CollectionHandle T) (sender : T.CrossAccountId) (token : TokenId)
    (s : State T) : WriterFacts :=
  existingTokenFacts handle sender s (tokenExists s (handle.id, token))
    (answersYes (checkTokenIndirectOwner handle sender token) s)

/-- The properties of a refungible token. -/
def storedProperties (s : State T) (token : Token) : TokenProperties :=
  (s.refungible.tokenProperties.get token).getD Properties.new

theorem commutes_checkTokenIndirectOwner (events : List (Event T)) (logs : List Log) :
    Commutes (State.withRecords events logs) (checkTokenIndirectOwner handle sender token) :=
  .read_bind (fun _ => rfl) fun _ => .ite .pure (commutes_checkIndirectlyOwned events logs)

/-- Where pieces are held of existing tokens only, a passed owner check implies
that the token exists. -/
theorem tokenExists_of_answersYes (hfound : dispatch s handle.id = some (.refungible handle))
    (hheld : ∀ key, s.refungible.balance.get key ≠ none →
      s.refungible.totalSupply.get key.1 ≠ none)
    (hyes : answersYes (checkTokenIndirectOwner handle sender token) s = true) :
    tokenExists s (handle.id, token) = true := by
  have hinner : answersYes (checkIndirectlyOwned sender (handle.id, token) none) s = true := by
    unfold answersYes checkTokenIndirectOwner at hyes
    rw [run_bind_of_ok rfl] at hyes
    split at hyes
    · rename_i answer reached hrun
      rcases ite_ok.mp hrun with ⟨_, hrun⟩ | ⟨_, hrun⟩
      · rw [← (pure_ok.mp hrun).1] at hyes
        exact Bool.noConfusion hyes
      · unfold answersYes
        rw [hrun]
        exact hyes
    · exact Bool.noConfusion hyes
  have hparent := findParent_ne_tokenNotFound_of_answersYes hinner
  rw [findParent_refungible hfound] at hparent
  have hany : s.refungible.balance.anyKey (fun key => key.1 = (handle.id, token)) = true := by
    unfold tokenOwner at hparent
    cases hsole : s.refungible.balance.soleKey (fun key => key.1 = (handle.id, token)) with
    | some key =>
      obtain ⟨hget, hkey, _⟩ := FiniteMap.soleKey_eq_some_iff.mp hsole
      obtain ⟨value, hvalue⟩ := Option.isSome_iff_exists.mp hget
      exact FiniteMap.anyKey_iff.mpr ⟨key, value, hvalue, hkey⟩
    | none =>
      cases hany : s.refungible.balance.anyKey (fun key => key.1 = (handle.id, token)) with
      | true => rfl
      | false => simp [hsole, hany] at hparent
  obtain ⟨key, value, hvalue, hkey⟩ := FiniteMap.anyKey_iff.mp hany
  have hsupply := hheld key (by simp [hvalue])
  rw [hkey] at hsupply
  exact Option.isSome_iff_ne_none.mpr hsupply

/-- The properties are written back unless there is no update. -/
def writtenProperties (handle : CollectionHandle T) (token : TokenId)
    (updates : List PropertyUpdate) (s : State T) (final : TokenProperties) : State T :=
  if updates = [] then s else setTokenPropertiesRaw (handle.id, token) final s

theorem modifyTokenProperties_followsRule (hheld : ∀ key,
      s.refungible.balance.get key ≠ none → s.refungible.totalSupply.get key.1 ≠ none)
    (hfound : dispatch s handle.id = some (.refungible handle)) :
    FollowsRule (modifyTokenProperties handle sender token updates) s
      ((tokenFacts handle sender token s).apply updates (storedProperties s (handle.id, token)))
      (writtenProperties handle token updates s) :=
  ExistingToken.followsRule
    { keeps := preserves_checkTokenIndirectOwner
      commutes := commutes_checkTokenIndirectOwner
      exists_congr := fun s' hstorage => by
        simp only [tokenExists, (State.storage_eq_iff.mp hstorage).2.2.2.1]
      stored_congr := fun s' hstorage => by
        simp only [(State.storage_eq_iff.mp hstorage).2.2.2.1]
      set_congr := fun final s' hstorage => State.storage_mapRefungible_congr hstorage
      inferred := tokenExists_of_answersYes hfound hheld }

end Refungible

end UniqueChain
