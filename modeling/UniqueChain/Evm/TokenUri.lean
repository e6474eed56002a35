import UniqueChain.Evm.Gas
import UniqueChain.Model.Reference
import UniqueChain.Model.TokenUri

/-!
# What `tokenURI` returns

The comment on `token_uri` describes a cascade over four properties.  The method is designed
by a simpler one (`UriContents.designed`): it does not look at `schemaName`, and where the
token has no suffix it returns the base as it is, without the number of the token.  NFT and
refungible collections follow it for any contents of the properties, as long as the gas pays
for the reads; a read that is not paid for counts as a property that is absent.
-/

namespace UniqueChain.Erc721

open Execution EvmCoder

/-- The texts `tokenURI` is about. -/
structure UriContents where
  url : Option String
  suffix : Option String
  schemaName : Option String
  baseUri : Option String

/-- The key of the property the comment speaks of. -/
def Key.schemaName : PropertyKey := ⟨utf8 "schemaName", by decide +kernel⟩

namespace UriContents

/-- The rule in the comment on `token_uri`; `none` stands for an error. -/
def documented (contents : UriContents) (token : TokenId) : Option String :=
  match nonEmpty contents.url with
  | some url => some url
  | none =>
    if contents.schemaName = some "ERC721Metadata" then
      match nonEmpty contents.baseUri with
      | none => some ""
      | some baseUri =>
        match nonEmpty contents.suffix with
        | some suffix => some (baseUri ++ suffix)
        | none => some (baseUri ++ toString token)
    else none

/-- The rule the method is designed by. -/
def designed (contents : UriContents) : String :=
  match nonEmpty contents.url with
  | some url => url
  | none =>
    match nonEmpty contents.baseUri with
    | none => ""
    | some baseUri => baseUri ++ (nonEmpty contents.suffix).getD ""

/-- The number of token properties that have to be read for it. -/
def reads (contents : UriContents) : ℕ :=
  if nonEmpty contents.url = none ∧ nonEmpty contents.baseUri ≠ none then 2 else 1

/-- The storage holds the texts as properties of the token and of its collection. -/
structure StoredIn {T : Config} (contents : UriContents)
    (tokenProperties : FiniteMap Token TokenProperties) (common : CommonStorage T)
    (token : Token) : Prop where
  url : ((tokenProperties.get token).bind fun properties => properties.get Key.url) =
    contents.url.map utf8
  suffix : ((tokenProperties.get token).bind fun properties => properties.get Key.suffix) =
    contents.suffix.map utf8
  baseUri : getCollectionProperty common token.1 Key.baseUri = contents.baseUri.map utf8

end UriContents

/-! ## One property -/

theorem fromUtf8_utf8 (text : String) : fromUtf8 (utf8 text) = some text := by
  have hbytes : (⟨(utf8 text).toArray⟩ : ByteArray) = text.toByteArray := by
    rw [utf8, Array.toArray_toList]
  rw [fromUtf8, hbytes, String.fromUTF8?, dif_pos text.isValidUTF8]
  rfl

variable {T : Config} (config : GasConfig) (utf : Utf8Config) (recorder : SubstrateRecorder)
  {tokenProperties : FiniteMap Token TokenProperties} {common : CommonStorage T}
  {content : Option String} {id : CollectionId}

/-- The gas one read costs. -/
def priceOfRead : ℕ := config.weightToGas ⟨saturatingMul config.read 1, 0⟩

/-- The gas suffices for some reads in a row. -/
def PaysReads (reads : ℕ) : Prop :=
  priceOfRead config ≠ u64Max ∧ reads * priceOfRead config ≤ recorder.gasLimit

instance (reads : ℕ) : Decidable (PaysReads config recorder reads) := by
  unfold PaysReads; infer_instance

variable {config recorder}

theorem PaysReads.of_le {reads fewer : ℕ} (hpays : PaysReads config recorder reads)
    (hfewer : fewer ≤ reads) : PaysReads config recorder fewer :=
  ⟨hpays.1, (Nat.mul_le_mul_right _ hfewer).trans hpays.2⟩

theorem PaysReads.second (hpays : PaysReads config recorder 2) :
    PaysReads config (recorder.spend (priceOfRead config)) 1 := by
  refine ⟨hpays.1, ?_⟩
  have hboth := hpays.2
  change 1 * priceOfRead config ≤ recorder.gasLimit - priceOfRead config
  omega

/-- A read that is paid for finds the text. -/
theorem attempt_getTokenProperty (hpays : PaysReads config recorder 1) {token : Token}
    {key : PropertyKey}
    (hcontent : ((tokenProperties.get token).bind fun properties => properties.get key) =
      content.map utf8) :
    ∃ answer, (attempt (getTokenProperty config utf tokenProperties token key)).run recorder =
        .ok answer (recorder.spend (priceOfRead config)) ∧
      nonEmpty answer.toOption = nonEmpty content := by
  have hread : (consumeStoreReads config 1).run recorder =
      .ok () (recorder.spend (priceOfRead config)) :=
    consumeGas_ok.mpr ⟨hpays.1, (one_mul _).symm.trans_le hpays.2, rfl⟩
  simp only [attempt, getTokenProperty, run_bind_of_ok hread]
  cases hproperties : tokenProperties.get token with
  | none =>
    rw [hproperties] at hcontent
    rw [Option.map_eq_none_iff.mp hcontent.symm]
    exact ⟨_, rfl, rfl⟩
  | some properties =>
    rw [hproperties] at hcontent
    rw [okOr, pure_bind, show properties.get key = content.map utf8 from hcontent]
    cases content with
    | none => exact ⟨_, rfl, rfl⟩
    | some text =>
      refine ⟨.ok text, ?_, rfl⟩
      rw [Option.map_some, okOr, pure_bind, Utf8Config.fromUtf8Lossy, fromUtf8_utf8]
      rfl

theorem getBaseUri_run (hcontent : getCollectionProperty common id Key.baseUri = content.map utf8) :
    (getBaseUri utf common id).run recorder = .ok content recorder := by
  rw [getBaseUri, hcontent]
  cases content with
  | none => rfl
  | some text =>
    change ((okOr (fromUtf8 (utf8 text)) _ : GasExec String) >>= _).run recorder = _
    rw [fromUtf8_utf8]
    rfl

/-! ## The method -/

/-- The text of a call that returns one. -/
def uriOf : Outcome Error SubstrateRecorder String → Option String
  | .ok uri _ => some uri
  | .error _ _ => none

theorem UriContents.uriOf_tokenUri {contents : UriContents} {token : TokenId}
    (htoken : token ≤ u32Max) (hpays : PaysReads config recorder contents.reads)
    (hstored : contents.StoredIn tokenProperties common (id, token)) :
    uriOf ((tokenUri config utf tokenProperties common id token).run recorder) =
      some contents.designed := by
  have hfirst : PaysReads config recorder 1 := by
    refine hpays.of_le ?_
    unfold reads
    split <;> decide
  obtain ⟨url, hurl, hfoundUrl⟩ := attempt_getTokenProperty utf hfirst hstored.url
  rw [tokenUri, ensure, if_pos htoken, pure_bind, run_bind_of_ok hurl, hfoundUrl, designed]
  cases hown : nonEmpty contents.url with
  | some text => rfl
  | none =>
    dsimp only
    rw [run_bind_of_ok (getBaseUri_run utf hstored.baseUri)]
    cases hbase : nonEmpty contents.baseUri with
    | none => rfl
    | some baseUri =>
      -- only here the second property is read
      rw [reads, if_pos ⟨hown, by rw [hbase]; exact Option.some_ne_none _⟩] at hpays
      obtain ⟨suffix, hsuffix, hfoundSuffix⟩ :=
        attempt_getTokenProperty utf hpays.second hstored.suffix
      dsimp only
      rw [run_bind_of_ok hsuffix, hfoundSuffix]
      cases nonEmpty contents.suffix with
      | none => exact congrArg some String.append_empty.symm
      | some suffix => rfl

/-- Whatever texts the properties hold, `tokenURI` returns a URI as long as the gas pays for the
reads it makes: that of the token if it has one, and otherwise nothing if the collection has
no base, and the base with the suffix of the token if it has. -/
theorem tokenUri_designed (config : GasConfig) (utf : Utf8Config) (recorder : SubstrateRecorder)
    (s : State T) (id : CollectionId) (token : TokenId) (htoken : token ≤ u32Max)
    (contents : UriContents) (hpays : PaysReads config recorder contents.reads) :
    (contents.StoredIn s.nonfungible.tokenProperties s.common (id, token) →
      uriOf ((Nonfungible.tokenUri config utf s id token).run recorder) = some contents.designed) ∧
    (contents.StoredIn s.refungible.tokenProperties s.common (id, token) →
      uriOf ((Refungible.tokenUri config utf s id token).run recorder) = some contents.designed) :=
  ⟨contents.uriOf_tokenUri utf htoken hpays, contents.uriOf_tokenUri utf htoken hpays⟩

namespace UriExample

/-- A collection with a base, a token with a URL of its own and one without. -/
def calls : List (Extrinsic reference) :=
  [⟨.createCollection .alice (.user .alice)
      { mode := .nft
        tokenPropertyPermissions := [⟨Key.url, ⟨true, false, true⟩⟩]
        properties := [⟨Key.baseUri, utf8 "ipfs://"⟩, ⟨Key.schemaName, utf8 "ERC721Metadata"⟩] },
      5⟩,
    ⟨.nonfungible 1 (.createMultipleItems .alice
      [⟨.alice, [⟨Key.url, utf8 "a.png"⟩]⟩, ⟨.alice, []⟩]), 5⟩]

theorem calls_succeed : (reference.history? calls).isSome := by decide +kernel

/-- The state after these calls. -/
def state : State reference := reference.stateOf calls calls_succeed

/-- A read costs three units. -/
def prices : GasConfig := ⟨3, 5, Weight.refTime⟩

/-- No text of the example is replaced. -/
def noReplacement : Utf8Config := ⟨fun _ => "", fun _ => ""⟩

/-- The texts of the second token. -/
def contents : UriContents := ⟨none, none, some "ERC721Metadata", some "ipfs://"⟩

theorem stored_contents :
    contents.StoredIn state.nonfungible.tokenProperties state.common (1, 2) := by
  constructor <;> decide +kernel

/-- The token without a URL gets the base alone. -/
theorem tokenUri_designed_base : 2 ≤ u32Max ∧ PaysReads prices (.new 10) contents.reads ∧
      uriOf ((Nonfungible.tokenUri prices noReplacement state 1 2).run (.new 10)) =
        some "ipfs://" := by
  have htwo : 2 ≤ u32Max := by decide
  have hpays : PaysReads prices (.new 10) contents.reads := by decide +kernel
  exact ⟨htwo, hpays,
    (tokenUri_designed prices noReplacement (.new 10) state 1 2 htwo _ hpays).1 stored_contents⟩

/-- The comment on the method would have its number appended. -/
theorem tokenUri_without_number :
    contents.StoredIn state.nonfungible.tokenProperties state.common (1, 2) ∧
      getCollectionProperty state.common 1 Key.schemaName = contents.schemaName.map utf8 ∧
      contents.documented 2 = some "ipfs://2" ∧
      uriOf ((Nonfungible.tokenUri prices noReplacement state 1 2).run (.new 10)) =
        some "ipfs://" :=
  ⟨stored_contents, by decide +kernel, by decide +kernel, by decide +kernel⟩

end UriExample

end UniqueChain.Erc721
