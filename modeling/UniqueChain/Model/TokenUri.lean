import UniqueChain.Model.Recorder
import UniqueChain.Model.State

/-!
# The URI of a token

`token_uri` of the ERC-721 interface, which non-fungible and refungible collections implement
alike: the two only differ in where the properties of their tokens are stored.  It reads two
properties of the token and one of the collection, and pays for the former.
-/

namespace UniqueChain.Erc721

open Execution EvmCoder

/-! ## Texts -/

/-- The bytes of a text. -/
def utf8 (text : String) : PropertyValue := text.toByteArray.data.toList

/-- `String::from_utf8`. -/
def fromUtf8 (bytes : PropertyValue) : Option String := String.fromUTF8? ⟨bytes.toArray⟩

/-- What the standard library makes of bytes that are not UTF-8. -/
structure Utf8Config where
  /-- The text `from_utf8_lossy` returns. -/
  replaced : PropertyValue → String
  /-- The text of the error of `from_utf8`. -/
  message : PropertyValue → String

/-- What is not UTF-8 is replaced. -/
def Utf8Config.fromUtf8Lossy (utf : Utf8Config) (bytes : PropertyValue) : String :=
  (fromUtf8 bytes).getD (utf.replaced bytes)

/-! ## Keys -/

namespace Key

def url : PropertyKey := ⟨utf8 "URI", by decide +kernel⟩

def suffix : PropertyKey := ⟨utf8 "URISuffix", by decide +kernel⟩

def baseUri : PropertyKey := ⟨utf8 "baseURI", by decide +kernel⟩

end Key

/-! ## The methods -/

variable {T : Config} (config : GasConfig) (utf : Utf8Config)

/-- Takes the gas of a read, also if there is no value. -/
def getTokenProperty (tokenProperties : FiniteMap Token TokenProperties) (token : Token)
    (key : PropertyKey) : GasExec String := do
  consumeStoreReads config 1
  let properties ← okOr (tokenProperties.get token) (.revert "token properties not found")
  let property ← okOr (properties.get key) (.revert "property tokenURI not found")
  pure (utf.fromUtf8Lossy property)

/-- The value of a property of a collection. -/
def getCollectionProperty (common : CommonStorage T) (id : CollectionId) (key : PropertyKey) :
    Option PropertyValue :=
  (common.collectionProperties.get id).bind fun properties => properties.get key

/-- The base, which has to be UTF-8. -/
def getBaseUri (common : CommonStorage T) (id : CollectionId) : GasExec (Option String) :=
  match getCollectionProperty common id Key.baseUri with
  | none => pure none
  | some bytes => do
    let text ← okOr (fromUtf8 bytes) (.revert ("can not convert value \"baseURI\" to string " ++
      "with error \"" ++ utf.message bytes ++ "\""))
    pure (some text)

/-- A text counts only if it is not empty. -/
def nonEmpty (text : Option String) : Option String := text.filter fun text => text ≠ ""

/-- The conversion of the token id fails for a number that is not one of `u32`. -/
def tokenUri (tokenProperties : FiniteMap Token TokenProperties) (common : CommonStorage T)
    (id : CollectionId) (tokenId : ℕ) : GasExec String := do
  ensure (tokenId ≤ u32Max) (.revert "token id overflow")
  let url ← attempt (getTokenProperty config utf tokenProperties (id, tokenId) Key.url)
  match nonEmpty url.toOption with
  | some url => pure url
  | none => do
    let baseUri ← getBaseUri utf common id
    match nonEmpty baseUri with
    | none => pure ""
    | some baseUri => do
      let suffix ←
        attempt (getTokenProperty config utf tokenProperties (id, tokenId) Key.suffix)
      match nonEmpty suffix.toOption with
      | none => pure baseUri
      | some suffix => pure (baseUri ++ suffix)

end UniqueChain.Erc721

namespace UniqueChain.Nonfungible

variable {T : Config}

def tokenUri (config : EvmCoder.GasConfig) (utf : Erc721.Utf8Config) (s : State T)
    (id : CollectionId) (tokenId : ℕ) : EvmCoder.GasExec String :=
  Erc721.tokenUri config utf s.nonfungible.tokenProperties s.common id tokenId

end UniqueChain.Nonfungible

namespace UniqueChain.Refungible

variable {T : Config}

def tokenUri (config : EvmCoder.GasConfig) (utf : Erc721.Utf8Config) (s : State T)
    (id : CollectionId) (tokenId : ℕ) : EvmCoder.GasExec String :=
  Erc721.tokenUri config utf s.refungible.tokenProperties s.common id tokenId

end UniqueChain.Refungible
