import UniqueChain.Library.Execution
import UniqueChain.Library.Scale
import UniqueChain.Model.Properties

/-!
# Property containers that are written in place

The source changes a container through a mutable reference, so a call that fails may
have changed it.  Here the calls are executions on the container: what a failing one
leaves is the state it has reached.

The encoding of a container is the one its storage value has.
-/

namespace UniqueChain

open Execution

/-- The result of a check that reads nothing. -/
def ofCheck {σ α : Type} (checked : Except PropertiesError α) : Execution PropertiesError σ α :=
  match checked with
  | .ok value => pure value
  | .error error => fail error

namespace PropertiesMap.InPlace

variable {Value : Type}

def tryScopedSet (scope : PropertyScope) (key : PropertyKey) (value : Value) :
    Execution PropertiesError (PropertiesMap Value) (Option Value) := do
  ofCheck (checkPropertyKey key)
  let key ← ofCheck (scope.apply key)
  let properties ← read
  let (old, inserted) ← okOr (properties.tryInsert key value) .propertyLimitReached
  update fun _ => inserted
  pure old

def remove (key : PropertyKey) :
    Execution PropertiesError (PropertiesMap Value) (Option Value) := do
  ofCheck (checkPropertyKey key)
  let properties ← read
  update fun properties => ⟨properties.map.erase key, properties.card_erase_le key⟩
  pure (properties.map.get key)

end PropertiesMap.InPlace

namespace Properties

variable {space : ℕ}

/-- The space that the entries of a map take. -/
def spaceOf (map : FiniteMap PropertyKey PropertyValue) : ℕ :=
  map.sum fun key value => sliceSize key.val + sliceSize value

def recomputeConsumedSpace (properties : Properties space) : Properties space :=
  { properties with consumedSpace := spaceOf properties.map.map }

namespace InPlace

/-- Work on the map of a container. -/
def onMap {α : Type} (body : Execution PropertiesError (PropertiesMap PropertyValue) α) :
    Execution PropertiesError (Properties space) α :=
  ⟨fun properties =>
    match body.run properties.map with
    | .ok value map => .ok value { properties with map }
    | .error error map => .error error { properties with map }⟩

/-- The space of the entries that are written is known only after the map is written. -/
def account (keySize valueSize : ℕ) (oldValue : Option PropertyValue)
    (properties : Properties space) : Properties space :=
  match oldValue with
  | some old =>
    { properties with consumedSpace := properties.consumedSpace - sliceSize old + valueSize }
  | none => { properties with consumedSpace := properties.consumedSpace + (keySize + valueSize) }

def tryScopedSet (scope : PropertyScope) (key : PropertyKey) (value : PropertyValue) :
    Execution PropertiesError (Properties space) (Option PropertyValue) := do
  let keySize := scopedSliceSize scope key.val
  let valueSize := sliceSize value
  let properties ← read
  ensure (¬ properties.consumedSpace + valueSize + keySize > space) .noSpaceForProperty
  let oldValue ← onMap (PropertiesMap.InPlace.tryScopedSet scope key value)
  update (account keySize valueSize oldValue)
  pure oldValue

def trySet (key : PropertyKey) (value : PropertyValue) :
    Execution PropertiesError (Properties space) (Option PropertyValue) :=
  tryScopedSet .none key value

def trySetFromIter (entries : List Property) : Execution PropertiesError (Properties space) Unit :=
  forEach (fun entry => do let _ ← trySet entry.key entry.value; pure ()) entries

/-- Give back the space of a removed entry. -/
def release (key : PropertyKey) (oldValue : Option PropertyValue)
    (properties : Properties space) : Properties space :=
  match oldValue with
  | some old =>
    { properties with consumedSpace :=
      properties.consumedSpace - (sliceSize key.val + sliceSize old) }
  | none => properties

def remove (key : PropertyKey) :
    Execution PropertiesError (Properties space) (Option PropertyValue) := do
  let oldValue ← onMap (PropertiesMap.InPlace.remove key)
  update (release key oldValue)
  pure oldValue

end InPlace

/-! ## Sequences of calls -/

/-- What is done to the properties of an item. -/
inductive Operation where
  | trySet (key : PropertyKey) (value : PropertyValue)
  | tryScopedSet (scope : PropertyScope) (key : PropertyKey) (value : PropertyValue)
  | trySetFromIter (entries : List Property)
  | remove (key : PropertyKey)
  | recomputeConsumedSpace

def Operation.execute : Operation → Execution PropertiesError (Properties space) Unit
  | .trySet key value => do let _ ← InPlace.trySet key value; pure ()
  | .tryScopedSet scope key value => do let _ ← InPlace.tryScopedSet scope key value; pure ()
  | .trySetFromIter entries => InPlace.trySetFromIter entries
  | .remove key => do let _ ← InPlace.remove key; pure ()
  | .recomputeConsumedSpace => update Properties.recomputeConsumedSpace

/-- The calls that write one key. -/
def Operation.SingleKey : Operation → Prop
  | .trySetFromIter _ => False
  | _ => True

/-- The container after the calls, each of which may have failed. -/
def after (operations : List Operation) (properties : Properties space) : Properties space :=
  operations.foldl (fun properties operation => (operation.execute.run properties).state) properties

/-! ## Encoding -/

/-- The order of the keys in a map: byte by byte. -/
def keyLe (first second : PropertyKey) : Prop :=
  first.val.map UInt8.toNat ≤ second.val.map UInt8.toNat

instance : DecidableRel keyLe := fun first second =>
  inferInstanceAs (Decidable (first.val.map UInt8.toNat ≤ second.val.map UInt8.toNat))

instance : IsTrans PropertyKey keyLe := ⟨fun _ _ _ => le_trans⟩

instance : Std.Total keyLe := ⟨fun _ _ => le_total _ _⟩

instance : Std.Antisymm keyLe where
  antisymm _ _ hle hge :=
    Subtype.ext (List.map_injective_iff.mpr (fun _ _ => UInt8.toNat_inj.mp) (le_antisymm hle hge))

/-- The map, the consumed space and a reserved number that is zero. -/
def encode (properties : Properties space) : List UInt8 :=
  Scale.sequence
      (fun key => Scale.bytes key.val ++ Scale.bytes (properties.map.map.getD key []))
      (properties.map.map.support.sort keyLe) ++
    Scale.littleEndian 4 properties.consumedSpace ++ Scale.littleEndian 4 0

def maxEncodedLen (space : ℕ) : ℕ := 4 * 3 + space

end Properties

end UniqueChain
