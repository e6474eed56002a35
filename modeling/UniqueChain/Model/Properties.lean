import UniqueChain.Library.FiniteMap
import UniqueChain.Model.Primitives

/-!
# Property containers

The containers of `up_data_structs` for token and collection properties: a
bounded map from validated keys, and the same map with the space its entries
take.  Operations return the new container together with what the source
returns, or the error.
-/

namespace UniqueChain

/-- A bounded byte string. -/
abbrev PropertyKey := { bytes : List UInt8 // bytes.length ≤ maxPropertyKeyLength }

/-- At most `maxPropertyValueLength` bytes in the source. -/
abbrev PropertyValue := List UInt8

/-- A key with its value. -/
structure Property where
  key : PropertyKey
  value : PropertyValue

/-- Who may write the values of a key. -/
structure PropertyPermission where
  mutable : Bool
  collectionAdmin : Bool
  tokenOwner : Bool
  deriving DecidableEq

/-- Mutable, but neither by an admin nor by the token owner. -/
def PropertyPermission.none : PropertyPermission :=
  { mutable := true, collectionAdmin := false, tokenOwner := false }

/-- A key with its permission. -/
structure PropertyKeyPermission where
  key : PropertyKey
  permission : PropertyPermission

/-- Why a write to a property map is refused. -/
inductive PropertiesError where
  | noSpaceForProperty
  | propertyLimitReached
  | invalidCharacterInPropertyKey
  | propertyKeyIsTooLong
  | emptyPropertyKey
  deriving DecidableEq

/-- A reserved part of the keys. -/
inductive PropertyScope where
  | none
  | rmrk
  deriving DecidableEq

/-- The bytes a scope puts in front of a key: `rmrk:` or nothing. -/
def PropertyScope.bytes : PropertyScope → List UInt8
  | .none => []
  | .rmrk => [0x72, 0x6d, 0x72, 0x6b, 0x3a]

/-- The key with the scope put before it. -/
def PropertyScope.apply (scope : PropertyScope) (key : PropertyKey) :
    Except PropertiesError PropertyKey :=
  if scope.bytes = [] then
    .ok key
  else if h : (scope.bytes ++ key.val).length ≤ maxPropertyKeyLength then
    .ok ⟨scope.bytes ++ key.val, h⟩
  else
    .error .propertyKeyIsTooLong

/-- ASCII letters, digits, and the symbols `_`, `-` and `.`. -/
def isKeyByte (byte : UInt8) : Bool :=
  (0x30 ≤ byte && byte ≤ 0x39) || (0x41 ≤ byte && byte ≤ 0x5a) || (0x61 ≤ byte && byte ≤ 0x7a) ||
    byte == 0x5f || byte == 0x2d || byte == 0x2e

/-- A key is not empty and has only the bytes of `isKeyByte`. -/
def checkPropertyKey (key : PropertyKey) : Except PropertiesError Unit :=
  if key.val = [] then
    .error .emptyPropertyKey
  else if key.val.all isKeyByte then
    .ok ()
  else
    .error .invalidCharacterInPropertyKey

/-! ## The bounded map -/

/-- A map with at most `maxPropertiesPerItem` keys. -/
structure PropertiesMap (Value : Type) where
  map : FiniteMap PropertyKey Value
  card_le : map.support.card ≤ maxPropertiesPerItem

namespace PropertiesMap

variable {Value : Type}

variable {key : PropertyKey} {old : Option Value} {value : Value}

/-- No properties. -/
def new : PropertiesMap Value := ⟨FiniteMap.empty, Nat.zero_le _⟩

/-- The value of a key. -/
def get (properties : PropertiesMap Value) (key : PropertyKey) : Option Value :=
  properties.map.get key

theorem card_support_insert_le {map : FiniteMap PropertyKey Value}
    (hcard : map.support.card ≤ maxPropertiesPerItem)
    (hroom : map.support.card < maxPropertiesPerItem ∨ map.contains key) :
    (map.insert key value).support.card ≤ maxPropertiesPerItem := by
  rcases hroom with hlt | hmem
  · exact (Finset.card_insert_le _ _).trans hlt
  · have hkey : key ∈ map.support := (map.mem_support key).mpr hmem
    have hsame : (map.insert key value).support = map.support := Finset.insert_eq_of_mem hkey
    rw [hsame]
    exact hcard

/-- `BoundedBTreeMap::try_insert`: a new key needs room, a known one is replaced. -/
def tryInsert (properties : PropertiesMap Value) (key : PropertyKey) (value : Value) :
    Option (Option Value × PropertiesMap Value) :=
  if h : properties.map.support.card < maxPropertiesPerItem ∨ properties.map.contains key then
    some (properties.map.get key,
      ⟨properties.map.insert key value, card_support_insert_le properties.card_le h⟩)
  else
    none

/-- Stores a value and returns the old one. -/
def tryScopedSet (scope : PropertyScope) (key : PropertyKey) (value : Value)
    (properties : PropertiesMap Value) :
    Except PropertiesError (Option Value × PropertiesMap Value) := do
  checkPropertyKey key
  let key ← scope.apply key
  match properties.tryInsert key value with
  | some result => .ok result
  | none => .error .propertyLimitReached

/-- The same outside of any scope. -/
def trySet (key : PropertyKey) (value : Value) (properties : PropertiesMap Value) :
    Except PropertiesError (Option Value × PropertiesMap Value) :=
  tryScopedSet .none key value properties

/-- Stores one after the other, until one is refused. -/
def trySetFromIter (entries : List (PropertyKey × Value)) (properties : PropertiesMap Value) :
    Except PropertiesError (PropertiesMap Value) :=
  match entries with
  | [] => .ok properties
  | entry :: rest => do
    let (_, properties) ← trySet entry.1 entry.2 properties
    trySetFromIter rest properties

theorem card_erase_le (properties : PropertiesMap Value) (key : PropertyKey) :
    (properties.map.erase key).support.card ≤ maxPropertiesPerItem :=
  (Finset.card_le_card (Finset.erase_subset _ _)).trans properties.card_le

/-- Remove a key, if it is a valid one. -/
def remove (key : PropertyKey) (properties : PropertiesMap Value) :
    Except PropertiesError (Option Value × PropertiesMap Value) := do
  checkPropertyKey key
  .ok (properties.map.get key, ⟨properties.map.erase key, properties.card_erase_le key⟩)

/-- An accepted write changes exactly the key that the scope makes of its own, and
returns the old value. -/
theorem tryScopedSet_ok {scope : PropertyScope} {properties next : PropertiesMap Value}
    (hset : tryScopedSet scope key value properties = .ok (old, next)) :
    ∃ stored, scope.apply key = .ok stored ∧ old = properties.map.get stored ∧
      next.map = properties.map.insert stored value := by
  unfold tryScopedSet tryInsert at hset
  cases hcheck : checkPropertyKey key with
  | error error =>
    rw [hcheck] at hset
    cases hset
  | ok checked =>
    rw [hcheck] at hset
    cases happly : scope.apply key with
    | error error =>
      rw [happly] at hset
      cases hset
    | ok stored =>
      simp only [happly, bind, Except.bind] at hset
      split at hset
      · rename_i result hresult
        split at hresult
        · simp only [Option.some.injEq] at hresult
          subst hresult
          simp only [Except.ok.injEq, Prod.mk.injEq] at hset
          obtain ⟨hold, rfl⟩ := hset
          exact ⟨stored, rfl, hold.symm, rfl⟩
        · cases hresult
      · cases hset

theorem trySet_ok {properties next : PropertiesMap Value}
    (hset : trySet key value properties = .ok (old, next)) :
    old = properties.map.get key ∧ next.map = properties.map.insert key value := by
  obtain ⟨stored, happly, hold, hnext⟩ := tryScopedSet_ok hset
  cases happly
  exact ⟨hold, hnext⟩

theorem remove_ok {properties next : PropertiesMap Value}
    (hremove : remove key properties = .ok (old, next)) :
    old = properties.map.get key ∧ next.map = properties.map.erase key := by
  unfold remove at hremove
  cases hcheck : checkPropertyKey key with
  | error error =>
    rw [hcheck] at hremove
    cases hremove
  | ok checked =>
    rw [hcheck] at hremove
    simp only [bind, Except.bind, Except.ok.injEq, Prod.mk.injEq] at hremove
    obtain ⟨hold, rfl⟩ := hremove
    exact ⟨hold.symm, rfl⟩

end PropertiesMap

/-- The permissions of the keys of a collection. -/
abbrev PropertiesPermissionMap := PropertiesMap PropertyPermission

/-! ## The map with its consumed space -/

/-- The size of a compact-encoded length. -/
def compactSize (length : ℕ) : ℕ :=
  if length < 2 ^ 6 then 1
  else if length < 2 ^ 14 then 2
  else if length < 2 ^ 30 then 4
  else 5

/-- The encoded length of bytes with the scope before them. -/
def scopedSliceSize (scope : PropertyScope) (data : List UInt8) : ℕ :=
  compactSize (data.length + scope.bytes.length) + data.length + scope.bytes.length

/-- The same outside of any scope. -/
def sliceSize (data : List UInt8) : ℕ := scopedSliceSize .none data

/-- A container that may consume at most `space` bytes. -/
structure Properties (space : ℕ) where
  map : PropertiesMap PropertyValue
  consumedSpace : ℕ

namespace Properties

variable {space : ℕ}

/-- No properties and no space consumed. -/
def new : Properties space := { map := PropertiesMap.new, consumedSpace := 0 }

/-- The value of a key. -/
def get (properties : Properties space) (key : PropertyKey) : Option PropertyValue :=
  properties.map.get key

/-- Stores a value if there is space, and returns the old one. -/
def tryScopedSet (scope : PropertyScope) (key : PropertyKey) (value : PropertyValue)
    (properties : Properties space) :
    Except PropertiesError (Option PropertyValue × Properties space) := do
  let keySize := scopedSliceSize scope key.val
  let valueSize := sliceSize value
  if properties.consumedSpace + valueSize + keySize > space then
    .error .noSpaceForProperty
  else do
    let (oldValue, map) ← PropertiesMap.tryScopedSet scope key value properties.map
    match oldValue with
    | some old =>
      -- The subtraction saturates.
      .ok (oldValue, { map, consumedSpace :=
        properties.consumedSpace - sliceSize old + valueSize })
    | none => .ok (oldValue, { map, consumedSpace :=
          properties.consumedSpace + (keySize + valueSize) })

/-- The same outside of any scope. -/
def trySet (key : PropertyKey) (value : PropertyValue) (properties : Properties space) :
    Except PropertiesError (Option PropertyValue × Properties space) :=
  tryScopedSet .none key value properties

/-- Stores one after the other, until one is refused. -/
def trySetFromIter (entries : List Property) (properties : Properties space) :
    Except PropertiesError (Properties space) :=
  match entries with
  | [] => .ok properties
  | entry :: rest => do
    let (_, properties) ← trySet entry.key entry.value properties
    trySetFromIter rest properties

/-- Removes a value, returns it and frees its space. -/
def remove (key : PropertyKey) (properties : Properties space) :
    Except PropertiesError (Option PropertyValue × Properties space) := do
  let (oldValue, map) ← PropertiesMap.remove key properties.map
  match oldValue with
  | some old =>
    .ok (oldValue, { map, consumedSpace :=
      properties.consumedSpace - (sliceSize key.val + sliceSize old) })
  | none => .ok (oldValue, { properties with map })

/-- An accepted write changes exactly its own key. -/
theorem map_of_trySet_ok {value : PropertyValue}
    {properties next : Properties space} {old : Option PropertyValue}
    (hset : trySet key value properties = .ok (old, next)) :
    next.map.map = properties.map.map.insert key value := by
  unfold trySet tryScopedSet at hset
  simp only at hset
  split at hset
  · cases hset
  · cases hmap : PropertiesMap.tryScopedSet .none key value properties.map with
    | error error =>
      rw [hmap] at hset
      cases hset
    | ok result =>
      obtain ⟨oldValue, map⟩ := result
      have hinsert := (PropertiesMap.trySet_ok hmap).2
      rw [hmap] at hset
      simp only [bind, Except.bind] at hset
      cases oldValue with
      | none =>
        simp only [Except.ok.injEq, Prod.mk.injEq] at hset
        rw [← hset.2, hinsert]
      | some old =>
        simp only [Except.ok.injEq, Prod.mk.injEq] at hset
        rw [← hset.2, hinsert]

/-- An accepted removal changes exactly its own key. -/
theorem map_of_remove_ok {properties next : Properties space}
    {old : Option PropertyValue} (hremove : remove key properties = .ok (old, next)) :
    next.map.map = properties.map.map.erase key := by
  unfold remove at hremove
  cases hmap : PropertiesMap.remove key properties.map with
  | error error =>
    rw [hmap] at hremove
    cases hremove
  | ok result =>
    obtain ⟨oldValue, map⟩ := result
    have herase := (PropertiesMap.remove_ok hmap).2
    rw [hmap] at hremove
    simp only [bind, Except.bind] at hremove
    cases oldValue with
    | none =>
      simp only [Except.ok.injEq, Prod.mk.injEq] at hremove
      rw [← hremove.2, herase]
    | some old =>
      simp only [Except.ok.injEq, Prod.mk.injEq] at hremove
      rw [← hremove.2, herase]

end Properties

/-- The properties of a collection. -/
abbrev CollectionProperties := Properties maxCollectionPropertiesSize

/-- The properties of a token. -/
abbrev TokenProperties := Properties maxTokenPropertiesSize

end UniqueChain
