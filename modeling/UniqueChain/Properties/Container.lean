import UniqueChain.Model.PropertyContainer

/-!
# The accounting of property containers

A container keeps the space of its entries up to date: an entry takes the encoded size
of its key and of its value.  `Accounted` says that what is recorded is what the
entries take, and that it is within the bound; every call keeps it, failing or not.

The test for space comes before the old value of the key is known.  It asks for room
for the key and the new value on top of what is recorded, the old value included, so
a key that is stored already may be refused a value for which there is room.
-/

namespace UniqueChain

open Execution FiniteMap

/-! ## Calls in place -/

theorem PropertiesMap.run_inPlace_tryScopedSet {Value : Type} (scope : PropertyScope)
    (key : PropertyKey) (value : Value) (properties : PropertiesMap Value) :
    (InPlace.tryScopedSet scope key value).run properties =
      match tryScopedSet scope key value properties with
      | .ok (old, next) => .ok old next
      | .error error => .error error properties := by
  unfold InPlace.tryScopedSet tryScopedSet
  cases hcheck : checkPropertyKey key with
  | error error => rfl
  | ok checked =>
    cases happly : scope.apply key with
    | error error => rfl
    | ok stored =>
      cases hinsert : properties.tryInsert stored value with
      | none =>
        show (okOr (properties.tryInsert stored value) _ >>= _).run properties = _
        rw [hinsert]
        simp only [bind, Except.bind, hinsert]
        rfl
      | some result =>
        show (okOr (properties.tryInsert stored value) _ >>= _).run properties = _
        rw [hinsert]
        simp only [bind, Except.bind, hinsert]
        rfl

theorem PropertiesMap.run_inPlace_remove {Value : Type} (key : PropertyKey)
    (properties : PropertiesMap Value) :
    (InPlace.remove key).run properties =
      match remove key properties with
      | .ok (old, next) => .ok old next
      | .error error => .error error properties := by
  unfold InPlace.remove remove
  cases hcheck : checkPropertyKey key with
  | error error => rfl
  | ok checked => rfl

namespace Properties

variable {space : ℕ} {properties next : Properties space} {scope : PropertyScope}
  {key : PropertyKey} {value : PropertyValue} {old : Option PropertyValue}
  {body : Execution PropertiesError (Properties space) (Option PropertyValue)}
  {error : PropertiesError}

theorem InPlace.run_onMap_of_ok {α : Type} {map : PropertiesMap PropertyValue} {result : α}
    {body : Execution PropertiesError (PropertiesMap PropertyValue) α}
    (hrun : body.run properties.map = .ok result map) :
    (onMap body).run properties = .ok result { properties with map } := by
  simp only [onMap, hrun]

theorem InPlace.run_onMap_of_error {α : Type}
    {body : Execution PropertiesError (PropertiesMap PropertyValue) α}
    (hrun : body.run properties.map = .error error properties.map) :
    (onMap body).run properties = .error error properties := by
  simp only [onMap, hrun]

/-- A call that writes in place does what the call that returns the new container does,
and leaves the old container where that one fails. -/
theorem run_inPlace_tryScopedSet (scope : PropertyScope) (key : PropertyKey)
    (value : PropertyValue) (properties : Properties space) :
    (InPlace.tryScopedSet scope key value).run properties =
      match tryScopedSet scope key value properties with
      | .ok (old, next) => .ok old next
      | .error error => .error error properties := by
  unfold tryScopedSet
  by_cases hfull : properties.consumedSpace + sliceSize value + scopedSliceSize scope
    key.val > space
  · rw [if_pos hfull]
    show (ensure _ _ >>= _).run properties = _
    unfold ensure
    rw [if_neg (not_not.mpr hfull)]
    rfl
  · rw [if_neg hfull]
    show (ensure _ _ >>= _).run properties = _
    unfold ensure
    rw [if_pos hfull]
    have hmap := PropertiesMap.run_inPlace_tryScopedSet scope key value properties.map
    show (InPlace.onMap _ >>= _).run properties = _
    cases hset : PropertiesMap.tryScopedSet scope key value properties.map with
    | error error =>
      rw [hset] at hmap
      simp only [bind, InPlace.run_onMap_of_error hmap, Except.bind]
    | ok result =>
      obtain ⟨old, map⟩ := result
      rw [hset] at hmap
      have honMap := InPlace.run_onMap_of_ok hmap
      cases old with
      | none =>
        simp only [bind, honMap, Except.bind]
        rfl
      | some old =>
        simp only [bind, honMap, Except.bind]
        rfl

theorem run_inPlace_remove (key : PropertyKey) (properties : Properties space) :
    (InPlace.remove key).run properties =
      match remove key properties with
      | .ok (old, next) => .ok old next
      | .error error => .error error properties := by
  unfold InPlace.remove remove
  have hmap := PropertiesMap.run_inPlace_remove key properties.map
  cases hremove : PropertiesMap.remove key properties.map with
  | error error =>
    rw [hremove] at hmap
    simp only [bind, InPlace.run_onMap_of_error hmap, Except.bind]
  | ok result =>
    obtain ⟨old, map⟩ := result
    rw [hremove] at hmap
    have honMap := InPlace.run_onMap_of_ok hmap
    cases old with
    | none =>
      simp only [bind, honMap, Except.bind]
      rfl
    | some old =>
      simp only [bind, honMap, Except.bind]
      rfl

/-! ## What a call does -/

theorem val_of_apply {stored : PropertyKey} (happly : scope.apply key = .ok stored) :
    stored.val = scope.bytes ++ key.val := by
  unfold PropertyScope.apply at happly
  by_cases hscope : scope.bytes = []
  · rw [if_pos hscope] at happly
    cases happly
    rw [hscope, List.nil_append]
  · rw [if_neg hscope] at happly
    by_cases hlength : (scope.bytes ++ key.val).length ≤ maxPropertyKeyLength
    · rw [dif_pos hlength] at happly
      cases happly
      rfl
    · rw [dif_neg hlength] at happly
      cases happly

/-- The size of a scoped key is the size of the key that is stored. -/
theorem sliceSize_of_apply {stored : PropertyKey} (happly : scope.apply key = .ok stored) :
    sliceSize stored.val = scopedSliceSize scope key.val := by
  have hlength : stored.val.length = key.val.length + scope.bytes.length := by
    rw [val_of_apply happly, List.length_append, Nat.add_comm]
  simp only [sliceSize, scopedSliceSize, PropertyScope.bytes, List.length_nil, Nat.add_zero,
    hlength, Nat.add_assoc]

/-- An accepted write has room for key and value, and writes the key of its scope. -/
theorem tryScopedSet_ok (hset : tryScopedSet scope key value properties = .ok (old, next)) :
    properties.consumedSpace + sliceSize value + scopedSliceSize scope key.val ≤ space ∧
      ∃ stored, scope.apply key = .ok stored ∧ old = properties.map.map.get stored ∧
        next.map.map = properties.map.map.insert stored value ∧
        next.consumedSpace =
          old.elim (properties.consumedSpace + (scopedSliceSize scope key.val + sliceSize value))
            fun old => properties.consumedSpace - sliceSize old + sliceSize value := by
  unfold tryScopedSet at hset
  simp only at hset
  split at hset
  · cases hset
  · rename_i hroom
    refine ⟨Nat.le_of_not_lt hroom, ?_⟩
    cases hmap : PropertiesMap.tryScopedSet scope key value properties.map with
    | error error =>
      rw [hmap] at hset
      cases hset
    | ok result =>
      obtain ⟨oldValue, map⟩ := result
      obtain ⟨stored, happly, hold, hinsert⟩ := PropertiesMap.tryScopedSet_ok hmap
      rw [hmap] at hset
      simp only [bind, Except.bind] at hset
      cases oldValue with
      | none =>
        simp only [Except.ok.injEq, Prod.mk.injEq] at hset
        obtain ⟨rfl, rfl⟩ := hset
        exact ⟨stored, happly, hold, hinsert, rfl⟩
      | some oldValue =>
        simp only [Except.ok.injEq, Prod.mk.injEq] at hset
        obtain ⟨rfl, rfl⟩ := hset
        exact ⟨stored, happly, hold, hinsert, rfl⟩

theorem remove_ok (hremove : remove key properties = .ok (old, next)) :
    old = properties.map.map.get key ∧ next.map.map = properties.map.map.erase key ∧
      next.consumedSpace = old.elim properties.consumedSpace
        fun old => properties.consumedSpace - (sliceSize key.val + sliceSize old) := by
  refine ⟨?_, map_of_remove_ok hremove, ?_⟩
  all_goals
    unfold remove at hremove
    cases hmap : PropertiesMap.remove key properties.map with
    | error error =>
      rw [hmap] at hremove
      cases hremove
    | ok result =>
      obtain ⟨oldValue, map⟩ := result
      have hold := (PropertiesMap.remove_ok hmap).1
      rw [hmap] at hremove
      simp only [bind, Except.bind] at hremove
      cases oldValue with
      | none =>
        cases hremove
        first | exact hold | rfl
      | some oldValue =>
        cases hremove
        first | exact hold | rfl

/-! ## The accounting -/

/-- What is recorded is what the entries take, and it is within the bound. -/
structure Accounted (properties : Properties space) : Prop where
  consumed : properties.consumedSpace = spaceOf properties.map.map
  within : properties.consumedSpace ≤ space

/-- The space of the entries after an entry is written, with what the old value took on
the other side. -/
theorem spaceOf_insert (map : FiniteMap PropertyKey PropertyValue) (key : PropertyKey)
    (value : PropertyValue) :
    (∀ old, map.get key = some old →
        spaceOf (map.insert key value) + sliceSize old = spaceOf map + sliceSize value) ∧
      (map.get key = none →
        spaceOf (map.insert key value) = spaceOf map + (sliceSize key.val + sliceSize value)) := by
  have hsum := map.sum_insert (fun key value => sliceSize key.val + sliceSize value) key value
  refine ⟨fun old hold => ?_, fun hnew => ?_⟩
  · rw [term_of_get _ hold] at hsum
    unfold spaceOf
    omega
  · rw [term_of_get_none _ hnew] at hsum
    unfold spaceOf
    omega

theorem spaceOf_erase (map : FiniteMap PropertyKey PropertyValue) (key : PropertyKey) :
    (∀ old, map.get key = some old →
        spaceOf (map.erase key) + (sliceSize key.val + sliceSize old) = spaceOf map) ∧
      (map.get key = none → spaceOf (map.erase key) = spaceOf map) := by
  have hsum := map.sum_erase (fun key value => sliceSize key.val + sliceSize value) key
  refine ⟨fun old hold => ?_, fun hnew => ?_⟩
  · rw [term_of_get _ hold] at hsum
    exact hsum
  · rw [term_of_get_none _ hnew, Nat.add_zero] at hsum
    exact hsum

/-- The space of an entry is part of the space of all. -/
theorem sliceSize_le_spaceOf {map : FiniteMap PropertyKey PropertyValue}
    (hget : map.get key = some value) : sliceSize key.val + sliceSize value ≤ spaceOf map := by
  have hle := map.term_le_sum (fun key value => sliceSize key.val + sliceSize value) key
  rwa [term_of_get _ hget] at hle

namespace Accounted

theorem new : Accounted (new : Properties space) where
  consumed := (sum_empty _).symm
  within := Nat.zero_le _

section

variable (haccounted : Accounted properties)

include haccounted

theorem tryScopedSet (hset : Properties.tryScopedSet scope key value properties = .ok (old, next)) :
    Accounted next := by
  obtain ⟨hroom, stored, happly, rfl, hmap, hspace⟩ := tryScopedSet_ok hset
  have hkey := sliceSize_of_apply happly
  have hconsumed := haccounted.consumed
  obtain ⟨hreplaced, hadded⟩ := spaceOf_insert properties.map.map stored value
  cases hold : properties.map.map.get stored with
  | none =>
    have hadded := hadded hold
    rw [hold] at hspace
    simp only [Option.elim_none] at hspace
    exact ⟨by rw [hmap]; omega, by omega⟩
  | some old =>
    -- the subtraction does not saturate: the old value is accounted for
    have hle := sliceSize_le_spaceOf hold
    have hreplaced := hreplaced old hold
    rw [hold] at hspace
    simp only [Option.elim_some] at hspace
    exact ⟨by rw [hmap]; omega, by omega⟩

theorem remove (hremove : Properties.remove key properties = .ok (old, next)) : Accounted next := by
  obtain ⟨rfl, hmap, hspace⟩ := remove_ok hremove
  have hconsumed := haccounted.consumed
  have hwithin := haccounted.within
  obtain ⟨herased, hsame⟩ := spaceOf_erase properties.map.map key
  cases hold : properties.map.map.get key with
  | none =>
    have hsame := hsame hold
    rw [hold] at hspace
    simp only [Option.elim_none] at hspace
    exact ⟨by rw [hmap]; omega, by omega⟩
  | some old =>
    have herased := herased old hold
    rw [hold] at hspace
    simp only [Option.elim_some] at hspace
    exact ⟨by rw [hmap]; omega, by omega⟩

theorem recomputeConsumedSpace_eq : recomputeConsumedSpace properties = properties := by
  unfold recomputeConsumedSpace
  rw [← haccounted.consumed]

/-- The encoding of the number of entries takes at most two bytes, and every entry takes
the space that is accounted for it. -/
theorem length_encode_le : properties.encode.length ≤ maxEncodedLen space := by
  have hentry : ∀ data : List UInt8, (Scale.bytes data).length = sliceSize data := by
    intro data
    rw [Scale.bytes, List.length_append, Scale.length_compact]
    rfl
  have hentries : ∑ key ∈ properties.map.map.support,
      (Scale.bytes key.val ++ Scale.bytes (properties.map.map.getD key [])).length =
      spaceOf properties.map.map := by
    refine Finset.sum_congr rfl fun key hkey => ?_
    obtain ⟨value, hvalue⟩ :=
      Option.isSome_iff_exists.mp ((properties.map.map.mem_support key).mp hkey)
    rw [term_of_get _ hvalue, getD_of_get hvalue, List.length_append, hentry, hentry]
  have hcount : (Scale.compact properties.map.map.support.card).length ≤ 2 := by
    have hcard : properties.map.map.support.card ≤ 64 := properties.map.card_le
    rw [Scale.length_compact]
    split
    · omega
    · rw [if_pos (by omega)]
  have hconsumed := haccounted.consumed
  have hwithin := haccounted.within
  unfold encode maxEncodedLen
  rw [List.length_append, List.length_append, Scale.length_sequence_sort, hentries,
    Scale.length_littleEndian, Scale.length_littleEndian]
  omega

end

end Accounted

/-! ## Sequences of calls -/

/-- Every write in place ends in a container that the call returns, or where it began. -/
theorem state_inPlace_tryScopedSet (scope : PropertyScope) (key : PropertyKey)
    (value : PropertyValue) (properties : Properties space) :
    (∃ old next, tryScopedSet scope key value properties = .ok (old, next) ∧
        (InPlace.tryScopedSet scope key value).run properties = .ok old next) ∨
      ∃ error, (InPlace.tryScopedSet scope key value).run properties = .error error properties := by
  rw [run_inPlace_tryScopedSet]
  cases hset : tryScopedSet scope key value properties with
  | error error => exact .inr ⟨error, rfl⟩
  | ok result => exact .inl ⟨result.1, result.2, rfl, rfl⟩

theorem state_inPlace_remove (key : PropertyKey) (properties : Properties space) :
    (∃ old next, remove key properties = .ok (old, next) ∧
        (InPlace.remove key).run properties = .ok old next) ∨
      ∃ error, (InPlace.remove key).run properties = .error error properties := by
  rw [run_inPlace_remove]
  cases hremove : remove key properties with
  | error error => exact .inr ⟨error, rfl⟩
  | ok result => exact .inl ⟨result.1, result.2, rfl, rfl⟩

/-- A call whose result is dropped fails where the call fails. -/
theorem error_of_dropped
    (hrun : (do let _ ← body; pure () : Execution PropertiesError (Properties space) Unit).run
      properties = .error error next) : body.run properties = .error error next := by
  rcases bind_error.mp hrun with hfirst | ⟨_, _, _, hpure⟩
  · exact hfirst
  · cases hpure

/-- A single-key call that fails leaves the container as it was. -/
theorem Operation.unchanged_of_error {operation : Operation}
    (hsingle : operation.SingleKey) (hrun : operation.execute.run properties = .error error next) :
    next = properties := by
  cases operation with
  | trySet key value =>
    have hfails := error_of_dropped hrun
    rcases state_inPlace_tryScopedSet .none key value properties with ⟨_, _, _, hok⟩ | ⟨_, herror⟩
    · cases hok.symm.trans hfails
    · cases herror.symm.trans hfails
      rfl
  | tryScopedSet scope key value =>
    have hfails := error_of_dropped hrun
    rcases state_inPlace_tryScopedSet scope key value properties with ⟨_, _, _, hok⟩ | ⟨_, herror⟩
    · cases hok.symm.trans hfails
    · cases herror.symm.trans hfails
      rfl
  | trySetFromIter entries => exact hsingle.elim
  | remove key =>
    have hfails := error_of_dropped hrun
    rcases state_inPlace_remove key properties with ⟨_, _, _, hok⟩ | ⟨_, herror⟩
    · cases hok.symm.trans hfails
    · cases herror.symm.trans hfails
      rfl
  | recomputeConsumedSpace => cases hrun

/-- The accounting is kept. -/
def AccountKept (before after : Properties space) : Prop := Accounted before → Accounted after

theorem AccountKept.trans {first second third : Properties space}
    (hfirst : AccountKept first second) (hsecond : AccountKept second third) :
    AccountKept first third :=
  fun haccounted => hsecond (hfirst haccounted)

theorem accountKept_tryScopedSet (scope : PropertyScope) (key : PropertyKey)
    (value : PropertyValue) :
    Moves (@AccountKept space) (InPlace.tryScopedSet scope key value) := by
  intro properties haccounted
  rcases state_inPlace_tryScopedSet scope key value properties with
    ⟨old, next, hset, hrun⟩ | ⟨error, hrun⟩
  · rw [hrun]
    exact haccounted.tryScopedSet hset
  · rw [hrun]
    exact haccounted

/-- The same for a call whose result is dropped. -/
theorem accountKept_dropped (hbody : Moves AccountKept body) :
    Moves AccountKept (body >>= fun _ => (pure () : Execution PropertiesError _ Unit)) :=
  .bind .trans hbody fun _ _ haccounted => haccounted

theorem accountKept_remove (key : PropertyKey) :
    Moves (@AccountKept space) (InPlace.remove key) := by
  intro properties haccounted
  rcases state_inPlace_remove key properties with ⟨old, next, hremove, hrun⟩ | ⟨error, hrun⟩
  · rw [hrun]
    exact haccounted.remove hremove
  · rw [hrun]
    exact haccounted

theorem Operation.accountKept (operation : Operation) :
    Moves (@AccountKept space) operation.execute := by
  cases operation with
  | trySet key value => exact accountKept_dropped (accountKept_tryScopedSet .none key value)
  | tryScopedSet scope key value =>
    exact accountKept_dropped (accountKept_tryScopedSet scope key value)
  | trySetFromIter entries =>
    refine Moves.forEach (fun _ haccounted => haccounted) .trans (fun entry => ?_) entries
    exact accountKept_dropped (accountKept_tryScopedSet .none entry.key entry.value)
  | remove key => exact accountKept_dropped (accountKept_remove key)
  | recomputeConsumedSpace =>
    intro properties haccounted
    show Accounted (Properties.recomputeConsumedSpace properties)
    rw [haccounted.recomputeConsumedSpace_eq]
    exact haccounted

variable (operations : List Operation)

theorem accounted_after (haccounted : Accounted properties) :
    Accounted (after operations properties) := by
  induction operations generalizing properties with
  | nil => exact haccounted
  | cons operation rest ih => exact ih (operation.accountKept properties haccounted)

/-- For every bound and every sequence of calls on a new container, failing or not: what
is recorded is what the entries take and within the bound, to recompute it changes
nothing, the entries are not too many, a single-key call that fails next changes nothing,
and the encoding is not longer than announced. -/
theorem container_accounted :
    (after operations (new : Properties space)).consumedSpace =
        spaceOf (after operations (new : Properties space)).map.map ∧
      (after operations (new : Properties space)).consumedSpace ≤ space ∧
      recomputeConsumedSpace (after operations (new : Properties space)) =
        after operations new ∧
      (after operations (new : Properties space)).map.map.support.card ≤ maxPropertiesPerItem ∧
      (∀ operation : Operation, operation.SingleKey → ∀ error reached,
        operation.execute.run (after operations (new : Properties space)) = .error error reached →
          reached = after operations new) ∧
      (encode (after operations (new : Properties space))).length ≤ maxEncodedLen space := by
  have haccounted := accounted_after operations (@Accounted.new space)
  exact ⟨haccounted.consumed, haccounted.within, haccounted.recomputeConsumedSpace_eq,
    PropertiesMap.card_le _, fun _ hsingle _ _ hrun => Operation.unchanged_of_error hsingle hrun,
    haccounted.length_encode_le⟩

/-! ## Space that is refused -/

/-- The map itself knows no bound on the space. -/
theorem tryScopedSet_ne_noSpace {Value : Type} {value : Value} {map : PropertiesMap Value} :
    PropertiesMap.tryScopedSet scope key value map ≠ .error .noSpaceForProperty := by
  unfold PropertiesMap.tryScopedSet
  cases hcheck : checkPropertyKey key with
  | error error =>
    rintro ⟨⟩
    unfold checkPropertyKey at hcheck
    split at hcheck
    · cases hcheck
    · split at hcheck <;> cases hcheck
  | ok checked =>
    cases happly : scope.apply key with
    | error error =>
      rintro ⟨⟩
      unfold PropertyScope.apply at happly
      split at happly
      · cases happly
      · by_cases hlength : (scope.bytes ++ key.val).length ≤ maxPropertyKeyLength
        · rw [dif_pos hlength] at happly
          cases happly
        · rw [dif_neg hlength] at happly
          cases happly
    | ok stored =>
      simp only [bind, Except.bind]
      split <;> rintro ⟨⟩

/-- Space is refused exactly if there is no room for key and value on top of what is
recorded. -/
theorem trySet_eq_noSpace_iff :
    trySet key value properties = .error .noSpaceForProperty ↔
      space < properties.consumedSpace + sliceSize value + sliceSize key.val := by
  unfold trySet tryScopedSet
  by_cases hfull : properties.consumedSpace + sliceSize value + scopedSliceSize .none
    key.val > space
  · simp only [if_pos hfull, true_iff]
    exact hfull
  · simp only [if_neg hfull]
    refine ⟨fun herror => ?_, fun hspace => absurd hspace hfull⟩
    cases hmap : PropertiesMap.tryScopedSet .none key value properties.map with
    | error error =>
      rw [hmap] at herror
      cases herror
      exact absurd hmap tryScopedSet_ne_noSpace
    | ok result =>
      obtain ⟨old, map⟩ := result
      rw [hmap] at herror
      cases old <;> cases herror

/-- Space is refused to a property exactly if the container with the property in it
would take too much, for every sequence of calls before, key and value for which: the
key is not stored, or there is room for the key and the new value beside the old one, or
there is no room for the new value in place of the old one. -/
theorem refusal_justified_iff (key : PropertyKey) (value : PropertyValue) :
    (trySet key value (after operations (new : Properties space)) =
          .error .noSpaceForProperty ↔
        space < spaceOf ((after operations (new : Properties space)).map.map.insert key value)) ↔
      ∀ old ∈ (after operations (new : Properties space)).get key,
        (after operations (new : Properties space)).consumedSpace +
            (sliceSize key.val + sliceSize value) ≤ space ∨
          space < (after operations (new : Properties space)).consumedSpace - sliceSize old +
            sliceSize value := by
  have haccounted := accounted_after operations (@Accounted.new space)
  have hconsumed := haccounted.consumed
  rw [trySet_eq_noSpace_iff]
  obtain ⟨hreplaced, hadded⟩ :=
    spaceOf_insert (after operations (new : Properties space)).map.map key value
  cases hold : (after operations (new : Properties space)).map.map.get key with
  | none =>
    have hget : (after operations (new : Properties space)).get key = none := hold
    rw [hget, hadded hold, ← hconsumed]
    simp only [Option.mem_def, reduceCtorEq, false_imp_iff, implies_true, iff_true]
    omega
  | some old =>
    have hget : (after operations (new : Properties space)).get key = some old := hold
    have hle := sliceSize_le_spaceOf hold
    have hreplaced := hreplaced old hold
    rw [hget]
    simp only [Option.mem_def, Option.some.injEq, forall_eq']
    omega

namespace ContainerExample

def color : PropertyKey := ⟨[0x63], by decide⟩

/-- A container for eight bytes with one property that takes six. -/
def stored : List Operation := [.trySet color [1, 2, 3]]

/-- Writing the stored value once more is refused for lack of space. -/
theorem refused_without_need :
    (after stored (new : Properties 8)).get color = some [1, 2, 3] ∧
      trySet color [1, 2, 3] (after stored (new : Properties 8)) = .error .noSpaceForProperty ∧
      spaceOf ((after stored (new : Properties 8)).map.map.insert color [1, 2, 3]) = 6 := by
  refine ⟨by decide, ?_, by decide⟩
  rw [trySet_eq_noSpace_iff]
  decide

end ContainerExample

end Properties

end UniqueChain
