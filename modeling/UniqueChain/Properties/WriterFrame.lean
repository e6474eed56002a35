import UniqueChain.Model.PropertyWriter
import UniqueChain.Nesting.Storage

/-!
# What the property writer leaves alone

The writer is a sequence of checks on lazy values, and it hands on the values it
has forced.  Any compositional property of executions that its lazy values have,
the writer has as well, and so have the values it hands on (`PropertyWriterInfo.All`).

One such property is to leave a view of the state alone.  The lazy values read
storage and never write to it, so a run of the writer changes the properties of
its own token at most.  The writer itself deposits events and the log of a changed
token, which a view has to ignore.
-/

namespace UniqueChain

open Execution

variable {T : Config}

variable {collection : CollectionId} {updates : List PropertyUpdate} {token : TokenId}
  {getTokenPropertiesRaw : State T → Token → Option TokenProperties}
  {tokenExists : State T → TokenId → Bool} {check : TokenId → Exec T Bool}
  {handle : CollectionHandle T} {properties : List Property} {mintTargetIsSender : Bool}
  {sender : T.CrossAccountId}

/-! ## Compositional properties of the writer -/

/-- A compositional property that an execution has if it fails with an error of
the pallet `common`, reads the storage of that pallet or deposits an event. -/
structure WriterAnalysis (A : (α : Type) → Exec T α → Prop) (E : Failure → Prop) : Prop
    extends Compositional A E where
  common : ∀ error : CommonError, E error
  readCommon : ∀ {α : Type} {f : State T → α},
    (∀ s s' : State T, s'.common = s.common → f s' = f s) → A α (read >>= fun s => Pure.pure (f s))
  depositEvent : ∀ event, A Unit (update (·.depositEvent event))

/-- The answer of the owner check, with its error raised. -/
def ownerAnswer (lazy : LazyValue T (Except Failure Bool)) : Exec T Bool := do
  let answer ← lazy.value
  match answer with
  | .ok isOwner => pure isOwner
  | .error error => fail error

/-- A check whose error is kept and raised again is the check itself. -/
theorem ownerAnswer_attempt (check : Exec T Bool) :
    ownerAnswer (.pending (attempt check)) = check := by
  unfold ownerAnswer
  rw [LazyValue.value_pending]
  ext s
  rw [run_attempt_bind]
  cases check.run s <;> rfl

/-- What a writer hands on from one new token to the next has the property. -/
structure PropertyWriterLazyCollectionInfo.All (A : (α : Type) → Exec T α → Prop)
    (info : PropertyWriterLazyCollectionInfo T) : Prop where
  isCollectionAdmin : A Bool info.isCollectionAdmin.value
  propertyPermissions : A PropertiesPermissionMap info.propertyPermissions.value

/-- All lazy values of the writer have the property. -/
structure PropertyWriterInfo.All (A : (α : Type) → Exec T α → Prop) (info : PropertyWriterInfo T) :
    Prop where
  collection : info.collection.All A
  isTokenExist : A Bool info.token.isTokenExist.value
  isTokenOwner : A Bool (ownerAnswer info.token.isTokenOwner)
  storedProperties : A TokenProperties info.token.storedProperties.value

namespace WriterAnalysis

variable {A : (α : Type) → Exec T α → Prop} {E : Failure → Prop} {info : PropertyWriterInfo T}

theorem forceIsCollectionAdmin (hA : WriterAnalysis A E) (hinfo : info.All A) :
    Yields A (fun result => result.2.All A) info.forceIsCollectionAdmin :=
  hA.yields_bind (.of_holds hinfo.collection.isCollectionAdmin) fun value _ =>
    hA.yields_pure { hinfo with
      collection := { hinfo.collection with isCollectionAdmin := hA.pure value } }

theorem forcePropertyPermissions (hA : WriterAnalysis A E) (hinfo : info.All A) :
    Yields A (fun result => result.2.All A) info.forcePropertyPermissions :=
  hA.yields_bind (.of_holds hinfo.collection.propertyPermissions) fun value _ =>
    hA.yields_pure { hinfo with
      collection := { hinfo.collection with propertyPermissions := hA.pure value } }

theorem forceIsTokenExist (hA : WriterAnalysis A E) (hinfo : info.All A) :
    Yields A (fun result => result.2.All A) info.forceIsTokenExist :=
  hA.yields_bind (.of_holds hinfo.isTokenExist) fun value _ =>
    hA.yields_pure { hinfo with isTokenExist := hA.pure value }

theorem forceStoredProperties (hA : WriterAnalysis A E) (hinfo : info.All A) :
    Yields A (fun result => result.2.All A) info.forceStoredProperties :=
  hA.yields_bind (.of_holds hinfo.storedProperties) fun value _ =>
    hA.yields_pure { hinfo with storedProperties := hA.pure value }

/-- The owner check is forced, and its answer is remembered if it is no error. -/
theorem forceIsTokenOwner_eq (info : PropertyWriterInfo T) :
    info.forceIsTokenOwner = ownerAnswer info.token.isTokenOwner >>= fun isOwner =>
      pure (isOwner, { info with
        token := { info.token with isTokenOwner := .computed (.ok isOwner) } }) := by
  unfold PropertyWriterInfo.forceIsTokenOwner ownerAnswer
  rw [bind_assoc]
  refine congrArg (info.token.isTokenOwner.value >>= ·) (funext fun answer => ?_)
  cases answer <;> rfl

section

variable (hA : WriterAnalysis A E) {collectionAdmin tokenOwner : Bool}

include hA

section

variable (hinfo : info.All A)

include hinfo

theorem forceIsTokenOwner : Yields A (fun result => result.2.All A) info.forceIsTokenOwner := by
  rw [forceIsTokenOwner_eq]
  refine hA.yields_bind (.of_holds hinfo.isTokenOwner) fun isOwner _ => ?_
  exact hA.yields_pure { hinfo with isTokenOwner := hA.pure isOwner }

theorem isPermitted :
    Yields A (fun result => result.2.All A)
      (UniqueChain.isPermitted collectionAdmin tokenOwner info) := by
  have hadmin : Yields A (fun result => result.2.All A)
      (isPermittedAsAdmin collectionAdmin info) :=
    Compositional.yields_ite (fun _ => hA.forceIsCollectionAdmin hinfo) fun _ =>
      hA.yields_pure hinfo
  refine hA.yields_bind hadmin fun result hinfo' => ?_
  refine Compositional.yields_ite (fun _ => hA.yields_pure hinfo') fun _ => ?_
  exact Compositional.yields_ite (fun _ => hA.forceIsTokenOwner hinfo') fun _ =>
    hA.yields_pure hinfo'

theorem checkTokenPermissions :
    Yields A (fun info => info.All A)
      (UniqueChain.checkTokenPermissions collectionAdmin tokenOwner info) := by
  refine hA.yields_bind (hA.isPermitted hinfo) fun permitted hpermitted => ?_
  refine hA.yields_bind (.of_holds (hA.ensure (hA.common _))) fun _ _ => ?_
  have hexist : Yields A (fun result => result.2.All A)
      (tokenExistDueToOwnerCheckSuccess permitted.2) :=
    Compositional.yields_ite (fun _ => hA.forceIsTokenOwner hpermitted) fun _ =>
      hA.yields_pure hpermitted
  refine hA.yields_bind hexist fun exist hinfo' => ?_
  refine Compositional.yields_ite (fun _ => hA.yields_pure hinfo') fun _ => ?_
  refine hA.yields_bind (hA.forceIsTokenExist hinfo') fun found hfound => ?_
  exact hA.yields_bind (.of_holds (hA.ensure (hA.common _))) fun _ _ => hA.yields_pure hfound

theorem checkMutable {permission : PropertyPermission} {key : PropertyKey} :
    Yields A (fun info => info.All A) (UniqueChain.checkMutable permission key info) := by
  refine Compositional.yields_ite (fun _ => hA.yields_pure hinfo) fun _ => ?_
  refine hA.yields_bind (hA.forceStoredProperties hinfo) fun stored hstored => ?_
  exact hA.yields_bind (.of_holds (hA.ensure (hA.common _))) fun _ _ => hA.yields_pure hstored

omit hinfo in
theorem ofProperties {α : Type} {result : Except PropertiesError α} :
    A α (UniqueChain.ofProperties result) := by
  cases result with
  | ok value => exact hA.pure value
  | error error => exact hA.fail (hA.common _)

theorem writeTokenProperty {update : PropertyUpdate} :
    Yields A (fun info => info.All A)
      (UniqueChain.writeTokenProperty collection token update info) := by
  refine hA.yields_bind (hA.forcePropertyPermissions hinfo) fun permissions hinfo₁ => ?_
  refine hA.yields_bind (hA.checkMutable hinfo₁) fun info₂ hinfo₂ => ?_
  refine hA.yields_bind (hA.checkTokenPermissions hinfo₂) fun info₃ hinfo₃ => ?_
  refine hA.yields_bind (hA.forceStoredProperties hinfo₃) fun stored hstored => ?_
  refine hA.yields_bind (.of_holds hA.ofProperties) fun properties _ => ?_
  refine hA.yields_bind (.of_holds (hA.depositEvent _)) fun _ _ => ?_
  exact hA.yields_pure { hstored with storedProperties := hA.pure properties }

theorem writeTokenPropertyLoop :
    Yields A (fun info => info.All A)
      (UniqueChain.writeTokenPropertyLoop collection token updates info) := by
  induction updates generalizing info with
  | nil => exact hA.yields_pure hinfo
  | cons update rest ih =>
    exact hA.yields_bind (hA.writeTokenProperty hinfo) fun info' hinfo' => ih hinfo'

end

/-- What a writer knows of the collection at first. -/
theorem newCollectionInfo (handle : CollectionHandle T)
    (sender : T.CrossAccountId) : (PropertyWriterLazyCollectionInfo.new handle sender).All A where
  isCollectionAdmin := by
    unfold PropertyWriterLazyCollectionInfo.new
    rw [LazyValue.value_pending]
    refine hA.readCommon fun s s' hcommon => ?_
    unfold CollectionHandle.isOwnerOrAdmin
    rw [hcommon]
  propertyPermissions := by
    unfold PropertyWriterLazyCollectionInfo.new
    rw [LazyValue.value_pending]
    refine hA.readCommon fun s s' hcommon => ?_
    rw [hcommon]

end

section Write

variable {setTokenPropertiesRaw : Token → TokenProperties → State T → State T}
  {collection : CollectionId} {token : TokenId}
  (hwrite : ∀ properties, A Unit (update fun s => setTokenPropertiesRaw (collection, token)
    properties (s.depositLog T.contractAddress (.tokenChanged token))))

include hwrite

theorem internalWriteTokenProperties (hA : WriterAnalysis A E) (hinfo : info.All A) :
    Yields A (fun info => info.All A) (UniqueChain.internalWriteTokenProperties
      setTokenPropertiesRaw collection token info updates) := by
  refine hA.yields_bind (hA.writeTokenPropertyLoop hinfo) fun info' hinfo' => ?_
  split
  · exact hA.yields_bind (.of_holds (hwrite _)) fun _ _ => hA.yields_pure hinfo'.collection
  · exact hA.yields_pure hinfo'.collection

theorem writeNewTokenProperties (hA : WriterAnalysis A E)
    {info : PropertyWriterLazyCollectionInfo T} (hinfo : info.All A) :
    Yields A (fun info => info.All A) (UniqueChain.writeNewTokenProperties
      setTokenPropertiesRaw collection info mintTargetIsSender token properties) :=
  hA.internalWriteTokenProperties hwrite
    ⟨hinfo, hA.pure true, hA.pure mintTargetIsSender, hA.pure Properties.new⟩

theorem writeExistingTokenProperties (hA : WriterAnalysis A E)
    (hcollection : handle.id = collection)
    (hexists : A Bool (read >>= fun s => Pure.pure (tokenExists s token)))
    (hcheck : A Bool (check token)) (hstored : A TokenProperties (read >>= fun s =>
      Pure.pure ((getTokenPropertiesRaw s (handle.id, token)).getD Properties.new))) :
    A Unit (UniqueChain.writeExistingTokenProperties setTokenPropertiesRaw tokenExists check
      getTokenPropertiesRaw handle sender token updates) := by
  subst hcollection
  refine hA.bind (hA.internalWriteTokenProperties hwrite ?_).holds fun _ _ => hA.pure ()
  refine ⟨hA.newCollectionInfo handle sender, ?_, ?_, ?_⟩
  · rwa [LazyValue.value_pending]
  · rwa [ownerAnswer_attempt]
  · rwa [LazyValue.value_pending]

end Write

end WriterAnalysis

/-! ## Views of the state -/

variable {ν : Type} {view : State T → ν}

theorem writerAnalysis_preserves [IgnoresRecords view] :
    WriterAnalysis (fun _ body => Preserves view body) fun _ => True where
  toCompositional := compositional_preserves
  common _ := trivial
  readCommon _ := .bind .read fun _ => .pure
  depositEvent event := .update (IgnoresRecords.depositEvent event)

theorem preserves_value_pending {α : Type} {compute : Exec T α}
    (hcompute : Preserves view compute) : Preserves view (LazyValue.pending compute).value := by
  rwa [LazyValue.value_pending]

/-- What is known of the collection stays quiet from one new token to the next. -/
abbrev QuietCollectionInfo (view : State T → ν) (info : PropertyWriterLazyCollectionInfo T) :
    Prop :=
  info.All fun _ body => Preserves view body

/-- The writer changes the properties of its own token at most. -/
theorem internalWriteTokenProperties_ok [IgnoresRecords view]
    {setTokenPropertiesRaw : Token → TokenProperties → State T → State T}
    {info : PropertyWriterInfo T} {info' : PropertyWriterLazyCollectionInfo T} {s s' : State T}
    (hinfo : info.All fun _ body => Preserves view body)
    (hrun : (internalWriteTokenProperties setTokenPropertiesRaw collection token info
      updates).run s = .ok info' s') :
    (∃ s₁, view s₁ = view s ∧
        (s' = s₁ ∨ ∃ properties, s' = setTokenPropertiesRaw (collection, token) properties s₁)) ∧
      QuietCollectionInfo view info' := by
  obtain ⟨info₁, s₁, hloop, hrun⟩ := bind_ok.mp hrun
  obtain ⟨hkept, hreturned⟩ := writerAnalysis_preserves.writeTokenPropertyLoop hinfo
  have hview := hkept.of_ok hloop
  have hquiet := (hreturned info₁ ⟨s, s₁, hloop⟩).collection
  split at hrun
  · rename_i properties hstored
    simp only [update_bind_ok, pure_ok] at hrun
    obtain ⟨rfl, rfl⟩ := hrun
    exact ⟨⟨s₁.depositLog T.contractAddress (.tokenChanged token),
      (IgnoresRecords.tokenChanged _ _ _).trans hview, .inr ⟨properties, rfl⟩⟩, hquiet⟩
  · obtain ⟨rfl, rfl⟩ := pure_ok.mp hrun
    exact ⟨⟨s₁, hview, .inl rfl⟩, hquiet⟩

section Callers

variable {setTokenPropertiesRaw : Token → TokenProperties → State T → State T} {s s' : State T}
  [IgnoresRecords view]

theorem writeNewTokenProperties_ok
    {info info' : PropertyWriterLazyCollectionInfo T} (hinfo : QuietCollectionInfo view info)
    (hrun : (writeNewTokenProperties setTokenPropertiesRaw collection info mintTargetIsSender
      token properties).run s = .ok info' s') :
    (∃ s₁, view s₁ = view s ∧
        (s' = s₁ ∨ ∃ properties, s' = setTokenPropertiesRaw (collection, token) properties s₁)) ∧
      QuietCollectionInfo view info' :=
  internalWriteTokenProperties_ok ⟨hinfo, .pure, .pure, .pure⟩ hrun

theorem writeExistingTokenProperties_ok (hcheck : Preserves view (check token))
    (hrun : (writeExistingTokenProperties setTokenPropertiesRaw tokenExists check
      getTokenPropertiesRaw handle sender token updates).run s = .ok () s') :
    ∃ s₁, view s₁ = view s ∧
      (s' = s₁ ∨ ∃ properties, s' = setTokenPropertiesRaw (handle.id, token) properties s₁) := by
  obtain ⟨info', middle, hwrite, hrun⟩ := bind_ok.mp hrun
  obtain ⟨_, rfl⟩ := pure_ok.mp hrun
  refine (internalWriteTokenProperties_ok ?_ hwrite).1
  exact ⟨writerAnalysis_preserves.newCollectionInfo handle sender,
    preserves_value_pending (.bind .read fun _ => .pure),
    (ownerAnswer_attempt (check token)).symm ▸ hcheck,
    preserves_value_pending (.bind .read fun _ => .pure)⟩

end Callers

end UniqueChain
