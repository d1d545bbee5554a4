import VentureOS.ControlPlane.Workspaces

/-! # Agreement on a workspace, and local writes

Two planes agree on a workspace if they hold the same records of it, in the same order, and have the
same calls of it suspended. Call numbers stand for the identity of a promise and mean nothing outside
their plane, so suspended calls are compared in their order and without their numbers.

A write is local to a workspace if it commutes with the restriction to it and is not seen in any
other. Every write of the control plane is local to the workspace of its record, and `InStep` says
what local writes keep along two runs of a call. -/

namespace VentureOS.ControlPlane

open Program

/-! ## Agreement -/

/-- The planes hold the same records of the workspace and suspend the same calls of it. -/
structure Agree (workspaceId : EntityId) (plane plane' : Plane) : Prop where
  records : plane.within workspaceId = plane'.within workspaceId
  starts : (plane.startsOf workspaceId).map Prod.snd = (plane'.startsOf workspaceId).map Prod.snd
  cancellations : (plane.cancellationsOf workspaceId).map Prod.snd
    = (plane'.cancellationsOf workspaceId).map Prod.snd

/-- Nothing of the workspace has changed, its suspended calls and their numbers included. -/
structure Unchanged (workspaceId : EntityId) (plane plane' : Plane) : Prop where
  records : plane'.within workspaceId = plane.within workspaceId
  starts : plane'.startsOf workspaceId = plane.startsOf workspaceId
  cancellations : plane'.cancellationsOf workspaceId = plane.cancellationsOf workspaceId

theorem Unchanged.refl (workspaceId : EntityId) (plane : Plane) :
    Unchanged workspaceId plane plane := ⟨rfl, rfl, rfl⟩

variable {workspaceId : EntityId}

theorem Unchanged.trans {a b c : Plane} (h : Unchanged workspaceId a b)
    (h' : Unchanged workspaceId b c) : Unchanged workspaceId a c :=
  ⟨h'.records.trans h.records, h'.starts.trans h.starts, h'.cancellations.trans h.cancellations⟩

variable {plane : Plane}

/-- What depends on the records of the workspace only is the same on planes that agree. -/
theorem Agree.eq_of_within {plane' : Plane} {α : Type}
    (h : Agree workspaceId plane plane') {f : Plane → α}
    (hf : ∀ plane, f (plane.within workspaceId) = f plane) : f plane = f plane' := by
  rw [← hf plane, h.records, hf plane']

/-- Call numbers from `adapterCalls` on are not in use. -/
def Numbered (plane : Plane) : Prop :=
  ∀ number, plane.adapterCalls ≤ number →
    plane.pendingStarts.get? number = none ∧ plane.pendingCancellations.get? number = none

variable {σ : Type}

/-- Two runs of a call, in lockstep: the planes agree on the workspace of the caller, and the first
has changed nothing outside of it since `start`. -/
structure InStep (workspaceId : EntityId) (start : Plane) (w w' : World σ) : Prop where
  agree : Agree workspaceId w.plane w'.plane
  outside : ∀ other, other ≠ workspaceId → Unchanged other start w.plane
  numbered : Numbered w.plane
  numbered' : Numbered w'.plane

/-! ## Local writes -/

/-- The write concerns the records of one workspace and no suspended call. -/
structure Local (workspaceId : EntityId) (f : Plane → Plane) : Prop where
  inside : ∀ plane, (f plane).within workspaceId = f (plane.within workspaceId)
  outside : ∀ plane other, other ≠ workspaceId → (f plane).within other = plane.within other
  starts : ∀ plane, (f plane).pendingStarts = plane.pendingStarts
  cancellations : ∀ plane, (f plane).pendingCancellations = plane.pendingCancellations
  calls : ∀ plane, (f plane).adapterCalls = plane.adapterCalls

variable {f : Plane → Plane}

theorem Local.unchanged (h : Local workspaceId f)
    (plane : Plane) {other : EntityId} (hother : other ≠ workspaceId) :
    Unchanged other plane (f plane) := by
  refine ⟨h.outside plane other hother, ?_, ?_⟩
  · rw [Plane.startsOf, h.starts]
  · rw [Plane.cancellationsOf, h.cancellations]

theorem Local.numbered (h : Local workspaceId f)
    (hnumbered : Numbered plane) : Numbered (f plane) := by
  intro number hnumber
  rw [h.calls] at hnumber
  rw [h.starts, h.cancellations]
  exact hnumbered number hnumber

theorem Local.agree (h : Local workspaceId f)
    {plane' : Plane} (hagree : Agree workspaceId plane plane') :
    Agree workspaceId (f plane) (f plane') := by
  refine ⟨?_, ?_, ?_⟩
  · rw [h.inside, h.inside, hagree.records]
  · rw [Plane.startsOf, Plane.startsOf, h.starts, h.starts]
    exact hagree.starts
  · rw [Plane.cancellationsOf, Plane.cancellationsOf, h.cancellations, h.cancellations]
    exact hagree.cancellations

/-- A local write on both sides keeps the two runs in step. -/
theorem InStep.write {start : Plane} {w w' : World σ}
    (h : InStep workspaceId start w w') (hf : Local workspaceId f) :
    InStep workspaceId start { w with plane := f w.plane } { w' with plane := f w'.plane } where
  agree := hf.agree h.agree
  outside := fun other hother => (h.outside other hother).trans (hf.unchanged w.plane hother)
  numbered := hf.numbered h.numbered
  numbered' := hf.numbered h.numbered'

section Keys

variable {other : EntityId}

theorem inWorkspace_self (workspaceId id : EntityId) :
    inWorkspace workspaceId (key workspaceId id) = true := by
  simp

theorem inWorkspace_of_ne (h : other ≠ workspaceId) (id : EntityId) :
    inWorkspace other (key workspaceId id) = false := by
  simp [Ne.symm h]

/-- Marking a run of the workspace. -/
theorem filter_insert_self (id : EntityId) (marks : Finset Key) :
    (insert (key workspaceId id) marks).filter (fun k => inWorkspace workspaceId k = true)
      = insert (key workspaceId id) (marks.filter fun k => inWorkspace workspaceId k = true) := by
  rw [Finset.filter_insert, if_pos (inWorkspace_self workspaceId id)]

/-- Marking a run of another workspace. -/
theorem filter_insert_of_ne (h : other ≠ workspaceId) (id : EntityId) (marks : Finset Key) :
    (insert (key workspaceId id) marks).filter (fun k => inWorkspace other k = true)
      = marks.filter fun k => inWorkspace other k = true := by
  rw [Finset.filter_insert, if_neg (by simp [Ne.symm h])]

/-- Erasing the mark of a run of another workspace. -/
theorem filter_erase_of_ne (h : other ≠ workspaceId) (id : EntityId) (marks : Finset Key) :
    (marks.erase (key workspaceId id)).filter (fun k => inWorkspace other k = true)
      = marks.filter fun k => inWorkspace other k = true := by
  rw [Finset.filter_erase, Finset.erase_eq_of_notMem]
  simp [Ne.symm h]

end Keys

section Writes

/-- A write that leaves the suspended calls alone. -/
theorem Local.of_records
    (inside : ∀ plane, (f plane).within workspaceId = f (plane.within workspaceId))
    (outside : ∀ plane other, other ≠ workspaceId → (f plane).within other = plane.within other)
    (calls : ∀ plane, (f plane).pendingStarts = plane.pendingStarts
      ∧ (f plane).pendingCancellations = plane.pendingCancellations
      ∧ (f plane).adapterCalls = plane.adapterCalls) : Local workspaceId f :=
  ⟨inside, outside, fun plane => (calls plane).1, fun plane => (calls plane).2.1, fun plane => (calls plane).2.2⟩

/-- Local writes one after the other. -/
theorem Local.comp {g : Plane → Plane} (hg : Local workspaceId g) (hf : Local workspaceId f) :
    Local workspaceId fun plane => g (f plane) where
  inside := fun plane => by rw [hg.inside, hf.inside]
  outside := fun plane other hother => by rw [hg.outside _ other hother, hf.outside _ other hother]
  starts := fun plane => by rw [hg.starts, hf.starts]
  cancellations := fun plane => by rw [hg.cancellations, hf.cancellations]
  calls := fun plane => by rw [hg.calls, hf.calls]

/-- A store of the plane: how it is read and how it is replaced. -/
structure StoreField (V : Type) [HasKey Key V] where
  get : Plane → Store Key V
  set : Store Key V → Plane → Plane
  get_within : ∀ plane w, get (plane.within w) = (get plane).restrict (inWorkspace w) := by
    intros; rfl
  set_within : ∀ plane w records,
      (set records plane).within w = set (records.restrict (inWorkspace w)) (plane.within w) := by
    intros; rfl
  set_get : ∀ plane, set (get plane) plane = plane := by intros; rfl
  calls : ∀ records plane, (set records plane).pendingStarts = plane.pendingStarts
      ∧ (set records plane).pendingCancellations = plane.pendingCancellations
      ∧ (set records plane).adapterCalls = plane.adapterCalls := by
    intros; exact ⟨rfl, rfl, rfl⟩

/-- Writing a record of the workspace is local. -/
theorem Local.put {V : Type} [HasKey Key V] (field : StoreField V) (record : V)
    (hrecord : (keyOf record).1 = workspaceId) :
    Local workspaceId fun plane => field.set ((field.get plane).put record) plane := by
  refine Local.of_records (fun plane => ?_) (fun plane other hother => ?_)
    fun plane => field.calls _ plane
  · have hin : inWorkspace workspaceId (keyOf record) = true := decide_eq_true hrecord
    rw [field.set_within, Store.restrict_put_of_mem hin, field.get_within]
  · have hout : inWorkspace other (keyOf record) = false :=
      decide_eq_false fun h => hother (h.symm.trans hrecord)
    rw [field.set_within, Store.restrict_put_of_not_mem hout, ← field.get_within, field.set_get]

/-- The store `runtimes` of the plane. -/
def runtimesField : StoreField Runtime where
  get := Plane.runtimes
  set := fun records plane => { plane with runtimes := records }

/-- The store `agents` of the plane. -/
def agentsField : StoreField Agent where
  get := Plane.agents
  set := fun records plane => { plane with agents := records }

/-- The store `capabilities` of the plane. -/
def capabilitiesField : StoreField Capability where
  get := Plane.capabilities
  set := fun records plane => { plane with capabilities := records }

/-- The store `agentCapabilities` of the plane. -/
def agentCapabilitiesField : StoreField AgentCapability where
  get := Plane.agentCapabilities
  set := fun records plane => { plane with agentCapabilities := records }

/-- The store `tools` of the plane. -/
def toolsField : StoreField Tool where
  get := Plane.tools
  set := fun records plane => { plane with tools := records }

/-- The store `toolGrants` of the plane. -/
def toolGrantsField : StoreField ToolGrant where
  get := Plane.toolGrants
  set := fun records plane => { plane with toolGrants := records }

/-- The store `authorityGrants` of the plane. -/
def authorityGrantsField : StoreField AuthorityGrant where
  get := Plane.authorityGrants
  set := fun records plane => { plane with authorityGrants := records }

/-- The store `heartbeats` of the plane. -/
def heartbeatsField : StoreField Heartbeat where
  get := Plane.heartbeats
  set := fun records plane => { plane with heartbeats := records }

/-- The store `eventsById` of the plane. -/
def eventsByIdField : StoreField ControlPlaneEvent where
  get := Plane.eventsById
  set := fun records plane => { plane with eventsById := records }

/-- The store `usage` of the plane. -/
def usageField : StoreField UsageRecord where
  get := Plane.usage
  set := fun records plane => { plane with usage := records }

/-- The store `connections` of the plane. -/
def connectionsField : StoreField RuntimeConnection where
  get := Plane.connections
  set := fun records plane => { plane with connections := records }

/-- The store `tasks` of the plane. -/
def tasksField : StoreField ControlPlaneTask where
  get := Plane.tasks
  set := fun records plane => { plane with tasks := records }

/-- The store `runs` of the plane. -/
def runsField : StoreField AgentRun where
  get := Plane.runs
  set := fun records plane => { plane with runs := records }

/-- Deleting a connection is local. -/
theorem local_deleteConnection (id : EntityId) :
    Local workspaceId fun plane => { plane with
      connections := plane.connections.delete (key workspaceId id) } := by
  refine Local.of_records (fun plane => ?_) (fun plane other hother => ?_) fun _ => ⟨rfl, rfl, rfl⟩
  · simp only [Plane.within, Store.restrict_delete]
  · simp only [Plane.within, Store.restrict_delete_of_not_mem (inWorkspace_of_ne hother id)]

/-- Registering an adapter is local. -/
theorem local_register (id : EntityId) (registration : AdapterRegistration) :
    Local workspaceId fun plane => { plane with
      runtimeAdapters := plane.runtimeAdapters.set (key workspaceId id) registration } := by
  refine Local.of_records (fun plane => ?_) (fun plane other hother => ?_) fun _ => ⟨rfl, rfl, rfl⟩
  · simp only [Plane.within, OrderedMap.restrict_set_of_mem (inWorkspace_self workspaceId id)]
  · simp only [Plane.within, OrderedMap.restrict_set_of_not_mem (inWorkspace_of_ne hother id)]

/-- Filing the idempotency key of an event is local. -/
theorem local_idempotency (idempotencyKey id : EntityId) :
    Local workspaceId fun plane => { plane with
      eventIdempotency := plane.eventIdempotency.set (key workspaceId idempotencyKey) id } := by
  refine Local.of_records (fun plane => ?_) (fun plane other hother => ?_) fun _ => ⟨rfl, rfl, rfl⟩
  · simp only [Plane.within, OrderedMap.restrict_set_of_mem (inWorkspace_self _ _)]
  · simp only [Plane.within, OrderedMap.restrict_set_of_not_mem (inWorkspace_of_ne hother _)]

/-- Moving the task of a run along is local. -/
theorem local_tasksAfter {task : ControlPlaneTask} (htask : task.workspaceId = workspaceId)
    (status : Option TaskStatus) :
    Local workspaceId fun plane => { plane with tasks := tasksAfter plane.tasks task status } := by
  cases status with
  | none => exact ⟨fun _ => rfl, fun _ _ _ => rfl, fun _ => rfl, fun _ => rfl, fun _ => rfl⟩
  | some next => exact Local.put tasksField { task with status := next } htask

theorem local_withDispatch {runId : EntityId} {dispatch : RuntimeDispatchPermit}
    (hdispatch : dispatch.envelope.workspaceId = workspaceId) :
    Local workspaceId fun plane => plane.withDispatch (key workspaceId runId) dispatch := by
  refine Local.of_records (fun plane => ?_) (fun plane other hother => ?_) fun _ => ⟨rfl, rfl, rfl⟩
  · simp only [Plane.within, Plane.withDispatch, hdispatch, filter_insert_self,
      OrderedMap.restrict_set_of_mem (inWorkspace_self _ _)]
  · simp only [Plane.within, Plane.withDispatch, hdispatch, filter_insert_of_ne hother,
      OrderedMap.restrict_set_of_not_mem (inWorkspace_of_ne hother _)]

theorem local_dropDispatch (dispatchId runId : EntityId) :
    Local workspaceId fun plane =>
      plane.dropDispatch (key workspaceId dispatchId) (key workspaceId runId) := by
  refine Local.of_records (fun plane => ?_) (fun plane other hother => ?_) fun _ => ⟨rfl, rfl, rfl⟩
  · simp only [Plane.within, Plane.dropDispatch, OrderedMap.restrict_delete, Finset.filter_erase]
  · simp only [Plane.within, Plane.dropDispatch, filter_erase_of_ne hother,
      OrderedMap.restrict_delete_of_not_mem (inWorkspace_of_ne hother _)]

theorem local_claimDispatch (dispatchId runId registrationId : EntityId) :
    Local workspaceId fun plane => plane.claimDispatch (key workspaceId dispatchId)
      (key workspaceId runId) registrationId := by
  refine Local.of_records (fun plane => ?_) (fun plane other hother => ?_) fun _ => ⟨rfl, rfl, rfl⟩
  · simp only [Plane.within, Plane.claimDispatch, OrderedMap.restrict_delete, filter_insert_self,
      OrderedMap.restrict_set_of_mem (inWorkspace_self _ _)]
  · simp only [Plane.within, Plane.claimDispatch, filter_insert_of_ne hother,
      OrderedMap.restrict_delete_of_not_mem (inWorkspace_of_ne hother _),
      OrderedMap.restrict_set_of_not_mem (inWorkspace_of_ne hother _)]

theorem local_releaseStart (runId : EntityId) :
    Local workspaceId fun plane => plane.releaseStart (key workspaceId runId) := by
  refine Local.of_records (fun plane => ?_) (fun plane other hother => ?_) fun _ => ⟨rfl, rfl, rfl⟩
  · simp only [Plane.within, Plane.releaseStart, OrderedMap.restrict_delete]
  · simp only [Plane.within, Plane.releaseStart, OrderedMap.restrict_delete_of_not_mem (inWorkspace_of_ne hother _)]

theorem local_withCancellation (cancellation : RuntimeCancellationPermit) :
    Local workspaceId fun plane => plane.withCancellation workspaceId cancellation := by
  refine Local.of_records (fun plane => ?_) (fun plane other hother => ?_) fun _ => ⟨rfl, rfl, rfl⟩
  · simp only [Plane.within, Plane.withCancellation, filter_insert_self,
      OrderedMap.restrict_set_of_mem (inWorkspace_self _ _)]
  · simp only [Plane.within, Plane.withCancellation, filter_insert_of_ne hother,
      OrderedMap.restrict_set_of_not_mem (inWorkspace_of_ne hother _)]

theorem local_dropCancellation (cancellationId runId : EntityId) :
    Local workspaceId fun plane =>
      plane.dropCancellation (key workspaceId cancellationId) (key workspaceId runId) := by
  refine Local.of_records (fun plane => ?_) (fun plane other hother => ?_) fun _ => ⟨rfl, rfl, rfl⟩
  · simp only [Plane.within, Plane.dropCancellation, OrderedMap.restrict_delete, Finset.filter_erase]
  · simp only [Plane.within, Plane.dropCancellation, filter_erase_of_ne hother,
      OrderedMap.restrict_delete_of_not_mem (inWorkspace_of_ne hother _)]

theorem local_claimCancellation (cancellationId : EntityId) :
    Local workspaceId fun plane => plane.claimCancellation (key workspaceId cancellationId) := by
  refine Local.of_records (fun plane => ?_) (fun plane other hother => ?_) fun _ => ⟨rfl, rfl, rfl⟩
  · simp only [Plane.within, Plane.claimCancellation, OrderedMap.restrict_delete]
  · simp only [Plane.within, Plane.claimCancellation,
      OrderedMap.restrict_delete_of_not_mem (inWorkspace_of_ne hother _)]

theorem local_reopenCancellation (runId : EntityId) :
    Local workspaceId fun plane => plane.reopenCancellation (key workspaceId runId) := by
  refine Local.of_records (fun plane => ?_) (fun plane other hother => ?_) fun _ => ⟨rfl, rfl, rfl⟩
  · simp only [Plane.within, Plane.reopenCancellation, Finset.filter_erase]
  · simp only [Plane.within, Plane.reopenCancellation, filter_erase_of_ne hother]

theorem local_cancelled (runId : EntityId) :
    Local workspaceId fun plane => { plane with
      successfulCancellations := insert (key workspaceId runId) plane.successfulCancellations } := by
  refine Local.of_records (fun plane => ?_) (fun plane other hother => ?_) fun _ => ⟨rfl, rfl, rfl⟩
  · simp only [Plane.within, filter_insert_self]
  · simp only [Plane.within, filter_insert_of_ne hother]

end Writes

/-! ## Suspended calls -/

variable {number : Nat}

variable {i number' : Nat}

section Calls

variable {start : Plane} {w w' : World σ}

section Positions

variable {F : Type} {workspaceOf : F → EntityId} {calls : OrderedMap Nat F}

/-- A new call is suspended after the others of its workspace. -/
theorem callsOf_set (hfresh : calls.get? number = none) (frame : F)
    (workspaceId : EntityId) :
    callsOf workspaceOf (calls.set number frame) workspaceId = callsOf workspaceOf calls workspaceId
      ++ if workspaceOf frame = workspaceId then [(number, frame)] else [] := by
  have hentries : (calls.set number frame).entries = calls.entries ++ [(number, frame)] :=
    setEntry_of_lookup_none frame hfresh
  rw [callsOf, hentries, List.filter_append]
  by_cases h : workspaceOf frame = workspaceId
  · simp [h, callsOf]
  · simp [h, callsOf]

variable {frame : F}

/-- The same new call is suspended on both sides. -/
theorem map_snd_callsOf_set {calls' : OrderedMap Nat F}
    (heq : (callsOf workspaceOf calls workspaceId).map Prod.snd
      = (callsOf workspaceOf calls' workspaceId).map Prod.snd)
    (hfresh : calls.get? number = none) (hfresh' : calls'.get? number' = none)
    (h : workspaceOf frame = workspaceId) :
    (callsOf workspaceOf (calls.set number frame) workspaceId).map Prod.snd
      = (callsOf workspaceOf (calls'.set number' frame) workspaceId).map Prod.snd := by
  rw [callsOf_set hfresh, callsOf_set hfresh', if_pos h, if_pos h, List.map_append, List.map_append, heq]
  rfl

/-- The new call is not seen in another workspace. -/
theorem callsOf_set_of_ne (hfresh : calls.get? number = none)
    {other : EntityId} (h : workspaceOf frame = workspaceId)
    (hother : other ≠ workspaceId) :
    callsOf workspaceOf (calls.set number frame) other = callsOf workspaceOf calls other := by
  rw [callsOf_set hfresh, if_neg (fun heq => hother (heq.symm.trans h)), List.append_nil]

/-- A call at a position is awaited, and was made in the workspace. -/
theorem get?_of_callsOf (h : (callsOf workspaceOf calls workspaceId)[i]? = some (number, frame)) :
    calls.get? number = some frame ∧ workspaceOf frame = workspaceId := by
  obtain ⟨hmem, hws⟩ := List.mem_filter.mp (List.mem_of_getElem? h)
  exact ⟨(lookupEntry_eq_some calls.nodup_keys).mpr hmem, of_decide_eq_true hws⟩

/-- Taking a call out removes it from its position. -/
theorem callsOf_delete (h : (callsOf workspaceOf calls workspaceId)[i]? = some (number, frame)) :
    callsOf workspaceOf (calls.delete number) workspaceId
      = (callsOf workspaceOf calls workspaceId).eraseIdx i := by
  have hnodup : ((callsOf workspaceOf calls workspaceId).map Prod.fst).Nodup :=
    calls.nodup_keys.sublist (List.filter_sublist.map Prod.fst)
  rw [← filter_ne_eq_eraseIdx hnodup h, callsOf, callsOf, OrderedMap.delete]
  exact List.filter_comm _ _ _

/-- Taking a call out is not seen in another workspace. -/
theorem callsOf_delete_of_ne {other : EntityId}
    (h : (callsOf workspaceOf calls workspaceId)[i]? = some (number, frame))
    (hother : other ≠ workspaceId) :
    callsOf workspaceOf (calls.delete number) other = callsOf workspaceOf calls other := by
  obtain ⟨hget, hws⟩ := get?_of_callsOf h
  rw [callsOf, OrderedMap.delete, List.filter_filter, callsOf]
  refine List.filter_congr fun e he => ?_
  by_cases hnumber : e.1 = number
  · -- The deleted entry belongs to the other workspace.
    have hframe : e.2 = frame := by
      have hfound := (lookupEntry_eq_some calls.nodup_keys).mpr he
      rw [hnumber] at hfound
      exact Option.some.inj (hfound.symm.trans hget)
    have hne : ¬ workspaceOf e.2 = other := by
      rw [hframe, hws]
      exact Ne.symm hother
    simp [hne]
  · simp [hnumber]

end Positions

/-- A new call takes the next number. -/
theorem Numbered.awaitStart (h : Numbered plane) (frame : PendingStart) :
    Numbered (plane.awaitStart frame) := by
  intro number hnumber
  have hlt : plane.adapterCalls + 1 ≤ number := hnumber
  obtain ⟨hstart, hcancel⟩ := h number (by omega)
  refine ⟨?_, hcancel⟩
  show (plane.pendingStarts.set plane.adapterCalls frame).get? number = none
  rw [OrderedMap.get?_set, if_neg (by omega)]
  exact hstart

theorem Numbered.awaitCancellation (h : Numbered plane)
    (frame : PendingCancellation) : Numbered (plane.awaitCancellation frame) := by
  intro number hnumber
  have hlt : plane.adapterCalls + 1 ≤ number := hnumber
  obtain ⟨hstart, hcancel⟩ := h number (by omega)
  refine ⟨hstart, ?_⟩
  show (plane.pendingCancellations.set plane.adapterCalls frame).get? number = none
  rw [OrderedMap.get?_set, if_neg (by omega)]
  exact hcancel

/-- Taking a call out frees its number for nobody. -/
theorem Numbered.resumeStart (h : Numbered plane) (call : Nat) :
    Numbered (plane.resumeStart call) := by
  intro number hnumber
  obtain ⟨hstart, hcancel⟩ := h number hnumber
  refine ⟨?_, hcancel⟩
  show (plane.pendingStarts.delete call).get? number = none
  rw [OrderedMap.get?_delete, hstart, ite_self]

theorem Numbered.resumeCancellation (h : Numbered plane) (call : Nat) :
    Numbered (plane.resumeCancellation call) := by
  intro number hnumber
  obtain ⟨hstart, hcancel⟩ := h number hnumber
  refine ⟨hstart, ?_⟩
  show (plane.pendingCancellations.delete call).get? number = none
  rw [OrderedMap.get?_delete, hcancel, ite_self]

/-- Both sides call `adapter.start`. -/
theorem InStep.awaitStart (h : InStep workspaceId start w w') {frame : PendingStart}
    (hframe : frame.context.workspaceId = workspaceId) :
    InStep workspaceId start { w with plane := w.plane.awaitStart frame }
      { w' with plane := w'.plane.awaitStart frame } where
  agree := by
    refine ⟨h.agree.records, ?_, h.agree.cancellations⟩
    exact map_snd_callsOf_set h.agree.starts (h.numbered w.plane.adapterCalls le_rfl).1
      (h.numbered' w'.plane.adapterCalls le_rfl).1 hframe
  outside := fun other hother => by
    refine (h.outside other hother).trans ⟨rfl, ?_, rfl⟩
    exact callsOf_set_of_ne (h.numbered w.plane.adapterCalls le_rfl).1 hframe hother
  numbered := h.numbered.awaitStart frame
  numbered' := h.numbered'.awaitStart frame

/-- Both sides call `adapter.cancel`. -/
theorem InStep.awaitCancellation (h : InStep workspaceId start w w') {frame : PendingCancellation}
    (hframe : frame.context.workspaceId = workspaceId) :
    InStep workspaceId start { w with plane := w.plane.awaitCancellation frame }
      { w' with plane := w'.plane.awaitCancellation frame } where
  agree := by
    refine ⟨h.agree.records, h.agree.starts, ?_⟩
    exact map_snd_callsOf_set h.agree.cancellations (h.numbered w.plane.adapterCalls le_rfl).2
      (h.numbered' w'.plane.adapterCalls le_rfl).2 hframe
  outside := fun other hother => by
    refine (h.outside other hother).trans ⟨rfl, rfl, ?_⟩
    exact callsOf_set_of_ne (h.numbered w.plane.adapterCalls le_rfl).2 hframe hother
  numbered := h.numbered.awaitCancellation frame
  numbered' := h.numbered'.awaitCancellation frame

/-- Erasing a position of equal lists of frames. -/
theorem map_snd_eraseIdx {F : Type} {l l' : List (Nat × F)} (h : l.map Prod.snd = l'.map Prod.snd)
    (i : Nat) : (l.eraseIdx i).map Prod.snd = (l'.eraseIdx i).map Prod.snd := by
  rw [List.eraseIdx_eq_take_drop_succ, List.eraseIdx_eq_take_drop_succ, List.map_append,
    List.map_append, List.map_take, List.map_drop, List.map_take, List.map_drop, h]

/-- Both sides take out the suspended `executeDispatch` at one position. -/
theorem InStep.resumeStart (h : InStep workspaceId start w w')
    {frame frame' : PendingStart} (hcall : (w.plane.startsOf workspaceId)[i]? = some (number, frame))
    (hcall' : (w'.plane.startsOf workspaceId)[i]? = some (number', frame')) :
    InStep workspaceId start { w with plane := w.plane.resumeStart number }
      { w' with plane := w'.plane.resumeStart number' } where
  agree := by
    refine ⟨h.agree.records, ?_, h.agree.cancellations⟩
    have hleft : (w.plane.resumeStart number).startsOf workspaceId
        = (w.plane.startsOf workspaceId).eraseIdx i := callsOf_delete hcall
    have hright : (w'.plane.resumeStart number').startsOf workspaceId
        = (w'.plane.startsOf workspaceId).eraseIdx i := callsOf_delete hcall'
    rw [hleft, hright]
    exact map_snd_eraseIdx h.agree.starts i
  outside := fun other hother =>
    (h.outside other hother).trans ⟨rfl, callsOf_delete_of_ne hcall hother, rfl⟩
  numbered := h.numbered.resumeStart number
  numbered' := h.numbered'.resumeStart number'

/-- Both sides take out the suspended `executeCancellation` at one position. -/
theorem InStep.resumeCancellation (h : InStep workspaceId start w w') {frame frame' : PendingCancellation}
    (hcall : (w.plane.cancellationsOf workspaceId)[i]? = some (number, frame))
    (hcall' : (w'.plane.cancellationsOf workspaceId)[i]? = some (number', frame')) :
    InStep workspaceId start { w with plane := w.plane.resumeCancellation number }
      { w' with plane := w'.plane.resumeCancellation number' } where
  agree := by
    refine ⟨h.agree.records, h.agree.starts, ?_⟩
    have hleft : (w.plane.resumeCancellation number).cancellationsOf workspaceId
        = (w.plane.cancellationsOf workspaceId).eraseIdx i := callsOf_delete hcall
    have hright : (w'.plane.resumeCancellation number').cancellationsOf workspaceId
        = (w'.plane.cancellationsOf workspaceId).eraseIdx i := callsOf_delete hcall'
    rw [hleft, hright]
    exact map_snd_eraseIdx h.agree.cancellations i
  outside := fun other hother =>
    (h.outside other hother).trans ⟨rfl, rfl, callsOf_delete_of_ne hcall hother⟩
  numbered := h.numbered.resumeCancellation number
  numbered' := h.numbered'.resumeCancellation number'

/-- Calls at one position of planes that agree are the same call. -/
theorem frame_eq_of_map_snd_eq {F : Type} {l l' : List (Nat × F)}
    (h : l.map Prod.snd = l'.map Prod.snd) {frame frame' : F}
    (hcall : l[i]? = some (number, frame)) (hcall' : l'[i]? = some (number', frame')) :
    frame = frame' := by
  have hleft : (l.map Prod.snd)[i]? = some frame := by rw [List.getElem?_map, hcall]; rfl
  have hright : (l'.map Prod.snd)[i]? = some frame' := by rw [List.getElem?_map, hcall']; rfl
  rw [h, hright] at hleft
  exact (Option.some.inj hleft).symm

end Calls

end VentureOS.ControlPlane
