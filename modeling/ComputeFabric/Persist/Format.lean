import ComputeFabric.Core.Digest
import ComputeFabric.Protocol.Serialize

/-!
# `Persist.Format` — the durable state and the bytes of the store file

`DurableState` of `store.h`, and `Store::save` and `Store::load` of `store.cpp` between it and the bytes of the file.
The file is a 20-byte header (magic, version, body size, body checksum) and a body: a record count and the records,
each a tag, a length, a checksum and a payload. The loader first takes the body apart into records and then enters
them one after the other into an empty state. The coordinator's model treats the file as a cell that holds the last
state a `save` wrote.

`load_save` is the round trip: what `save` wrote within the loader's limits is loaded again as it was.
-/

namespace ComputeFabric

open Codec

structure StoredPlacement (D : Type) where
  taskId : ComputeTaskId
  sequence : UInt64
  decision : PlacementDecision D

/-- Durable coordinator state. A default-constructed one has epoch 1. -/
structure DurableState (D : Type) where
  epoch : CoordinatorEpoch := 1
  workloads : IdMap Workload := ∅
  tasks : IdMap (ComputeTask D) := ∅
  taskStates : IdMap TaskState := ∅
  attempts : IdMap (List (ExecutionAttempt D)) := ∅
  retryCounts : IdMap UInt32 := ∅
  placements : List (StoredPlacement D) := []

namespace Store

/-- `kStoreMagic`, "CFFS". -/
def magic : UInt32 := 0x43464653

/-- `kFormatVersion`. -/
def formatVersion : UInt32 := 1

/-- `kMaxFileSize`: 256 MiB. -/
def maxFileSize : UInt32 := (256 : UInt32) <<< 20

/-- The limit on the record count. -/
def maxRecords : UInt32 := (1 : UInt32) <<< 20

/-- `StoreRecord`. -/
structure StoreRecord where
  tag : UInt8
  payload : List UInt8

def recEpoch : UInt8 := 1
def recWorkload : UInt8 := 2
def recTask : UInt8 := 3
def recTaskState : UInt8 := 4
def recAttempt : UInt8 := 5
def recRetryCount : UInt8 := 6
def recPlacement : UInt8 := 7

variable {D : Type} [DoubleBits D]

/-! ## `Store::save` -/

def epochRecord (epoch : CoordinatorEpoch) : StoreRecord := ⟨recEpoch, putU64 epoch⟩

def workloadRecord (wl : Workload) : StoreRecord := ⟨recWorkload, serializeWorkload wl⟩

def taskRecord (t : ComputeTask D) : StoreRecord := ⟨recTask, serializeTask t⟩

def taskStateRecord (e : ComputeTaskId × TaskState) : StoreRecord := ⟨recTaskState, putId e.1 ++ putEnum e.2⟩

def attemptRecord (a : ExecutionAttempt D) : StoreRecord := ⟨recAttempt, serializeAttempt a⟩

def retryRecord (e : ComputeTaskId × UInt32) : StoreRecord := ⟨recRetryCount, putId e.1 ++ putU32 e.2⟩

def placementRecord (p : StoredPlacement D) : StoreRecord :=
  ⟨recPlacement, putId p.taskId ++ (putU64 p.sequence ++ serializePlacement p.decision)⟩

/-- The records in the order `save` writes them. -/
def records (d : DurableState D) : List StoreRecord :=
  epochRecord d.epoch ::
    (d.workloads.toList.map (fun e => workloadRecord e.2) ++
    (d.tasks.toList.map (fun e => taskRecord e.2) ++
    (d.taskStates.toList.map taskStateRecord ++
    (d.attempts.toList.flatMap (fun e => e.2.map attemptRecord) ++
    (d.retryCounts.toList.map retryRecord ++
    d.placements.map placementRecord)))))

/-- `record_count`, a 32-bit sum of sizes. -/
def recordCount (d : DurableState D) : UInt32 :=
  1 + UInt32.ofNat d.workloads.size + UInt32.ofNat d.tasks.size + UInt32.ofNat d.taskStates.size +
    d.attempts.toList.foldl (fun n e => n + UInt32.ofNat e.2.length) 0 + UInt32.ofNat d.retryCounts.size +
    UInt32.ofNat d.placements.length

def putRecord (r : StoreRecord) : List UInt8 := List.flatten [
  putU8 r.tag,
  putU32 (UInt32.ofNat r.payload.length),
  putU32 (Crc32.compute r.payload),
  r.payload]

def body (d : DurableState D) : List UInt8 := putU32 (recordCount d) ++ (records d).flatMap putRecord

/-- The file of a body. -/
def withHeader (body : List UInt8) : List UInt8 := List.flatten [
  putU32 magic,
  putU32 formatVersion,
  putU64 (UInt64.ofNat body.length),
  putU32 (Crc32.compute body),
  body]

/-- `Store::save`: the bytes written to the file. -/
def save (d : DurableState D) : List UInt8 := withHeader (body d)

/-! ## `Store::load` -/

def corrupt {X : Type} (message : String) : Except Error X := .error ⟨.corruptionDetected, text message⟩

/-- One read, and the message of the corruption it stands for when it fails. -/
def orCorrupt {X : Type} (message : String) (read : Reader X) : Decoder String X := read.mapError fun _ => message

/-- The header: magic, version, body size and body checksum. -/
def readHeader : Reader (UInt32 × UInt32 × UInt64 × UInt32) := do
  let magic ← readU32
  let version ← readU32
  let bodySize ← readU64
  let bodyCrc ← readU32
  pure (magic, version, bodySize, bodyCrc)

/-- One round of the record loop. -/
def readRecord : Decoder String StoreRecord := do
  let tag ← orCorrupt "record tag truncated" readU8
  let plen ← orCorrupt "record length invalid" (readU32Max maxFileSize)
  let pcrc ← orCorrupt "record crc truncated" readU32
  let payload ← orCorrupt "record body truncated" (readRawBytes plen)
  let _ ← orCorrupt "record payload checksum mismatch" (ensure (Crc32.compute payload = pcrc))
  pure ⟨tag, payload⟩

def readRecords : Decoder String (List StoreRecord) := do
  let n ← orCorrupt "store record count invalid" (readU32Max maxRecords)
  readRecord.times n.toNat

/-- A record's payload, read by its own reader; bytes that are left over are ignored. -/
def parse {ε X : Type} (message : String) (read : Decoder ε X) (payload : List UInt8) : Except Error X :=
  match read.run payload with
  | .error _ => corrupt message
  | .ok (x, _) => .ok x

/-- `state.attempts[a.task_id].push_back(a)`. -/
def pushAttempt (a : ExecutionAttempt D) (attempts : IdMap (List (ExecutionAttempt D))) :
    IdMap (List (ExecutionAttempt D)) :=
  attempts.insert a.taskId (attempts[a.taskId]?.getD [] ++ [a])

def readTaskState : Reader (ComputeTaskId × TaskState) := do
  let id ← readId
  let s ← readEnum
  pure (id, s)

def readRetryCount : Reader (ComputeTaskId × UInt32) := do
  let id ← readId
  let c ← readU32
  pure (id, c)

def readPlacement : Deserializer (StoredPlacement D) := do
  let taskId ← need "bad placement record" readId
  let sequence ← need "bad placement record" readU64
  let decision ← deserializePlacement
  pure { taskId, sequence, decision }

/-- One round of the second loop: enter one record. Of the attempts only committed ones are kept. -/
def applyRecord (d : DurableState D) (r : StoreRecord) : Except Error (DurableState D) :=
  if r.tag = recEpoch then do
    let epoch ← parse "epoch record malformed" readU64 r.payload
    pure { d with epoch := epoch }
  else if r.tag = recWorkload then do
    let wl ← parse "bad workload record" deserializeWorkload r.payload
    pure { d with workloads := d.workloads.insert wl.id wl }
  else if r.tag = recTask then do
    let t ← parse "bad task record" deserializeTask r.payload
    pure { d with tasks := d.tasks.insert t.id t }
  else if r.tag = recTaskState then do
    let e ← parse "bad task state record" readTaskState r.payload
    pure { d with taskStates := d.taskStates.insert e.1 e.2 }
  else if r.tag = recAttempt then do
    let a ← parse "bad attempt record" deserializeAttempt r.payload
    pure (if a.committed then { d with attempts := pushAttempt a d.attempts } else d)
  else if r.tag = recRetryCount then do
    let e ← parse "bad retry record" readRetryCount r.payload
    pure { d with retryCounts := d.retryCounts.insert e.1 e.2 }
  else if r.tag = recPlacement then do
    let p ← parse "bad placement record" readPlacement r.payload
    pure { d with placements := d.placements ++ [p] }
  else corrupt "unknown record tag"

/-- `Store::load`, of the bytes of the file. -/
def load (bytes : List UInt8) : Except Error (DurableState D) :=
  if bytes.length < 20 then corrupt "store file too small"
  else if bytes.length > maxFileSize.toNat then corrupt "store file exceeds size bound"
  else match readHeader.run bytes with
    | .error _ => corrupt "store header truncated"
    | .ok ((fileMagic, version, bodySize, bodyCrc), rest) =>
        if fileMagic ≠ magic then corrupt "store magic mismatch"
        else if version ≠ formatVersion then
          .error ⟨.persistenceError, text "store format version unsupported"⟩
        else if rest.length ≠ bodySize.toNat then corrupt "store body size mismatch (truncated)"
        else if Crc32.compute rest ≠ bodyCrc then corrupt "store body checksum mismatch"
        else match readRecords.run rest with
          | .error message => corrupt message
          | .ok (list, _) => list.foldlM applyRecord {}

/-! ## What the loader accepts -/

/-- The state is within the loader's limits, and its keys are the ids of its values. -/
structure Storable (d : DurableState D) : Prop where
  workloads : ∀ e ∈ d.workloads.toList, e.2.id = e.1 ∧ e.2.Bounded
  tasks : ∀ e ∈ d.tasks.toList, e.2.id = e.1 ∧ e.2.Bounded
  attempts : ∀ e ∈ d.attempts.toList, e.2 ≠ [] ∧ ∀ a ∈ e.2, a.committed = true ∧ a.taskId = e.1 ∧ a.Bounded
  placements : ∀ p ∈ d.placements, p.decision.Bounded
  recordTotal : (records d).length ≤ maxRecords.toNat
  fileSize : (save d).length ≤ maxFileSize.toNat

/-! ## Reading the records back -/

theorem length_flatMap_le {X : Type} {put : X → List UInt8} {xs : List X} {x : X} (hx : x ∈ xs) :
    (put x).length ≤ (xs.flatMap put).length := by
  obtain ⟨l₁, l₂, rfl⟩ := List.append_of_mem hx
  simp
  omega

/-- A record is not longer than the file it stands in. -/
theorem payload_le_file {d : DurableState D} {r : StoreRecord} (hr : r ∈ records d) :
    r.payload.length ≤ (save d).length := by
  have hrecord : (putRecord r).length ≤ ((records d).flatMap putRecord).length := length_flatMap_le hr
  have hpayload : r.payload.length ≤ (putRecord r).length := by simp [putRecord]; omega
  simp only [save, withHeader, body, List.flatten_cons, List.length_append]
  omega

theorem reads_readRecord {r : StoreRecord} (h : r.payload.length ≤ maxFileSize.toNat) :
    Reads readRecord (putRecord r) r := by
  unfold readRecord putRecord
  refine Reads.cons ((reads_readU8 r.tag).mapError _) ?_
  refine Reads.cons ((reads_readU32Max (ofNat_le h)).mapError _) ?_
  refine Reads.cons ((reads_readU32 _).mapError _) ?_
  refine Reads.cons ((reads_readRawBytes h).mapError _) ?_
  exact ((reads_ensure (decide_eq_true rfl)).mapError _).bind (Reads.pure r)

/-- The count that is written is the number of records. -/
theorem recordCount_eq (d : DurableState D) : recordCount d = UInt32.ofNat (records d).length := by
  have hattempts : ∀ (entries : List (ComputeTaskId × List (ExecutionAttempt D))) (n : Nat),
      entries.foldl (fun n e => n + UInt32.ofNat e.2.length) (UInt32.ofNat n) =
        UInt32.ofNat (n + (entries.flatMap fun e => e.2.map attemptRecord).length) := by
    intro entries
    induction entries with
    | nil => exact fun n => rfl
    | cons e rest ih =>
        intro n
        rw [List.foldl_cons, ← UInt32.ofNat_add, ih, List.flatMap_cons, List.length_append, List.length_map,
          Nat.add_assoc]
  have hfold := hattempts d.attempts.toList 0
  rw [show UInt32.ofNat 0 = 0 from rfl, Nat.zero_add] at hfold
  rw [recordCount, hfold]
  simp only [records, List.length_cons, List.length_append, List.length_map, Std.ExtTreeMap.length_toList,
    UInt32.ofNat_add]
  grind

theorem reads_readRecords {d : DurableState D} (htotal : (records d).length ≤ maxRecords.toNat)
    (hsize : (save d).length ≤ maxFileSize.toNat) : Reads readRecords (body d) (records d) := by
  have hcount : Reads (orCorrupt "store record count invalid" (readU32Max maxRecords)) (putU32 (recordCount d))
      (UInt32.ofNat (records d).length) := by
    rw [recordCount_eq]
    exact (reads_readU32Max (ofNat_le htotal)).mapError _
  refine hcount.bind ?_
  rw [toNat_ofNat_of_le htotal]
  exact reads_times fun r hr => reads_readRecord ((payload_le_file hr).trans hsize)

/-! ## Entering the records -/

theorem parse_ok {ε X : Type} (message : String) {read : Decoder ε X} {payload : List UInt8} {x : X}
    (h : Reads read payload x) : parse message read payload = .ok x := by
  have hread := h []
  rw [List.append_nil] at hread
  rw [parse, hread]

section Apply

variable (d : DurableState D)

theorem applyRecord_epoch (epoch : CoordinatorEpoch) :
    applyRecord d (epochRecord epoch) = .ok { d with epoch := epoch } := by
  have h := parse_ok "epoch record malformed" (reads_readU64 epoch)
  simp [applyRecord, epochRecord, h, bind, Except.bind, pure, Except.pure]

theorem applyRecord_workload {wl : Workload} (hwl : wl.Bounded) :
    applyRecord d (workloadRecord wl) = .ok { d with workloads := d.workloads.insert wl.id wl } := by
  have h := parse_ok "bad workload record" (reads_deserializeWorkload hwl)
  simp [applyRecord, workloadRecord, h, bind, Except.bind, pure, Except.pure, recEpoch, recWorkload]

theorem applyRecord_task {t : ComputeTask D} (ht : t.Bounded) :
    applyRecord d (taskRecord t) = .ok { d with tasks := d.tasks.insert t.id t } := by
  have h := parse_ok "bad task record" (reads_deserializeTask ht)
  simp [applyRecord, taskRecord, h, bind, Except.bind, pure, Except.pure, recEpoch, recWorkload, recTask]

theorem applyRecord_taskState (e : ComputeTaskId × TaskState) :
    applyRecord d (taskStateRecord e) = .ok { d with taskStates := d.taskStates.insert e.1 e.2 } := by
  have hread : Reads readTaskState (putId e.1 ++ putEnum e.2) e :=
    (reads_readId e.1).bind ((reads_readEnum e.2).last (Reads.pure e))
  have h := parse_ok "bad task state record" hread
  simp [applyRecord, taskStateRecord, h, bind, Except.bind, pure, Except.pure, recEpoch, recWorkload, recTask,
    recTaskState]

theorem applyRecord_attempt {a : ExecutionAttempt D} (ha : a.Bounded) (hcommitted : a.committed = true) :
    applyRecord d (attemptRecord a) = .ok { d with attempts := pushAttempt a d.attempts } := by
  have h := parse_ok "bad attempt record" (reads_deserializeAttempt ha)
  simp [applyRecord, attemptRecord, h, bind, Except.bind, pure, Except.pure, hcommitted, recEpoch, recWorkload,
    recTask, recTaskState, recAttempt]

theorem applyRecord_retry (e : ComputeTaskId × UInt32) :
    applyRecord d (retryRecord e) = .ok { d with retryCounts := d.retryCounts.insert e.1 e.2 } := by
  have hread : Reads readRetryCount (putId e.1 ++ putU32 e.2) e :=
    (reads_readId e.1).bind ((reads_readU32 e.2).last (Reads.pure e))
  have h := parse_ok "bad retry record" hread
  simp [applyRecord, retryRecord, h, bind, Except.bind, pure, Except.pure, recEpoch, recWorkload, recTask,
    recTaskState, recAttempt, recRetryCount]

theorem applyRecord_placement {p : StoredPlacement D} (hp : p.decision.Bounded) :
    applyRecord d (placementRecord p) = .ok { d with placements := d.placements ++ [p] } := by
  have hread : Reads readPlacement (putId p.taskId ++ (putU64 p.sequence ++ serializePlacement p.decision)) p := by
    intro rest
    simp [readPlacement, Decoder.run_bind, hp]
  have h := parse_ok "bad placement record" hread
  simp [applyRecord, placementRecord, h, bind, Except.bind, pure, Except.pure, recEpoch, recWorkload, recTask,
    recTaskState, recAttempt, recRetryCount, recPlacement]

end Apply

/-- A segment of records of one kind, each of which only rewrites one field. -/
theorem foldlM_applyRecord {X F : Type} {record : X → StoreRecord} (set : DurableState D → F → DurableState D)
    (upd : F → X → F) {xs : List X}
    (hstep : ∀ x ∈ xs, ∀ (d : DurableState D) (f : F), applyRecord (set d f) (record x) = .ok (set d (upd f x)))
    (d : DurableState D) (f : F) :
    (xs.map record).foldlM applyRecord (set d f) = .ok (set d (xs.foldl upd f)) := by
  induction xs generalizing f with
  | nil => rfl
  | cons x rest ih =>
      rw [List.map_cons, List.foldlM_cons, hstep x List.mem_cons_self]
      exact ih (fun y hy => hstep y (List.mem_cons_of_mem x hy)) (upd f x)

omit [DoubleBits D] in
/-- The attempts of one task are collected behind what the task holds already. -/
theorem foldl_pushAttempt_same {t : ComputeTaskId} {list : List (ExecutionAttempt D)} (hne : list ≠ [])
    (hkeys : ∀ a ∈ list, a.taskId = t) (m : IdMap (List (ExecutionAttempt D))) :
    list.foldl (fun m a => pushAttempt a m) m = m.insert t (m[t]?.getD [] ++ list) := by
  induction list generalizing m with
  | nil => exact absurd rfl hne
  | cons a rest ih =>
      have ha : a.taskId = t := hkeys a List.mem_cons_self
      rw [List.foldl_cons, pushAttempt, ha]
      by_cases hrest : rest = []
      · rw [hrest]
        rfl
      · rw [ih hrest fun b hb => hkeys b (List.mem_cons_of_mem a hb), Std.ExtTreeMap.getElem?_insert_self]
        refine Std.ExtTreeMap.ext_getElem? fun k => ?_
        by_cases hk : t = k
        · simp [hk]
        · simp [Std.ExtTreeMap.getElem?_insert, hk]

omit [DoubleBits D] in
/-- Attempts that arrive task by task make up the map they came from. -/
theorem foldl_pushAttempt {entries : List (ComputeTaskId × List (ExecutionAttempt D))}
    {acc : IdMap (List (ExecutionAttempt D))} (hnodup : (entries.map Prod.fst).Nodup)
    (hentries : ∀ e ∈ entries, e.2 ≠ [] ∧ ∀ a ∈ e.2, a.taskId = e.1) (hacc : ∀ e ∈ entries, acc[e.1]? = none) :
    (entries.flatMap Prod.snd).foldl (fun m a => pushAttempt a m) acc =
      entries.foldl (fun m e => m.insert e.1 e.2) acc := by
  induction entries generalizing acc with
  | nil => rfl
  | cons e rest ih =>
      rw [List.map_cons, List.nodup_cons] at hnodup
      obtain ⟨hne, hkeys⟩ := hentries e List.mem_cons_self
      rw [List.flatMap_cons, List.foldl_append, foldl_pushAttempt_same hne hkeys acc, hacc e List.mem_cons_self,
        List.foldl_cons]
      refine ih hnodup.2 (fun x hx => hentries x (List.mem_cons_of_mem e hx)) fun x hx => ?_
      have hkey : e.1 ≠ x.1 := fun heq => hnodup.1 (List.mem_map.mpr ⟨x, hx, heq.symm⟩)
      rw [Std.ExtTreeMap.getElem?_insert, if_neg (by rwa [Std.compare_eq_iff_eq]), hacc x (List.mem_cons_of_mem e hx)]

theorem foldlM_append_ok {xs ys : List StoreRecord} {s s₁ s₂ : DurableState D}
    (hxs : xs.foldlM applyRecord s = .ok s₁) (hys : ys.foldlM applyRecord s₁ = .ok s₂) :
    (xs ++ ys).foldlM applyRecord s = .ok s₂ := by
  rw [List.foldlM_append, hxs]
  exact hys

section Segments

variable {d : DurableState D} (h : Storable d) (s : DurableState D)

include h

theorem foldlM_workloads : (d.workloads.toList.map fun e => workloadRecord e.2).foldlM applyRecord
    { s with workloads := ∅ } = .ok { s with workloads := d.workloads } := by
  have hseg := foldlM_applyRecord (fun (s : DurableState D) m => { s with workloads := m })
    (fun m (e : WorkloadId × Workload) => m.insert e.1 e.2)
    (fun e he s m => by rw [applyRecord_workload _ (h.workloads e he).2, (h.workloads e he).1]) s ∅
  rw [hseg]
  exact congrArg (fun m => Except.ok { s with workloads := m }) (OrdMap.ofEntries_toList d.workloads)

theorem foldlM_tasks : (d.tasks.toList.map fun e => taskRecord e.2).foldlM applyRecord { s with tasks := ∅ } =
    .ok { s with tasks := d.tasks } := by
  have hseg := foldlM_applyRecord (fun (s : DurableState D) m => { s with tasks := m })
    (fun m (e : ComputeTaskId × ComputeTask D) => m.insert e.1 e.2)
    (fun e he s m => by rw [applyRecord_task _ (h.tasks e he).2, (h.tasks e he).1]) s ∅
  rw [hseg]
  exact congrArg (fun m => Except.ok { s with tasks := m }) (OrdMap.ofEntries_toList d.tasks)

theorem foldlM_attempts : (d.attempts.toList.flatMap fun e => e.2.map attemptRecord).foldlM applyRecord
    { s with attempts := ∅ } = .ok { s with attempts := d.attempts } := by
  have hbounds : ∀ a ∈ d.attempts.toList.flatMap Prod.snd, a.committed = true ∧ a.Bounded := by
    intro a ha
    obtain ⟨e, he, hae⟩ := List.mem_flatMap.mp ha
    obtain ⟨hcommitted, -, hbounded⟩ := (h.attempts e he).2 a hae
    exact ⟨hcommitted, hbounded⟩
  have hseg := foldlM_applyRecord (fun (s : DurableState D) m => { s with attempts := m })
    (fun m a => pushAttempt a m)
    (fun a ha s m => applyRecord_attempt _ (hbounds a ha).2 (hbounds a ha).1) s ∅
  have hpush := foldl_pushAttempt (OrdMap.nodup_toList_keys d.attempts)
    (fun e he => ⟨(h.attempts e he).1, fun a ha => ((h.attempts e he).2 a ha).2.1⟩)
    (fun e _ => Std.ExtTreeMap.getElem?_empty)
  rw [← List.map_flatMap, hseg, hpush]
  exact congrArg (fun m => Except.ok { s with attempts := m }) (OrdMap.ofEntries_toList d.attempts)

theorem foldlM_placements : (d.placements.map placementRecord).foldlM applyRecord { s with placements := [] } =
    .ok { s with placements := d.placements } := by
  have hseg := foldlM_applyRecord (fun (s : DurableState D) list => { s with placements := list })
    (fun list p => list ++ [p]) (fun p hp s list => applyRecord_placement _ (h.placements p hp)) s []
  have happend : d.placements.foldl (fun list p => list ++ [p]) [] = d.placements := by
    rw [List.foldl_append_eq_append, List.nil_append, ← List.flatMap_def, List.flatMap_singleton']
  rw [hseg, happend]

omit h

theorem foldlM_taskStates : (d.taskStates.toList.map taskStateRecord).foldlM applyRecord { s with taskStates := ∅ } =
    .ok { s with taskStates := d.taskStates } := by
  have hseg := foldlM_applyRecord (fun (s : DurableState D) m => { s with taskStates := m })
    (fun m e => m.insert e.1 e.2) (fun e (_ : e ∈ d.taskStates.toList) s m => applyRecord_taskState _ e) s ∅
  rw [hseg]
  exact congrArg (fun m => Except.ok { s with taskStates := m }) (OrdMap.ofEntries_toList d.taskStates)

theorem foldlM_retryCounts : (d.retryCounts.toList.map retryRecord).foldlM applyRecord { s with retryCounts := ∅ } =
    .ok { s with retryCounts := d.retryCounts } := by
  have hseg := foldlM_applyRecord (fun (s : DurableState D) m => { s with retryCounts := m })
    (fun m e => m.insert e.1 e.2) (fun e (_ : e ∈ d.retryCounts.toList) s m => applyRecord_retry _ e) s ∅
  rw [hseg]
  exact congrArg (fun m => Except.ok { s with retryCounts := m }) (OrdMap.ofEntries_toList d.retryCounts)

end Segments

/-- Entering the records of a state rebuilds it, one member after the other. -/
theorem foldlM_records {d : DurableState D} (h : Storable d) : (records d).foldlM applyRecord {} = .ok d := by
  rw [records, List.foldlM_cons, applyRecord_epoch]
  refine foldlM_append_ok (foldlM_workloads h { epoch := d.epoch }) ?_
  refine foldlM_append_ok (foldlM_tasks h { epoch := d.epoch, workloads := d.workloads }) ?_
  refine foldlM_append_ok (foldlM_taskStates { epoch := d.epoch, workloads := d.workloads, tasks := d.tasks }) ?_
  refine foldlM_append_ok (foldlM_attempts h { d with attempts := ∅, retryCounts := ∅, placements := [] }) ?_
  refine foldlM_append_ok (foldlM_retryCounts { d with retryCounts := ∅, placements := [] }) ?_
  exact foldlM_placements h d

theorem reads_readHeader (version : UInt32) (bodySize : UInt64) (crc : UInt32) :
    Reads readHeader (List.flatten [putU32 magic, putU32 version, putU64 bodySize, putU32 crc])
      (magic, version, bodySize, crc) := by
  unfold readHeader
  refine Reads.cons (reads_readU32 _) (Reads.cons (reads_readU32 _) ?_)
  exact Reads.cons (reads_readU64 _) (Reads.cons (reads_readU32 _) (Reads.pure _))

theorem length_withHeader (b : List UInt8) : (withHeader b).length = 20 + b.length := by
  simp [withHeader, putU32, putU64]
  omega

/-- **A file that is accepted** has the header of its body, and is not longer than the limit. -/
theorem load_ok {bytes : List UInt8} {d : DurableState D} (h : load bytes = .ok d) :
    bytes = withHeader (bytes.drop 20) ∧ bytes.length ≤ maxFileSize.toNat := by
  unfold load at h
  split_ifs at h with hsmall hlarge
  · cases h
  · cases h
  cases hrun : readHeader.run bytes with
  | error message =>
      rw [hrun] at h
      cases h
  | ok r =>
      obtain ⟨⟨fileMagic, version, bodySize, bodyCrc⟩, rest⟩ := r
      rw [hrun] at h
      dsimp only at h
      have hbytes : bytes = putU32 fileMagic ++ (putU32 version ++ (putU64 bodySize ++ (putU32 bodyCrc ++ rest))) := by
        unfold readHeader at hrun
        obtain ⟨fileMagic, l₁, h₁, hrun⟩ := Decoder.run_bind_ok hrun
        obtain ⟨version, l₂, h₂, hrun⟩ := Decoder.run_bind_ok hrun
        obtain ⟨bodySize, l₃, h₃, hrun⟩ := Decoder.run_bind_ok hrun
        obtain ⟨bodyCrc, l₄, h₄, hrun⟩ := Decoder.run_bind_ok hrun
        obtain ⟨hfields, rfl⟩ := Prod.mk.inj (Except.ok.inj hrun)
        obtain ⟨rfl, rfl, rfl, rfl⟩ : fileMagic = _ ∧ version = _ ∧ bodySize = _ ∧ bodyCrc = _ := by
          simpa only [Prod.mk.injEq] using hfields
        rw [inverts_readU32 _ _ _ h₁, inverts_readU32 _ _ _ h₂, inverts_readU64 _ _ _ h₃, inverts_readU32 _ _ _ h₄]
      have hdrop : bytes.drop 20 = rest := by
        rw [hbytes, ← List.append_assoc, ← List.append_assoc, ← List.append_assoc]
        exact List.drop_left' (by simp)
      split_ifs at h with hmagic hversion hsize hcrc
      all_goals first
        | refine ⟨?_, Nat.le_of_not_lt hlarge⟩
          rw [hdrop, withHeader, not_ne_iff.mp hsize, UInt64.ofNat_toNat, not_ne_iff.mp hcrc,
            ← not_ne_iff.mp hversion, ← not_ne_iff.mp hmagic, hbytes]
          simp
        | cases h

/-- The checks of the header pass on every file that was written, so the body decides. -/
theorem load_withHeader {b : List UInt8} (hsize : (withHeader b).length ≤ maxFileSize.toNat) :
    load (D := D) (withHeader b) = match readRecords.run b with
      | .error message => corrupt message
      | .ok (list, _) => list.foldlM applyRecord {} := by
  have hsplit : withHeader b = List.flatten [putU32 magic, putU32 formatVersion, putU64 (UInt64.ofNat b.length),
      putU32 (Crc32.compute b)] ++ b := by
    simp [withHeader]
  have hheader := reads_readHeader formatVersion (UInt64.ofNat b.length) (Crc32.compute b) b
  rw [← hsplit] at hheader
  have hlen := length_withHeader b
  have hmax : maxFileSize.toNat = 268435456 := rfl
  have hbody : (UInt64.ofNat b.length).toNat = b.length := by
    rw [UInt64.toNat_ofNat']
    omega
  rw [load, if_neg (by omega), if_neg (by omega), hheader]
  dsimp only
  rw [if_neg (by simp), if_neg (by simp), if_neg (by simp [hbody]), if_neg (by simp)]

/-! ## What is loaded was within the limits

`save` checks none of the limits of `load`. What it wrote past one of them is refused. -/

theorem load_save {d : DurableState D} (h : Storable d) : load (save d) = .ok d := by
  have hrecords := reads_readRecords h.recordTotal h.fileSize []
  rw [List.append_nil] at hrecords
  rw [save, load_withHeader h.fileSize, hrecords]
  exact foldlM_records h

/-- Each record of a file that is loaded was entered. -/
theorem applyRecord_of_foldlM {list : List StoreRecord} {s s' : DurableState D}
    (h : list.foldlM applyRecord s = .ok s') {r : StoreRecord} (hr : r ∈ list) :
    ∃ d d' : DurableState D, applyRecord d r = .ok d' := by
  induction list generalizing s with
  | nil => cases hr
  | cons x rest ih =>
      rw [List.foldlM_cons] at h
      cases hx : applyRecord s x with
      | error e =>
          rw [hx] at h
          cases h
      | ok d =>
          rw [hx] at h
          rcases List.mem_cons.mp hr with rfl | hr
          · exact ⟨s, d, hx⟩
          · exact ih h hr

/-- A placement record that is entered holds a decision within the limits. -/
theorem bounded_of_applyRecord {p : StoredPlacement D} {d d' : DurableState D}
    (hlen : (placementRecord p).payload.length < 4294967296)
    (h : applyRecord d (placementRecord p) = .ok d') : p.decision.Bounded := by
  have hdecision : (serializePlacement p.decision).length < 4294967296 := by
    simp only [placementRecord, List.length_append] at hlen
    omega
  have hyields : Yields (readPlacement (D := D)) fun q => q.decision.Bounded := by
    refine (Yields.any _).bind fun _ _ => (Yields.any _).bind fun _ _ => ?_
    exact yields_deserializePlacement.bind fun _ hq => Yields.pure hq
  have hreads : ReadsOnly readPlacement (placementRecord p).payload p := by
    refine (reads_need _ (reads_readId _)).readsOnly.bind ((reads_need _ (reads_readU64 _)).readsOnly.bind ?_)
    exact (readsOnly_deserializePlacement hdecision).last (Reads.pure p).readsOnly
  cases hrun : (readPlacement (D := D)).run (placementRecord p).payload with
  | ok r => exact (hreads.yields hyields hrun).2
  | error e =>
      have hparse : parse "bad placement record" (readPlacement (D := D)) (placementRecord p).payload =
          corrupt "bad placement record" := by rw [parse, hrun]
      rw [placementRecord] at hparse
      simp [applyRecord, hparse, corrupt, bind, Except.bind, placementRecord, recEpoch, recWorkload, recTask,
        recTaskState, recAttempt, recRetryCount, recPlacement] at h

theorem length_records_le (d : DurableState D) : (records d).length ≤ (save d).length := by
  have hrecords : (records d).length ≤ ((records d).flatMap putRecord).length :=
    length_le_flatMap (fun r => by simp [putRecord, putU8]) (records d)
  simp only [save, length_withHeader, body, List.length_append]
  omega

/-- The limits that nothing before `save` keeps: those of the placement decisions, of the number of records and of
    the file. -/
structure Fits (d : DurableState D) : Prop where
  placements : ∀ p ∈ d.placements, p.decision.Bounded
  recordTotal : (records d).length ≤ maxRecords.toNat
  fileSize : (save d).length ≤ maxFileSize.toNat

theorem fits_of_load {d d' : DurableState D} (h : load (save d) = .ok d') : Fits d := by
  have hsize : (save d).length ≤ maxFileSize.toNat := by
    unfold load at h
    split_ifs at h with hsmall hlarge
    · cases h
    · cases h
    · exact Nat.le_of_not_lt hlarge
  have hmax : maxFileSize.toNat = 268435456 := rfl
  have hcount : (UInt32.ofNat (records d).length).toNat = (records d).length := by
    have hle := length_records_le d
    exact toNat_ofNat_of_lt (by omega)
  rw [save, load_withHeader hsize] at h
  have htotal : (records d).length ≤ maxRecords.toNat := by
    cases hrun : readRecords.run (body d) with
    | error message =>
        rw [hrun] at h
        cases h
    | ok r =>
        obtain ⟨n, left, hn, -⟩ := Decoder.run_bind_ok hrun
        have hreads : ReadsOnly (orCorrupt "store record count invalid" (readU32Max maxRecords))
            (putU32 (recordCount d)) (recordCount d) := (readsOnly_readU32Max _ _).mapError _
        have hyields : Yields (orCorrupt "store record count invalid" (readU32Max maxRecords)) (· ≤ maxRecords) :=
          (yields_readU32Max maxRecords).mapError _
        have hle := hyields _ _ _ hn
        rw [(hreads _ _ _ hn).1, recordCount_eq, UInt32.le_iff_toNat_le, hcount] at hle
        exact hle
  refine ⟨fun p hp => ?_, htotal, hsize⟩
  have hrecords := reads_readRecords htotal hsize []
  rw [List.append_nil] at hrecords
  rw [hrecords] at h
  have hmem : placementRecord p ∈ records d := by
    simp only [records, List.mem_cons, List.mem_append, List.mem_map]
    exact .inr (.inr (.inr (.inr (.inr (.inr ⟨p, hp, rfl⟩)))))
  obtain ⟨s, s', happly⟩ := applyRecord_of_foldlM h hmem
  have hpayload := payload_le_file hmem
  exact bounded_of_applyRecord (by omega) happly

/-- A state with one record of each kind. -/
def sample : DurableState UInt64 where
  epoch := 3
  workloads := Std.ExtTreeMap.empty.insert ⟨0, 5⟩ { id := ⟨0, 5⟩, name := [119] }
  tasks := Std.ExtTreeMap.empty.insert ⟨0, 1⟩
    { id := ⟨0, 1⟩, workload := ⟨0, 5⟩, name := [116], requiredTags := [[103]], payload := [1, 2, 3],
      minComputeCapabilityMajor := 7, estimatedDurationSeconds := 0, expectedTransferGb := 0,
      expectedRecomputeCostSeconds := 0, costEstimate := 0 }
  taskStates := Std.ExtTreeMap.empty.insert ⟨0, 1⟩ .succeeded
  attempts := Std.ExtTreeMap.empty.insert ⟨0, 1⟩
    [{ id := ⟨0, 30⟩, taskId := ⟨0, 1⟩, nodeId := ⟨0, 7⟩, nodeSession := ⟨0, 20⟩, coordinatorEpoch := 2,
       reservationId := ⟨0, 40⟩, executor := .cpu, attemptNumber := 0, dispatchedAtMs := 10, startedAtMs := 11,
       completedAtMs := 12, state := .succeeded, failureKind := .none, failureReason := [], outputSize := 16,
       outputIntegrity := [97, 98], cpuMillis := 0, bytesTransferred := 0, device := [99], committed := true }]
  retryCounts := Std.ExtTreeMap.empty.insert ⟨0, 1⟩ 1
  placements := [{
    taskId := ⟨0, 1⟩, sequence := 1
    decision :=
      { feasible := true, chosenNode := some ⟨0, 7⟩, chosenExecutor := some .cpu, chosenDevice := [99],
        candidates := [], excluded := [⟨⟨0, 8⟩, [[100]]⟩], totalCost := 0, executionCost := 0, queueCost := 0,
        transferCost := 0, recomputeCost := 0, pressureCost := 0, affinityCost := 0, capabilityCost := 0,
        stateLocalityScore := 0, resourcePressureScore := 0, reason := [] } }]

theorem storable_sample : Storable sample := by
  have hsingle {V : Type} {k : Id128} {v : V} {e : Id128 × V}
      (he : e ∈ (Std.ExtTreeMap.empty.insert k v : IdMap V).toList) : e = (k, v) := by
    rw [Std.ExtTreeMap.mem_toList_iff_getElem?_eq_some, Std.ExtTreeMap.getElem?_insert] at he
    split_ifs at he with hk
    · exact Prod.ext (Std.compare_eq_iff_eq.mp hk).symm (Option.some.inj he).symm
    · simp at he
  refine ⟨?_, ?_, ?_, ?_, by decide +kernel, by decide +kernel⟩
  · intro e he
    obtain rfl := hsingle he
    decide +kernel
  · intro e he
    obtain rfl := hsingle he
    decide +kernel
  · intro e he
    obtain rfl := hsingle he
    refine ⟨List.cons_ne_nil _ _, fun a ha => ?_⟩
    obtain rfl := List.mem_singleton.mp ha
    decide +kernel
  · decide +kernel

end Store

open Store in
/-- **Round trip.** What `save` wrote within the loader's limits is loaded again as it was. -/
theorem store_round_trip {D : Type} [DoubleBits D] (d : DurableState D) (h : Storable d) :
    load (save d) = .ok d := load_save h

theorem store_round_trip_sample : Store.load (Store.save Store.sample) = .ok Store.sample :=
  store_round_trip Store.sample Store.storable_sample

end ComputeFabric
