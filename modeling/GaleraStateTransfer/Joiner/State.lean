import GaleraStateTransfer.Request.Descriptor

/-!
# The joiner's state, its collaborators, and its code as a computation

`request_state_transfer` and the functions it calls run on the replicator's fields and call out to
collaborators that are not under `src/`: the IST receiver, the group layer, the local-order and
apply monitors, the recovery marker store `st_`, and the application's `sst_received` (through
`sst_cond_`). The joiner's code is modelled as a computation `JoinerM` on the fields it reads and
writes; every call it makes on a collaborator is recorded, in order, and each collaborator's answer
is read from a `JoinerEnv`, a record of the outcomes of one run. A run ends by going on with a value,
by `abort ()`, by an exception that leaves the function, or blocked on a collaborator that never
answers.

The orders of `NodeState` and `SstState` are not under `src/`: the code compares `state_() >
S_CLOSING` and `sst_state_ < SST_REQ_FAILED`, so the constructors are declared in galera's order,
and the spec (§3) lists the states.
-/

namespace GaleraStateTransfer

/-- `wsrep_seqno_t`'s `WSREP_SEQNO_UNDEFINED`: no position. -/
def WSREP_SEQNO_UNDEFINED : Int := -1

/-- `GCS_SEQNO_ILL`: no local sequence number was allocated (`gcs.hpp`). -/
def GCS_SEQNO_ILL : Int := -1

/-- The replicator's node states (`state_()`), in galera's declaration order. -/
inductive NodeState where
  | destroyed
  | closed
  | closing
  | connected
  | joining
  | joined
  | synced
  | donor
  deriving DecidableEq, Repr

/-- The position of a node state in the declaration order, on which the code compares states. -/
def NodeState.rank : NodeState → Nat
  | destroyed => 0
  | closed => 1
  | closing => 2
  | connected => 3
  | joining => 4
  | joined => 5
  | synced => 6
  | donor => 7

/-- `sst_state_`: how the SST stands, in galera's declaration order. -/
inductive SstState where
  | none
  | wait
  | canceled
  | reqFailed
  | failed
  deriving DecidableEq, Repr

/-- The position of an SST state in the declaration order. -/
def SstState.rank : SstState → Nat
  | none => 0
  | wait => 1
  | canceled => 2
  | reqFailed => 3
  | failed => 4

/-- The persisted part of the recovery marker `st_`: what `st_.set` writes and `st_.get` reads. -/
structure SavedState where
  uuid : Uuid
  seqno : Int
  safeToBootstrap : Bool
  deriving DecidableEq

/-- The replicator's fields that the joiner's code reads and writes. -/
structure Joiner where
  /-- `state_uuid_`. -/
  stateUuid : Uuid
  /-- `STATE_SEQNO()`, the apply monitor's position. -/
  stateSeqno : Int
  /-- `safe_to_bootstrap_`. -/
  safeToBootstrap : Bool
  /-- `ist_prepared_`. -/
  istPrepared : Bool
  /-- `sst_state_`. -/
  sstState : SstState
  /-- `sst_uuid_`. -/
  sstUuid : Uuid
  /-- `sst_seqno_`. -/
  sstSeqno : Int
  /-- The persisted recovery marker. -/
  st : SavedState

/-- A call the joiner makes on a collaborator, with the arguments it passes. -/
inductive JoinerCall where
  /-- `ist_receiver_.prepare (first, last, ...)`. -/
  | istPrepare (first last : Int)
  /-- `ist_receiver_.ready ()`. -/
  | istReady
  /-- `ist_receiver_.finished ()`. -/
  | istFinished
  /-- `st_.mark_unsafe ()`. -/
  | markUnsafe
  /-- `st_.mark_safe ()`. -/
  | markSafe
  /-- `st_.mark_corrupt ()`. -/
  | markCorrupt
  /-- `st_.set (uuid, seqno, safe_to_bootstrap)`. -/
  | stSet (uuid : Uuid) (seqno : Int) (safeToBootstrap : Bool)
  /-- `gcs_.request_state_transfer (..., req, len, ..., ist_uuid, ist_seqno, ...)`. -/
  | gcsRequest (req : Bytes) (len : Nat) (ist_uuid : Uuid) (ist_seqno : Int)
  /-- `local_monitor_.self_cancel` of the slot the group layer allocated. -/
  | selfCancel (seqno : Int)
  /-- `state_.shift_to (state)`. -/
  | shiftTo (state : NodeState)
  /-- `gcache_.seqno_reset (uuid, seqno)`. -/
  | seqnoReset (uuid : Uuid) (seqno : Int)
  /-- `lock.wait (sst_cond_)`. -/
  | sstWait
  /-- `close ()`. -/
  | close
  /-- `update_state_uuid (uuid, seqno)`. -/
  | updateStateUuid (uuid : Uuid) (seqno : Int)
  /-- `set_initial_position (seqno)` on the apply monitor, or on the commit monitor. -/
  | setInitialPosition (commit : Bool) (seqno : Int)
  /-- `self_cancel` of a write-set on the apply monitor, or on the commit monitor. -/
  | monitorSelfCancel (commit : Bool) (seqno : Int)
  /-- `apply_trx (recv_ctx, trx)`. -/
  | applyTrx (seqno : Int)
  /-- `apply_monitor_.drain (seqno)`. -/
  | drain (seqno : Int)
  deriving DecidableEq

/-- What `ist_receiver_.recv (&trx)` gives `recv_IST` on one turn of its loop. -/
inductive IstRecv where
  /-- A write-set; `verifies` says whether its checksum verifies, and `applies` whether
  `apply_trx` returns normally on it. -/
  | trx (seqno depends : Int) (verifies applies : Bool)
  /-- A nonzero return: the IST is complete. -/
  | done
  /-- An exception, from the receiver or from the write-set's checksum. -/
  | fails
  deriving DecidableEq

/-- The collaborators' answers in one run of the joiner. -/
structure JoinerEnv where
  /-- `str_proto_ver_`. -/
  strProtoVer : Int
  /-- `ist_receiver_.prepare (first, last, ...)`: the address to receive at, or the `errno` of the
  exception it throws. -/
  istPrepare : Int → Int → Except Int Bytes
  /-- Whether `strdup` of the IST descriptor finds memory. -/
  strdupOk : Bool
  /-- What each `gcs_.request_state_transfer` returns, and the local seqno it allocates, in order. -/
  gcsAnswers : List (Int × Int)
  /-- `local_monitor_.would_block (seqno_l)`. -/
  wouldBlock : Int → Bool
  /-- `state_()` when a failed request is handled. -/
  stateAtSendFailure : NodeState
  /-- `sst_state_`, `sst_uuid_` and `sst_seqno_` as the wait on `sst_cond_` finds them on waking;
  `none` when no `sst_received` ever signals. -/
  sstWake : Option (SstState × Uuid × Int)
  /-- `state_()` when the IST is about to start. -/
  stateAtIst : NodeState
  /-- What `ist_receiver_.recv` gives, turn after turn. -/
  istRecv : List IstRecv
  /-- What `ist_receiver_.finished ()` returns. -/
  istFinished : Int
  /-- Whether `co_mode_` is `CommitOrder::BYPASS`. -/
  commitBypass : Bool

/-- How a piece of the joiner's code that does not go on ends. -/
inductive Stop where
  /-- `abort ()`. -/
  | aborts
  /-- An exception with this `errno` leaves the function. -/
  | throws (e : Int)
  /-- The run has not ended when the collaborators' answers run out: it waits on, or keeps
  retrying. -/
  | blocked
  deriving DecidableEq

/-- How a piece of the joiner's code ends: it goes on with a value, or it stops. -/
inductive Ends (α : Type) where
  | next (a : α)
  | stop (s : Stop)
  deriving DecidableEq

/-- The end of a run of the joiner's code: its state, the calls it made, and how it ended. -/
structure Outcome (α : Type) where
  joiner : Joiner
  calls : List JoinerCall
  ends : Ends α

/-- The joiner's code: from the replicator's fields, an outcome. -/
def JoinerM (α : Type) := Joiner → Outcome α

namespace JoinerM

/-- Run `x`, then, if it goes on, `f` on its value; the calls of both are recorded in order. -/
def bind (x : JoinerM α) (f : α → JoinerM β) : JoinerM β := fun j =>
  match x j with
  | ⟨j, cs, .next a⟩ => let o := f a j; ⟨o.joiner, cs ++ o.calls, o.ends⟩
  | ⟨j, cs, .stop s⟩ => ⟨j, cs, .stop s⟩

instance : Monad JoinerM where
  pure a := fun j => ⟨j, [], .next a⟩
  bind := bind

/-- Make a call that changes none of the joiner's fields. -/
def call (c : JoinerCall) : JoinerM Unit := fun j => ⟨j, [c], .next ()⟩

/-- Read the joiner's fields. -/
def current : JoinerM Joiner := fun j => ⟨j, [], .next j⟩

/-- Change the joiner's fields. -/
def update (f : Joiner → Joiner) : JoinerM Unit := fun j => ⟨f j, [], .next ()⟩

/-- Stop. -/
def stop (s : Stop) : JoinerM α := fun j => ⟨j, [], .stop s⟩

/-- `st_.set (uuid, seqno, safe_to_bootstrap)`: persist the marker's position. -/
def stSet (uuid : Uuid) (seqno : Int) (safeToBootstrap : Bool) : JoinerM Unit := fun j =>
  ⟨{ j with st := ⟨uuid, seqno, safeToBootstrap⟩ }, [.stSet uuid seqno safeToBootstrap], .next ()⟩

@[simp]
theorem run_pure (a : α) (j : Joiner) : (Pure.pure a : JoinerM α) j = ⟨j, [], .next a⟩ := rfl

@[simp]
theorem run_call (c : JoinerCall) (j : Joiner) : call c j = ⟨j, [c], .next ()⟩ := rfl

@[simp]
theorem run_current (j : Joiner) : current j = ⟨j, [], .next j⟩ := rfl

@[simp]
theorem run_update (f : Joiner → Joiner) (j : Joiner) : update f j = ⟨f j, [], .next ()⟩ := rfl

@[simp]
theorem run_stop (s : Stop) (j : Joiner) : (stop s : JoinerM α) j = ⟨j, [], .stop s⟩ := rfl

@[simp]
theorem run_stSet (uuid : Uuid) (seqno : Int) (sb : Bool) (j : Joiner) :
    stSet uuid seqno sb j = ⟨{ j with st := ⟨uuid, seqno, sb⟩ }, [.stSet uuid seqno sb], .next ()⟩ :=
  rfl

@[simp]
theorem run_bind (x : JoinerM α) (f : α → JoinerM β) (j : Joiner) :
    (x >>= f) j = bind x f j := rfl

theorem ite_run (c : Prop) [Decidable c] (x y : JoinerM α) (j : Joiner) :
    (if c then x else y) j = if c then x j else y j := by
  split <;> rfl

/-- A computation either goes on, handing its state to the next one, or stops the whole run. -/
theorem run_bind_cases (x : JoinerM α) (f : α → JoinerM β) (j : Joiner) :
    (∃ j' cs a, x j = ⟨j', cs, .next a⟩ ∧
      (x >>= f) j = ⟨(f a j').joiner, cs ++ (f a j').calls, (f a j').ends⟩) ∨
    (∃ j' cs s, x j = ⟨j', cs, .stop s⟩ ∧ (x >>= f) j = ⟨j', cs, .stop s⟩) := by
  rcases h : x j with ⟨j', cs, a | s⟩
  · exact .inl ⟨j', cs, a, rfl, by simp only [run_bind, bind, h]⟩
  · exact .inr ⟨j', cs, s, rfl, by simp only [run_bind, bind, h]⟩

/-- A computation that goes on hands its state to the next one and its calls come first. -/
theorem run_bind_next {x : JoinerM α} {j j' : Joiner} {cs : List JoinerCall} {a : α}
    (h : x j = ⟨j', cs, .next a⟩) (f : α → JoinerM β) :
    (x >>= f) j = ⟨(f a j').joiner, cs ++ (f a j').calls, (f a j').ends⟩ := by
  show bind x f j = _
  simp only [bind, h]

/-- A computation that stops ends the whole run. -/
theorem run_bind_stop {x : JoinerM α} {j j' : Joiner} {cs : List JoinerCall} {s : Stop}
    (h : x j = ⟨j', cs, .stop s⟩) (f : α → JoinerM β) :
    (x >>= f) j = ⟨j', cs, .stop s⟩ := by
  show bind x f j = _
  simp only [bind, h]

end JoinerM

end GaleraStateTransfer
