import GaleraStateTransfer.Joiner.State

/-!
# The donor: `process_state_req`

The donor serves a STATE_REQ: it decodes the envelope, skips the transfer for a sentinel SST
payload, tries an IST when the descriptor's history is its own, and otherwise donates a full SST;
then it leaves the local-order monitor and, unless a donation will be announced later by
`sst_sent`, announces the result to the group with `gcs_.join`.

The code jumps with `goto full_sst` and `goto out`, and holds the cache lock `seqno_lock` in a guard
object whose destructor unlocks when its `unlock_` flag is set. Each block is a function here: the
`full_sst:` block, the IST branch (the guard's scope, with the release its destructor makes when
control leaves the scope), and the body that chooses between them. A block returns the calls it
made, `rcode` and `join_now`; every call on a collaborator is recorded with the answer it got.
-/

namespace GaleraStateTransfer

/-- `WSREP_STATE_TRANSFER_NONE`, the legacy sentinel of the wsrep API, `"none"`: the header that
defines it is not under `src/`. -/
def WSREP_STATE_TRANSFER_NONE : Bytes := ascii "none"

/-- The donor's fields that `process_state_req` reads. -/
structure Donor where
  /-- `state_uuid_`. -/
  stateUuid : Uuid
  /-- `cc_seqno_`, the seqno of the last configuration change: the end of an IST. -/
  ccSeqno : Int

/-- The answers of the donor's collaborators. -/
structure DonorEnv where
  /-- Whether `gcache_.seqno_lock (seqno)` locks, or throws `gu::NotFound`. -/
  seqnoLock : Int → Bool
  /-- Whether `sst_donate_cb_ (..., req, len, &state_id, 0, 0, bypass)` returns
  `WSREP_CB_SUCCESS`. -/
  sstDonate : Bytes → Uuid → Int → Bool → Bool
  /-- What `ist_senders_.run (config_, peer, first, last, ...)` does: `none` when it returns,
  `some e` when it throws a `gu::Exception` whose `errno` is `e`. -/
  istRun : Bytes → Int → Int → Option Int
  /-- Whether `co_mode_` is `CommitOrder::BYPASS`. -/
  commitBypass : Bool

/-- A call the donor makes on a collaborator, with its arguments and the answer it got. -/
inductive DonorCall where
  /-- `local_monitor_.enter (lo)`. -/
  | localEnter (seqno : Int)
  /-- `apply_monitor_.drain (donor_seq)`. -/
  | applyDrain (seqno : Int)
  /-- `commit_monitor_.drain (donor_seq)`. -/
  | commitDrain (seqno : Int)
  /-- `state_.shift_to (state)`. -/
  | shiftTo (state : NodeState)
  /-- `gcache_.seqno_lock (seqno)`, and whether it locked. -/
  | seqnoLock (seqno : Int) (locked : Bool)
  /-- `gcache_.seqno_unlock ()`, from the guard's destructor. -/
  | seqnoUnlock
  /-- `sst_donate_cb_` on the SST part, with the gtid and the mode; and whether it succeeded. -/
  | sstDonate (req : Bytes) (uuid : Uuid) (seqno : Int) (bypass : Bool) (success : Bool)
  /-- `ist_senders_.run` to the peer for `[first, last]`, and the `errno` it threw, if any. -/
  | istRun (peer : Bytes) (first last : Int) (thrown : Option Int)
  /-- `local_monitor_.leave (lo)`. -/
  | localLeave (seqno : Int)
  /-- `gcs_.join (status)`. -/
  | gcsJoin (status : Int)
  deriving DecidableEq

/-- A run of `process_state_req`: its calls, the `errno` of an exception that leaves it, and its
result code `rcode` when it returns. -/
structure DonorRun where
  calls : List DonorCall
  thrown : Option Int
  rcode : Int

/-- `ReplicatorSMM::donate_sst (recv_ctx, streq, state_id, bypass)`: the call, and its result, the
gtid's seqno on success and `-ECANCELED` otherwise. -/
def donateSst (env : DonorEnv) (streq : StateRequest) (uuid : Uuid) (seqno : Int) (bypass : Bool) :
    DonorCall × Int :=
  let ok := env.sstDonate streq.sstSlice uuid seqno bypass
  (.sstDonate streq.sstSlice uuid seqno bypass ok, if ok then seqno else -ECANCELED)

/-- The `full_sst:` block: a full donation of the donor's state at `donor_seq`, or `-ECANCELED`
for an empty SST part. The result is the calls, `rcode` and `join_now`. -/
def fullSst (env : DonorEnv) (d : Donor) (streq : StateRequest) (donor_seq : Int) :
    List DonorCall × Int × Bool :=
  if streq.sstLen ≠ 0 then
    let (c, rcode) := donateSst env streq d.stateUuid donor_seq false
    ([c], rcode, false)
  else ([], -ECANCELED, true)

/-- The IST branch, the scope of the `seqno_lock_guard`: lock the cache at the joiner's first
missing seqno; without it fall back to the full SST, or fail with `-ENODATA` when there is no SST
part; with it, notify a waiting joiner by a bypass donation and start the IST sender, which takes
the lock over when it starts. Leaving the scope, the guard unlocks unless the sender took it. -/
def istBranch (env : DonorEnv) (d : Donor) (streq : StateRequest) (istr : IstRequest)
    (donor_seq : Int) : List DonorCall × Int × Bool :=
  let first := istr.lastApplied + 1
  if !env.seqnoLock first then
    if streq.sstLen = 0 then ([.seqnoLock first false], -ENODATA, true)
    else
      let (cs, rcode, join_now) := fullSst env d streq donor_seq
      (.seqnoLock first false :: cs, rcode, join_now)
  else
    let (cs, rcode, join_now) :=
      if streq.sstLen ≠ 0 then
        let (c, rcode) := donateSst env streq istr.uuid istr.lastApplied true
        ([c], rcode, false)
      else ([], 0, true)
    if 0 ≤ rcode then
      let thrown := env.istRun istr.peer first d.ccSeqno
      let rcode := match thrown with
        | none => rcode
        | some e => -e
      (.seqnoLock first true :: cs ++ [.istRun istr.peer first d.ccSeqno thrown] ++
        (if thrown.isSome then [.seqnoUnlock] else []), rcode, join_now)
    else (.seqnoLock first true :: cs ++ [.seqnoUnlock], rcode, join_now)

/-- Whether the donor skips the transfer: the SST part is `TRIVIAL_SST`, or its C string is the
legacy `WSREP_STATE_TRANSFER_NONE`. -/
def skipStateTransfer (streq : StateRequest) : Bool :=
  sstIsTrivial streq.sstSlice streq.sstLen ||
    strndup streq.sstSlice streq.sstLen == WSREP_STATE_TRANSFER_NONE

/-- The body of `process_state_req` between the state shift and `out:`: the calls, `rcode` and
`join_now`, or the `errno` of an exception from reading the IST descriptor. -/
def serveStateRequest (env : DonorEnv) (d : Donor) (streq : StateRequest) (donor_seq : Int) :
    Except Int (List DonorCall × Int × Bool) :=
  if skipStateTransfer streq then .ok ([], 0, true)
  else if streq.istLen ≠ 0 then
    match getIstRequest streq with
    | .error e => .error e
    | .ok istr =>
      if istr.uuid = d.stateUuid then .ok (istBranch env d streq istr donor_seq)
      else .ok (fullSst env d streq donor_seq)
  else .ok (fullSst env d streq donor_seq)

/-- `ReplicatorSMM::process_state_req (recv_ctx, req, req_size, seqno_l, donor_seq, ...)`. -/
def processStateReq (env : DonorEnv) (d : Donor) (req : Bytes) (req_size : Nat)
    (seqno_l donor_seq : Int) : DonorRun :=
  let enter := [.localEnter seqno_l, .applyDrain donor_seq] ++
    (if !env.commitBypass then [.commitDrain donor_seq] else []) ++ [.shiftTo .donor]
  match readStateRequest req req_size >>= fun streq => serveStateRequest env d streq donor_seq with
  | .error e => ⟨enter, some e, 0⟩
  | .ok (cs, rcode, join_now) =>
    ⟨enter ++ cs ++ [.localLeave seqno_l] ++
      (if join_now || decide (rcode < 0) then [.gcsJoin (if rcode < 0 then rcode else donor_seq)]
        else []), none, rcode⟩

end GaleraStateTransfer
