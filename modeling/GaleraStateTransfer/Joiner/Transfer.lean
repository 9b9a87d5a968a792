import GaleraStateTransfer.Joiner.Request

/-!
# Requesting the state transfer and receiving it

`send_state_request` hands the envelope to the group layer and retries while the answer is
`-EAGAIN` or `-ENOTCONN`; `request_state_transfer` marks the recovery marker unsafe before a real
SST, sends, waits on `sst_cond_` for the application's `sst_received`, installs the received
position, and runs the IST with `recv_IST` when the envelope carried an IST part.

Each loop of the source is a function by structural recursion on the collaborator's answers: the
retry loop on the group layer's answers, the receive loop on the IST receiver's. A loop whose
answers run out before it ends has not ended, and the run stops as `blocked`.
-/

namespace GaleraStateTransfer

open JoinerM

/-- `retry_str (ret)`: the group layer's answers on which the request is sent again. -/
def retryStr (ret : Int) : Bool := ret == -EAGAIN || ret == -ENOTCONN

/-- The `do ... while (retry_str (ret))` loop of `send_state_request`, one turn for each answer
`(ret, seqno_l)` of `gcs_.request_state_transfer`. -/
def sendLoop (env : JoinerEnv) (req : StateRequest) (ist_uuid : Uuid) (ist_seqno : Int)
    (isUnsafe : Bool) : List (Int × Int) → JoinerM Int
  | [] => stop .blocked
  | (ret, seqno_l) :: answers => do
    call (.gcsRequest req.req req.len ist_uuid ist_seqno)
    if ret = -ENODATA then
      if isUnsafe then call .markSafe
      stop .aborts
    else
      let ret ← if seqno_l ≠ GCS_SEQNO_ILL then
          if env.wouldBlock seqno_l then pure (-EDEADLK)
          else do
            call (.selfCancel seqno_l)
            pure ret
        else pure ret
      if retryStr ret then sendLoop env req ist_uuid ist_seqno isUnsafe answers else pure ret

/-- The IST target `send_state_request` hands the group layer: the uuid and last applied seqno of
the envelope's descriptor, or the nil uuid and `GCS_SEQNO_ILL` when there is no IST part. -/
def istTarget (req : StateRequest) : JoinerM (Uuid × Int) :=
  if req.istLen ≠ 0 then
    match getIstRequest req with
    | .ok istr => pure (istr.uuid, istr.lastApplied)
    | .error e => stop (.throws e)
  else pure (Uuid.nil, GCS_SEQNO_ILL)

/-- The failure branch of `send_state_request`: the position is persisted, and the process aborts
unless the failure is `-ENODATA` or the node is closing. -/
def sendFailed (env : JoinerEnv) (ret : Int) (isUnsafe : Bool) : JoinerM Int := do
  update fun j => { j with sstState := .reqFailed }
  let j ← current
  stSet j.stateUuid j.stateSeqno j.safeToBootstrap
  if ret ≠ -ENODATA ∧ NodeState.closing.rank < env.stateAtSendFailure.rank then
    if !isUnsafe then call .markUnsafe
    stop .aborts
  else
    if isUnsafe then call .markSafe
    pure ret

/-- `ReplicatorSMM::send_state_request (req, unsafe)`. -/
def sendStateRequest (env : JoinerEnv) (req : StateRequest) (isUnsafe : Bool) : JoinerM Int := do
  let ist ← istTarget req
  let ret ← sendLoop env req ist.1 ist.2 isUnsafe env.gcsAnswers
  if 0 ≤ ret then pure ret else sendFailed env ret isUnsafe

/-- `if (ist_prepared_) { ist_prepared_ = false; (void)ist_receiver_.finished (); }`. -/
def closeIstReceiver : JoinerM Unit := do
  let j ← current
  if j.istPrepared then
    update fun j => { j with istPrepared := false }
    call .istFinished

/-- `lock.wait (sst_cond_)`: the SST's result as `sst_received` left it. -/
def sstWait (env : JoinerEnv) : JoinerM Unit := do
  call .sstWait
  match env.sstWake with
  | none => stop .blocked
  | some (state, uuid, seqno) =>
    update fun j => { j with sstState := state, sstUuid := uuid, sstSeqno := seqno }

/-- `st_.get (uuid, seqno, safe_to_bootstrap); if (seqno != WSREP_SEQNO_UNDEFINED) st_.set (uuid,
WSREP_SEQNO_UNDEFINED, safe_to_bootstrap)`: clear the persisted seqno, as `recv_IST` does before its
first write-set and `request_state_transfer` does at its end. -/
def clearPersistedSeqno : JoinerM Unit := do
  let j ← current
  if j.st.seqno ≠ WSREP_SEQNO_UNDEFINED then
    stSet j.st.uuid WSREP_SEQNO_UNDEFINED j.st.safeToBootstrap

/-- The loop of `ReplicatorSMM::recv_IST`, one turn for each answer of `ist_receiver_.recv`;
`first` is true until a write-set has been received. -/
def recvIst (env : JoinerEnv) : Bool → List IstRecv → JoinerM Unit
  | _, [] => stop .blocked
  | _, .done :: _ => pure ()
  | _, .fails :: _ => stop .aborts
  | first, .trx seqno depends verifies applies :: rest => do
    if first then clearPersistedSeqno
    if !verifies then stop .aborts
    else if depends = -1 then
      call (.monitorSelfCancel false seqno)
      if !env.commitBypass then call (.monitorSelfCancel true seqno)
      update fun j => { j with stateSeqno := seqno }
      recvIst env false rest
    else
      call (.applyTrx seqno)
      if !applies then
        call .markCorrupt
        stop .aborts
      else
        update fun j => { j with stateSeqno := seqno }
        recvIst env false rest

/-- Installing the SST's position: `update_state_uuid`, then both monitors restarted at
`sst_seqno_`. -/
def installSst (env : JoinerEnv) : JoinerM Unit := do
  let j ← current
  call (.updateStateUuid j.sstUuid j.sstSeqno)
  update fun j => { j with stateUuid := j.sstUuid }
  call (.setInitialPosition false (-1))
  call (.setInitialPosition false j.sstSeqno)
  update fun j => { j with stateSeqno := j.sstSeqno }
  if !env.commitBypass then
    call (.setInitialPosition true (-1))
    call (.setInitialPosition true j.sstSeqno)

/-- Installing the SST's position takes `state_uuid_` and the apply monitor's position from the SST,
and restarts the monitors there. -/
theorem installSst_eq (env : JoinerEnv) (j : Joiner) :
    installSst env j = ⟨{ j with stateUuid := j.sstUuid, stateSeqno := j.sstSeqno },
      [.updateStateUuid j.sstUuid j.sstSeqno, .setInitialPosition false (-1),
        .setInitialPosition false j.sstSeqno] ++
        (if !env.commitBypass then [.setInitialPosition true (-1), .setInitialPosition true j.sstSeqno]
          else []), .next ()⟩ := by
  cases h : env.commitBypass <;> simp [installSst, JoinerM.bind, h]

/-- The IST of `request_state_transfer`: when the envelope carries an IST part, run it if the
node is still joining, the SST neither failed nor was cancelled and the position is behind the
group's, and close the receiver otherwise. -/
def runIst (env : JoinerEnv) (req : StateRequest) (group_seqno : Int) : JoinerM Unit := do
  if 0 < req.istLen then
    let j ← current
    if j.sstState.rank < SstState.reqFailed.rank ∧ env.stateAtIst = .joining ∧
        j.stateSeqno < group_seqno then
      call .istReady
      recvIst env true env.istRecv
      let j ← current
      if j.istPrepared then
        update fun j => { j with istPrepared := false, sstSeqno := env.istFinished }
        call .istFinished
      let j ← current
      call (.drain j.sstSeqno)
    else closeIstReceiver

/-- The end of `request_state_transfer` once the SST is in place: the persisted seqno cleared, the
marker safe again, the IST, and the seqno cleared again if the IST persisted one. -/
def finishTransfer (env : JoinerEnv) (req : StateRequest) (group_seqno : Int) (isUnsafe : Bool) :
    JoinerM Int := do
  let j ← current
  stSet j.stateUuid WSREP_SEQNO_UNDEFINED j.safeToBootstrap
  if isUnsafe then call .markSafe
  runIst env req group_seqno
  clearPersistedSeqno
  pure 0

/-- What `request_state_transfer` does with the SST's result: a cancel closes the connection and
returns `-ECANCELED`, a state of another history aborts, and anything else is installed. -/
def actOnSst (env : JoinerEnv) (req : StateRequest) (group_uuid : Uuid) (group_seqno : Int)
    (isUnsafe : Bool) : JoinerM Int := do
  let j ← current
  if j.sstState = .canceled then
    if !isUnsafe then call .markUnsafe
    call .close
    pure (-ECANCELED)
  else if j.sstUuid ≠ group_uuid then
    update fun j => { j with sstState := .failed }
    stSet j.sstUuid j.sstSeqno j.safeToBootstrap
    if isUnsafe then call .markSafe
    stop .aborts
  else
    installSst env
    finishTransfer env req group_seqno isUnsafe

/-- The SST part of `request_state_transfer` after the request was sent: a trivial SST's result is
the group's position, any other is waited for. -/
def awaitSst (env : JoinerEnv) (req : StateRequest) (group_uuid : Uuid) (group_seqno : Int)
    (trivial isUnsafe : Bool) : JoinerM Int := do
  if trivial then update fun j => { j with sstUuid := group_uuid, sstSeqno := group_seqno }
  else sstWait env
  actOnSst env req group_uuid group_seqno isUnsafe

/-- `ReplicatorSMM::request_state_transfer (recv_ctx, group_uuid, group_seqno, sst_req,
sst_req_len)`. -/
def requestStateTransfer (env : JoinerEnv) (group_uuid : Uuid) (group_seqno : Int)
    (sst_req : Bytes) : JoinerM Int := do
  let req ← prepareStateRequest env sst_req group_uuid group_seqno
  let trivial := sstIsTrivial sst_req sst_req.length
  let isUnsafe := sst_req.length != 0 && !trivial
  if isUnsafe then call .markUnsafe
  update fun j => { j with sstState := .wait }
  let ret ← sendStateRequest env req isUnsafe
  if ret < 0 then
    closeIstReceiver
    pure ret
  else
    call (.shiftTo .joining)
    call (.seqnoReset group_uuid group_seqno)
    if sst_req.length ≠ 0 then awaitSst env req group_uuid group_seqno trivial isUnsafe
    else finishTransfer env req group_seqno isUnsafe

/-! ## The shape of a run -/

/-- What a run of `request_state_transfer` is made of: the request is built; then, marked unsafe
first for a real SST, it is sent; after a failed send the IST receiver is closed, and after a
successful one the node shifts to JOINING, the cache is reset, and the SST is waited for (or, with
no SST payload, the transfer finishes at once). -/
theorem requestStateTransfer_cases (env : JoinerEnv) (group_uuid : Uuid) (group_seqno : Int)
    (sst : Bytes) (j : Joiner) :
    (∃ j1 cs1 s, prepareStateRequest env sst group_uuid group_seqno j = ⟨j1, cs1, .stop s⟩ ∧
      requestStateTransfer env group_uuid group_seqno sst j = ⟨j1, cs1, .stop s⟩) ∨
    ∃ j1 cs1 req, prepareStateRequest env sst group_uuid group_seqno j = ⟨j1, cs1, .next req⟩ ∧
      ∃ j2 cs2 e2, sendStateRequest env req (sst.length != 0 && !sstIsTrivial sst sst.length)
          { j1 with sstState := .wait } = ⟨j2, cs2, e2⟩ ∧
      ((∃ s, e2 = .stop s ∧ requestStateTransfer env group_uuid group_seqno sst j =
          ⟨j2, cs1 ++ (if sst.length != 0 && !sstIsTrivial sst sst.length then [.markUnsafe]
            else []) ++ cs2, .stop s⟩) ∨
        (∃ ret j3 cs3, e2 = .next ret ∧ ret < 0 ∧ closeIstReceiver j2 = ⟨j3, cs3, .next ()⟩ ∧
          requestStateTransfer env group_uuid group_seqno sst j =
            ⟨j3, cs1 ++ (if sst.length != 0 && !sstIsTrivial sst sst.length then [.markUnsafe]
              else []) ++ cs2 ++ cs3, .next ret⟩) ∨
        (∃ ret, e2 = .next ret ∧ 0 ≤ ret ∧
          requestStateTransfer env group_uuid group_seqno sst j =
            ⟨((if sst.length ≠ 0 then
                awaitSst env req group_uuid group_seqno (sstIsTrivial sst sst.length)
                  (sst.length != 0 && !sstIsTrivial sst sst.length)
              else finishTransfer env req group_seqno
                (sst.length != 0 && !sstIsTrivial sst sst.length)) j2).joiner,
              cs1 ++ (if sst.length != 0 && !sstIsTrivial sst sst.length then [.markUnsafe]
                else []) ++ cs2 ++ .shiftTo .joining :: .seqnoReset group_uuid group_seqno ::
                ((if sst.length ≠ 0 then
                  awaitSst env req group_uuid group_seqno (sstIsTrivial sst sst.length)
                    (sst.length != 0 && !sstIsTrivial sst sst.length)
                else finishTransfer env req group_seqno
                  (sst.length != 0 && !sstIsTrivial sst sst.length)) j2).calls,
              ((if sst.length ≠ 0 then
                  awaitSst env req group_uuid group_seqno (sstIsTrivial sst sst.length)
                    (sst.length != 0 && !sstIsTrivial sst sst.length)
                else finishTransfer env req group_seqno
                  (sst.length != 0 && !sstIsTrivial sst sst.length)) j2).ends⟩)) := by
  simp only [requestStateTransfer, run_bind, JoinerM.bind]
  generalize prepareStateRequest env sst group_uuid group_seqno j = o1
  rcases o1 with ⟨j1, cs1, req | s⟩
  · refine .inr ⟨j1, cs1, req, rfl, ?_⟩
    dsimp only
    generalize sstIsTrivial sst sst.length = t
    generalize (sst.length != 0 && !t) = b
    simp only [ite_run, run_call, run_pure, run_update, run_bind, JoinerM.bind]
    generalize sendStateRequest env req b { j1 with sstState := .wait } = o2
    rcases o2 with ⟨j2, cs2, ret | s⟩
    · refine ⟨j2, cs2, _, rfl, ?_⟩
      dsimp only
      by_cases hr : ret < 0
      · obtain ⟨j3, cs3, h3⟩ : ∃ j3 cs3, closeIstReceiver j2 = ⟨j3, cs3, .next ()⟩ := by
          simp only [closeIstReceiver, run_bind, JoinerM.bind, run_current, ite_run]
          split <;> exact ⟨_, _, rfl⟩
        refine .inr (.inl ⟨ret, j3, cs3, rfl, hr, h3, ?_⟩)
        cases b <;> simp [hr, h3]
      · refine .inr (.inr ⟨ret, rfl, not_lt.1 hr, ?_⟩)
        cases b <;> simp [hr]
    · refine ⟨j2, cs2, _, rfl, .inl ⟨s, rfl, ?_⟩⟩
      cases b <;> simp
  · exact .inl ⟨j1, cs1, s, rfl, rfl⟩

end GaleraStateTransfer
