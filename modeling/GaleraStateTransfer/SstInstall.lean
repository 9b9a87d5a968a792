import GaleraStateTransfer.SstSignal
import GaleraStateTransfer.Joiner.Marker

/-!
# What `request_state_transfer` installs after `sst_received`

The two halves of the SST's result meet here: the schedules of `sst_received` and of the joiner's
wait on `sst_cond_` (`SstSignal`), and what `request_state_transfer` does with the fields it finds on
waking (`Joiner.Transfer`).

`sst_received` records a failed SST only as `sst_seqno_ = WSREP_SEQNO_UNDEFINED`, and writes
`sst_state_` only for a cancel; `request_state_transfer` looks only at `SST_CANCELED` and at the uuid.
So a failure reported with the group's uuid is installed as the position `(group_uuid, -1)`, the IST
is started after it, and the function returns 0 when it returns at all.
-/

namespace GaleraStateTransfer

open JoinerM

/-- Woken, the joiner takes the SST's fields as it finds them. -/
theorem sstWait_woken (env : JoinerEnv) {state : SstState} {uuid : Uuid} {seqno : Int}
    (h : env.sstWake = some (state, uuid, seqno)) (j : Joiner) :
    sstWait env j =
      ⟨{ j with sstState := state, sstUuid := uuid, sstSeqno := seqno }, [.sstWait], .next ()⟩ := by
  simp [sstWait, h, JoinerM.bind]

/-- An SST that was not cancelled and is of the group's history is installed, and the transfer
finished from the installed position. -/
theorem actOnSst_install (env : JoinerEnv) (req : StateRequest) (group_uuid : Uuid)
    (group_seqno : Int) (b : Bool) (j : Joiner) (hc : j.sstState ≠ .canceled)
    (hu : j.sstUuid = group_uuid) :
    actOnSst env req group_uuid group_seqno b j =
      ⟨(finishTransfer env req group_seqno b
          { j with stateUuid := j.sstUuid, stateSeqno := j.sstSeqno }).joiner,
        .updateStateUuid j.sstUuid j.sstSeqno :: .setInitialPosition false (-1) ::
          .setInitialPosition false j.sstSeqno ::
          ((if !env.commitBypass then
            [.setInitialPosition true (-1), .setInitialPosition true j.sstSeqno] else []) ++
          (finishTransfer env req group_seqno b
            { j with stateUuid := j.sstUuid, stateSeqno := j.sstSeqno }).calls),
        (finishTransfer env req group_seqno b
          { j with stateUuid := j.sstUuid, stateSeqno := j.sstSeqno }).ends⟩ := by
  rw [actOnSst, run_bind_next (run_current j)]
  simp only [if_neg hc, if_neg (not_not.2 hu), List.nil_append]
  rw [run_bind_next (installSst_eq env j)]
  simp

/-- The IST starts when the envelope has an IST part, the SST neither failed nor was cancelled,
the node is still joining, and its position is behind the group's. -/
theorem finishTransfer_istReady (env : JoinerEnv) (req : StateRequest) (group_seqno : Int)
    (b : Bool) (j : Joiner) (hi : 0 < req.istLen) (hs : j.sstState.rank < SstState.reqFailed.rank)
    (hj : env.stateAtIst = .joining) (hq : j.stateSeqno < group_seqno) :
    JoinerCall.istReady ∈ (finishTransfer env req group_seqno b j).calls := by
  have hr : ∃ cs, (runIst env req group_seqno
      { j with st := ⟨j.stateUuid, WSREP_SEQNO_UNDEFINED, j.safeToBootstrap⟩ }).calls =
        .istReady :: cs := by
    simp only [runIst, if_pos hi, run_bind, JoinerM.bind, run_current]
    rw [if_pos ⟨hs, hj, hq⟩]
    exact ⟨_, rfl⟩
  obtain ⟨cs, hcs⟩ := hr
  simp only [finishTransfer, run_bind, JoinerM.bind, run_current, run_stSet, run_call, ite_run]
  generalize runIst env req group_seqno
    { j with st := ⟨j.stateUuid, WSREP_SEQNO_UNDEFINED, j.safeToBootstrap⟩ } = o at hcs ⊢
  rcases o with ⟨j3, cs3, _ | s⟩ <;> dsimp only at hcs <;> subst hcs <;> split <;> simp

/-- For every result `sst_received` reports with a negative code other than `-ECANCELED` and with
the group's uuid, and every schedule in which that call wakes a `request_state_transfer` waiting for a
non-trivial SST whose request was sent: the joiner installs the position `(group_uuid,
WSREP_SEQNO_UNDEFINED)` through `update_state_uuid` and `set_initial_position`, starts the IST when
the envelope has an IST part, the node is still joining and the group is past seqno -1, and returns
0 whenever it returns. -/
theorem sst_failure_installed (r : SstResult) (state : SstState) (uuid : Uuid) (seqno : Int)
    (sch : List Thread) {σ : SstSync} (hx : exec r (SstSync.init state uuid seqno) sch = some σ)
    (hp : σ.joiner = .passed) (hneg : r.rcode < 0) (hc : r.rcode ≠ -ECANCELED) (env : JoinerEnv)
    (hw : env.sstWake = some (σ.sstState, σ.sstUuid, σ.sstSeqno)) (group_seqno : Int)
    (sst : Bytes) (hsst : sst ≠ []) (ht : sstIsTrivial sst sst.length = false) (j j1 : Joiner)
    (cs1 : List JoinerCall) (req : StateRequest)
    (h1 : prepareStateRequest env sst r.uuid group_seqno j = ⟨j1, cs1, .next req⟩) (ret : Int)
    (h2 : (sendStateRequest env req true { j1 with sstState := .wait }).ends = .next ret)
    (hret : 0 ≤ ret) :
    JoinerCall.updateStateUuid r.uuid WSREP_SEQNO_UNDEFINED ∈
        (requestStateTransfer env r.uuid group_seqno sst j).calls ∧
      JoinerCall.setInitialPosition false WSREP_SEQNO_UNDEFINED ∈
        (requestStateTransfer env r.uuid group_seqno sst j).calls ∧
      (0 < req.istLen → env.stateAtIst = .joining → WSREP_SEQNO_UNDEFINED < group_seqno →
        JoinerCall.istReady ∈ (requestStateTransfer env r.uuid group_seqno sst j).calls) ∧
      ∀ v, (requestStateTransfer env r.uuid group_seqno sst j).ends = .next v → v = 0 := by
  -- what the joiner finds on waking
  obtain ⟨hu, hq, hst⟩ := ((SyncInv.init r state uuid seqno).exec hx).passed hp
  have hwait : σ.sstState = .wait := hst.resolve_right fun h => hc h.2
  have hseq : σ.sstSeqno = WSREP_SEQNO_UNDEFINED := by
    rw [hq, SstResult.storedSeqno, if_pos (by omega)]
  rw [hwait, hu, hseq] at hw
  -- the run up to the wait
  have hlen : sst.length ≠ 0 := fun h => hsst (List.length_eq_zero.1 h)
  have hb : (sst.length != 0 && !sstIsTrivial sst sst.length) = true := by simp [hlen, ht]
  rcases requestStateTransfer_cases env r.uuid group_seqno sst j with
    ⟨_, _, _, h, -⟩ | ⟨j1', cs1', req', h, j2, cs2, e2, h2', hcase⟩
  · rw [h1] at h; cases h
  rw [h1] at h
  obtain ⟨rfl, rfl, rfl⟩ : j1 = j1' ∧ cs1 = cs1' ∧ req = req' := by simpa using h
  rw [hb] at h2' hcase
  have hj := sendStateRequest_marker (fun _ _ => True) env req true { j1 with sstState := .wait }
    .inside trivial fun _ => rfl
  rw [h2'] at h2 hj
  obtain rfl : e2 = .next ret := h2
  rcases hcase with ⟨s, hs', -⟩ | ⟨ret', -, -, hs', hneg', -⟩ | ⟨ret', hret', -, hrun⟩
  · cases hs'
  · cases hs'; omega
  obtain rfl : ret = ret' := by cases hret'; rfl
  obtain rfl : j2 = { j1 with sstState := .wait } := by
    rcases hj.2.2 ret rfl with ⟨-, -, h, -⟩ | ⟨h, -⟩
    · exact h
    · omega
  -- the wait, the install and the end of the transfer
  rw [hrun, if_pos hlen, ht, awaitSst, if_neg Bool.false_ne_true, run_bind_next (sstWait_woken env hw _)]
  dsimp only
  rw [actOnSst_install env req r.uuid group_seqno true _ (by simp) rfl]
  obtain ⟨-, -, -, hend⟩ := finishTransfer_marker env req group_seqno true
    { j1 with
      sstState := .wait, sstUuid := r.uuid, sstSeqno := WSREP_SEQNO_UNDEFINED,
      stateUuid := r.uuid, stateSeqno := WSREP_SEQNO_UNDEFINED }
  refine ⟨by simp, by simp, fun hi hjn hg => ?_, fun v hv => (hend v hv).1⟩
  have := finishTransfer_istReady env req group_seqno true
    { j1 with
      sstState := .wait, sstUuid := r.uuid, sstSeqno := WSREP_SEQNO_UNDEFINED,
      stateUuid := r.uuid, stateSeqno := WSREP_SEQNO_UNDEFINED } hi (by simp [SstState.rank]) hjn hg
  simp [this]

/-- The pure-IST scenario's collaborators, waking the joiner with the SST's fields as a failed
`sst_received` of the nil history leaves them. -/
def sstFailEnv : JoinerEnv :=
  { pureIstEnv with sstWake := some (.wait, Uuid.nil, WSREP_SEQNO_UNDEFINED) }

/-- The application reports `-ECONNABORTED` with the group's uuid after the joiner waits: the
joiner with no position installs `(nil, -1)` and returns 0. -/
theorem sst_failure_installed_fresh :
    (∃ σ, exec ⟨Uuid.nil, WSREP_SEQNO_UNDEFINED, -ECONNABORTED⟩ (SstSync.init .none Uuid.nil (-1))
        [.joiner, .joiner, .joiner, .joiner, .receiver, .receiver, .receiver, .receiver,
          .receiver, .receiver, .joiner] = some σ ∧ σ.joiner = .passed ∧
      sstFailEnv.sstWake = some (σ.sstState, σ.sstUuid, σ.sstSeqno)) ∧
      (requestStateTransfer sstFailEnv Uuid.nil 100 (ascii "xb") freshJoiner).ends = .next 0 ∧
      JoinerCall.updateStateUuid Uuid.nil WSREP_SEQNO_UNDEFINED ∈
        (requestStateTransfer sstFailEnv Uuid.nil 100 (ascii "xb") freshJoiner).calls := by
  have h := sst_failure_installed ⟨Uuid.nil, WSREP_SEQNO_UNDEFINED, -ECONNABORTED⟩ .none Uuid.nil
    (-1) [.joiner, .joiner, .joiner, .joiner, .receiver, .receiver, .receiver, .receiver,
      .receiver, .receiver, .joiner] rfl rfl (by decide) (by decide) sstFailEnv rfl 100
    (ascii "xb") (by decide) (by decide) freshJoiner freshJoiner []
    (.v1 ⟨(layout NUL (ascii "xb") []).length, layout NUL (ascii "xb") []⟩) rfl 0 (by decide) le_rfl
  exact ⟨⟨_, rfl, rfl, rfl⟩, by decide, h.1⟩

end GaleraStateTransfer
