import GaleraStateTransfer.Handshake

/-!
# Envelopes without an IST part

`prepare_state_request` sends an envelope without an IST part whenever `prepare_for_IST` throws:
the joiner's history is not the group's, its position is undefined, the IST receiver cannot be
prepared, or the descriptor cannot be copied. The last of these throws after the receiver was
prepared and `ist_prepared_` set.

After a successful send, `request_state_transfer` looks at the IST receiver only when the envelope
has an IST part. So a run with such an envelope returns 0 once the SST is installed, or at once
with no SST payload, even when the request asked for nothing; and it leaves a receiver it prepared
open.
-/

namespace GaleraStateTransfer

open JoinerM

/-! ## Code that leaves the IST receiver alone -/

/-- A run of the joiner's code from `j` that leaves the IST receiver as it found it: `ist_prepared_`
is unchanged and `ist_receiver_.finished ()` is not called. -/
def KeepsReceiver (j : Joiner) (o : Outcome α) : Prop :=
  o.joiner.istPrepared = j.istPrepared ∧ JoinerCall.istFinished ∉ o.calls

/-- Two pieces of code that leave the receiver alone make a whole that does. -/
theorem KeepsReceiver.bind {x : JoinerM α} {f : α → JoinerM β} {j j' : Joiner}
    {cs : List JoinerCall} {a : α} (hx : x j = ⟨j', cs, .next a⟩) (h1 : KeepsReceiver j (x j))
    (h2 : KeepsReceiver j' (f a j')) : KeepsReceiver j ((x >>= f) j) := by
  rw [hx] at h1
  rw [run_bind_next hx]
  exact ⟨h2.1.trans h1.1, by simpa using ⟨h1.2, h2.2⟩⟩

/-- Without an IST part, the IST step does nothing. -/
theorem runIst_of_istLen_zero (env : JoinerEnv) (req : StateRequest) (group_seqno : Int)
    (j : Joiner) (h : req.istLen = 0) : runIst env req group_seqno j = ⟨j, [], .next ()⟩ := by
  simp [runIst, h]

/-- Without an IST part, the end of a transfer persists the cleared seqno, marks the state safe
after a real SST, and returns 0. -/
theorem finishTransfer_of_istLen_zero (env : JoinerEnv) (req : StateRequest) (group_seqno : Int)
    (b : Bool) (j : Joiner) (h : req.istLen = 0) :
    finishTransfer env req group_seqno b j =
      ⟨{ j with st := ⟨j.stateUuid, WSREP_SEQNO_UNDEFINED, j.safeToBootstrap⟩ },
        .stSet j.stateUuid WSREP_SEQNO_UNDEFINED j.safeToBootstrap ::
          (if b then [.markSafe] else []), .next 0⟩ := by
  cases b <;> simp [finishTransfer, runIst_of_istLen_zero _ _ _ _ h, clearPersistedSeqno,
    JoinerM.bind]

theorem sendFailed_keepsReceiver (env : JoinerEnv) (ret : Int) (b : Bool) (j : Joiner) :
    KeepsReceiver j (sendFailed env ret b j) := by
  simp only [KeepsReceiver, sendFailed, run_bind, JoinerM.bind, run_update, run_current, run_stSet,
    ite_run]
  split_ifs <;> simp

/-- `send_state_request` leaves the receiver alone. -/
theorem sendStateRequest_keepsReceiver (env : JoinerEnv) (req : StateRequest) (b : Bool)
    (j : Joiner) : KeepsReceiver j (sendStateRequest env req b j) := by
  simp only [sendStateRequest, run_bind, JoinerM.bind]
  obtain ⟨hj1, hc1⟩ := istTarget_run req j
  generalize istTarget req j = o1 at hj1 hc1 ⊢
  rcases o1 with ⟨j1, cs1, ist | s⟩ <;> simp only at hj1 hc1 ⊢ <;> subst j1 cs1
  · have hj2 := (sendLoop_marker (fun _ _ => True) env req ist.1 ist.2 b env.gcsAnswers j 1 .inside
      zero_le_one fun _ => ⟨rfl, rfl⟩).1
    have hc2 := sendLoop_calls env req ist.1 ist.2 b env.gcsAnswers j
    generalize sendLoop env req ist.1 ist.2 b env.gcsAnswers j = o2 at hj2 hc2 ⊢
    rcases o2 with ⟨j2, cs2, ret | s⟩ <;> simp only at hj2 hc2 ⊢ <;> subst j2
    · have hcs2 : JoinerCall.istFinished ∉ cs2 := fun h => by
        rcases hc2 _ h with h | h | ⟨s, h⟩ <;> cases h
      by_cases hr : 0 ≤ ret
      · simp [KeepsReceiver, hr, hcs2]
      · have h3 := sendFailed_keepsReceiver env ret b j
        simp only [ite_run, if_neg hr, List.nil_append]
        exact ⟨h3.1, by simpa [hcs2] using h3.2⟩
    · exact ⟨rfl, fun h => by rcases hc2 _ h with h | h | ⟨s, h⟩ <;> cases h⟩
  · exact ⟨rfl, by simp⟩

/-- Without an IST part, acting on the SST's result leaves the receiver alone. -/
theorem actOnSst_keepsReceiver (env : JoinerEnv) (req : StateRequest) (group_uuid : Uuid)
    (group_seqno : Int) (b : Bool) (j : Joiner) (h : req.istLen = 0) :
    KeepsReceiver j (actOnSst env req group_uuid group_seqno b j) := by
  rw [actOnSst, run_bind_next (run_current j)]
  by_cases hc : j.sstState = .canceled
  · cases b <;> simp [KeepsReceiver, hc, JoinerM.bind]
  by_cases hu : j.sstUuid = group_uuid
  · simp only [if_neg hc, hu, ne_eq, not_true_eq_false, if_false, run_bind_next (installSst_eq env j),
      finishTransfer_of_istLen_zero _ _ _ _ _ h]
    refine ⟨rfl, ?_⟩
    cases b <;> cases env.commitBypass <;> simp
  · cases b <;> simp [KeepsReceiver, hc, hu, JoinerM.bind]

/-- Without an IST part, waiting for the SST and acting on it leaves the receiver alone. -/
theorem awaitSst_keepsReceiver (env : JoinerEnv) (req : StateRequest) (group_uuid : Uuid)
    (group_seqno : Int) (trivial b : Bool) (j : Joiner) (h : req.istLen = 0) :
    KeepsReceiver j (awaitSst env req group_uuid group_seqno trivial b j) := by
  cases trivial
  · cases hw : env.sstWake with
    | none => simp [KeepsReceiver, awaitSst, sstWait, hw, JoinerM.bind]
    | some w =>
      obtain ⟨state, uuid, seqno⟩ := w
      have ha := actOnSst_keepsReceiver env req group_uuid group_seqno b
        { j with sstState := state, sstUuid := uuid, sstSeqno := seqno } h
      simp only [awaitSst, sstWait, hw, run_bind, JoinerM.bind, run_call, run_update,
        Bool.false_eq_true, if_false, List.nil_append, List.singleton_append]
      exact ⟨ha.1, by simpa using ha.2⟩
  · have ha := actOnSst_keepsReceiver env req group_uuid group_seqno b
      { j with sstUuid := group_uuid, sstSeqno := group_seqno } h
    simpa [awaitSst, JoinerM.bind] using ha

/-- Building the request calls on the IST receiver at most to prepare it. -/
theorem prepareStateRequest_keepsReceiver (env : JoinerEnv) (sst : Bytes) (group_uuid : Uuid)
    (group_seqno : Int) (j : Joiner) :
    JoinerCall.istFinished ∉ (prepareStateRequest env sst group_uuid group_seqno j).calls := by
  by_cases h0 : env.strProtoVer = 0
  · simp [prepareStateRequest, h0]
  by_cases hv : env.strProtoVer = 1 ∨ env.strProtoVer = 2
  · obtain ⟨j', cs, ist, hp, hcs⟩ : ∃ j' cs ist,
        prepareForIst env group_uuid group_seqno j = ⟨j', cs, .next ist⟩ ∧
          JoinerCall.istFinished ∉ cs := by
      rw [prepareForIst_eq]
      split_ifs
      · exact ⟨_, _, _, rfl, List.not_mem_nil _⟩
      all_goals split <;> exact ⟨_, _, _, rfl, by simp⟩
    rw [prepareStateRequest_v1 env sst group_uuid group_seqno hv hp]
    split <;> exact hcs
  · simp [prepareStateRequest, h0, hv]

/-- `prepare_for_IST` throws when the joiner's history is not the group's, its position is
undefined, the receiver cannot be prepared, or the descriptor cannot be copied. -/
theorem prepareForIst_throws (env : JoinerEnv) (group_uuid : Uuid) (group_seqno : Int) (j : Joiner)
    (h : j.stateUuid ≠ group_uuid ∨ j.stateSeqno < 0 ∨
      (env.istPrepare (j.stateSeqno + 1) group_seqno).toOption = none ∨ env.strdupOk = false) :
    ∃ j' cs e, prepareForIst env group_uuid group_seqno j = ⟨j', cs, .next (.error e)⟩ := by
  rw [prepareForIst_eq]
  by_cases h1 : j.stateUuid ≠ group_uuid ∨ j.stateSeqno < 0
  · exact ⟨_, _, _, if_pos h1⟩
  rw [if_neg h1]
  cases hp : env.istPrepare (j.stateSeqno + 1) group_seqno with
  | error e => exact ⟨_, _, _, rfl⟩
  | ok a =>
    have hd : env.strdupOk = false := by
      rcases h with h | h | h | h
      · exact absurd (.inl h) h1
      · exact absurd (.inr h) h1
      · simp [hp, Except.toOption] at h
      · exact h
    simp only [hd, Bool.false_eq_true, if_false]
    exact ⟨_, _, _, rfl⟩

/-- The envelope built around an empty SST payload when `prepare_for_IST` throws, or with protocol
0, has neither an SST part nor an IST part. -/
theorem prepareStateRequest_empty (env : JoinerEnv) (group_uuid : Uuid) (group_seqno : Int)
    (j : Joiner) (hv : env.strProtoVer = 0 ∨ env.strProtoVer = 1 ∨ env.strProtoVer = 2)
    (hfail : env.strProtoVer = 0 ∨ j.stateUuid ≠ group_uuid ∨ j.stateSeqno < 0 ∨
      (env.istPrepare (j.stateSeqno + 1) group_seqno).toOption = none ∨ env.strdupOk = false) :
    ∃ j1 cs1 req, prepareStateRequest env [] group_uuid group_seqno j = ⟨j1, cs1, .next req⟩ ∧
      req.sstLen = 0 ∧ req.istLen = 0 := by
  by_cases h0 : env.strProtoVer = 0
  · exact ⟨j, [], .v0 [] 0, by simp [prepareStateRequest, h0], rfl, rfl⟩
  have hv : env.strProtoVer = 1 ∨ env.strProtoVer = 2 := hv.resolve_left h0
  obtain ⟨j', cs, e, hp⟩ := prepareForIst_throws env group_uuid group_seqno j
    ((hfail.resolve_left h0))
  have henc : StateRequestV1.encode [] [] = .ok ⟨(layout NUL [] []).length, layout NUL [] []⟩ :=
    StateRequestV1.encode_ok [] [] (by decide) (by decide)
  rw [prepareStateRequest_v1 env [] group_uuid group_seqno hv hp]
  exact ⟨j', cs, .v1 ⟨(layout NUL [] []).length, layout NUL [] []⟩, by simp only [henc], by decide,
    by decide⟩

/-! ## A run with an envelope without an IST part -/

/-- After a successful send of an envelope without an IST part, `request_state_transfer` leaves
the receiver as the request left it, and with no SST payload it returns 0. -/
theorem requestStateTransfer_without_ist (env : JoinerEnv) (group_uuid : Uuid) (group_seqno : Int)
    (sst : Bytes) {j j1 : Joiner} {cs1 : List JoinerCall} {req : StateRequest}
    (h1 : prepareStateRequest env sst group_uuid group_seqno j = ⟨j1, cs1, .next req⟩)
    (hi : req.istLen = 0) {ret : Int}
    (h2 : (sendStateRequest env req (sst.length != 0 && !sstIsTrivial sst sst.length)
      { j1 with sstState := .wait }).ends = .next ret) (hr : 0 ≤ ret) :
    (requestStateTransfer env group_uuid group_seqno sst j).joiner.istPrepared = j1.istPrepared ∧
      JoinerCall.istFinished ∉ (requestStateTransfer env group_uuid group_seqno sst j).calls ∧
      cs1 <+: (requestStateTransfer env group_uuid group_seqno sst j).calls ∧
      (sst = [] → (requestStateTransfer env group_uuid group_seqno sst j).ends = .next 0) := by
  have hs := sendStateRequest_keepsReceiver env req (sst.length != 0 && !sstIsTrivial sst sst.length)
    { j1 with sstState := .wait }
  have hj := sendStateRequest_marker (fun _ _ => True) env req
    (sst.length != 0 && !sstIsTrivial sst sst.length) { j1 with sstState := .wait } .inside trivial
    fun _ => rfl
  rcases requestStateTransfer_cases env group_uuid group_seqno sst j with
    ⟨_, _, _, h, -⟩ | ⟨j1', cs1', req', h, j2, cs2, e2, h2', hcase⟩
  · rw [h1] at h; cases h
  rw [h1] at h
  obtain ⟨rfl, rfl, rfl⟩ : j1 = j1' ∧ cs1 = cs1' ∧ req = req' := by simpa using h
  rw [h2'] at h2 hs hj
  obtain rfl : e2 = .next ret := h2
  rcases hcase with ⟨s, hs', -⟩ | ⟨ret', -, -, hs', hneg, -⟩ | ⟨ret', hret, -, hrun⟩
  · cases hs'
  · cases hs'; omega
  obtain rfl : ret = ret' := by cases hret; rfl
  obtain rfl : j2 = { j1 with sstState := .wait } := by
    rcases hj.2.2 ret rfl with ⟨-, -, h, -⟩ | ⟨h, -⟩
    · exact h
    · omega
  rw [hrun]
  have hk : KeepsReceiver { j1 with sstState := .wait }
      ((if sst.length ≠ 0 then
          awaitSst env req group_uuid group_seqno (sstIsTrivial sst sst.length)
            (sst.length != 0 && !sstIsTrivial sst sst.length)
        else finishTransfer env req group_seqno (sst.length != 0 && !sstIsTrivial sst sst.length))
        { j1 with sstState := .wait }) := by
    split
    · exact awaitSst_keepsReceiver _ _ _ _ _ _ _ hi
    · rw [finishTransfer_of_istLen_zero _ _ _ _ _ hi]
      split <;> simp [KeepsReceiver]
  have hp := prepareStateRequest_keepsReceiver env sst group_uuid group_seqno j
  rw [h1] at hp
  refine ⟨hk.1, by simpa [hp, hs.2] using hk.2, ?_, ?_⟩
  · simp only [List.append_assoc]
    exact List.prefix_append _ _
  rintro rfl
  simp [finishTransfer_of_istLen_zero _ _ _ _ _ hi]

/-- A run that returns a non-negative code sent its envelope successfully. -/
theorem requestStateTransfer_sent (env : JoinerEnv) (group_uuid : Uuid) (group_seqno : Int)
    (sst : Bytes) {j j1 : Joiner} {cs1 : List JoinerCall} {req : StateRequest}
    (h1 : prepareStateRequest env sst group_uuid group_seqno j = ⟨j1, cs1, .next req⟩) {r : Int}
    (hr : (requestStateTransfer env group_uuid group_seqno sst j).ends = .next r) (h0 : 0 ≤ r) :
    ∃ ret, 0 ≤ ret ∧ (sendStateRequest env req (sst.length != 0 && !sstIsTrivial sst sst.length)
      { j1 with sstState := .wait }).ends = .next ret := by
  rcases requestStateTransfer_cases env group_uuid group_seqno sst j with
    ⟨_, _, _, h, -⟩ | ⟨j1', cs1', req', h, j2, cs2, e2, h2, hcase⟩
  · rw [h1] at h; cases h
  rw [h1] at h
  obtain ⟨rfl, rfl, rfl⟩ : j1 = j1' ∧ cs1 = cs1' ∧ req = req' := by simpa using h
  rw [h2]
  rcases hcase with ⟨s, rfl, hrun⟩ | ⟨ret, j3, cs3, rfl, hneg, -, hrun⟩ | ⟨ret, rfl, hret, -⟩
  · rw [hrun] at hr; cases hr
  · rw [hrun] at hr; cases hr; omega
  · exact ⟨ret, hret, rfl⟩

/-! ## The request that asks for nothing, and the receiver left open -/

/-- With an empty SST payload, and protocol 0 or a `prepare_for_IST` that throws, the envelope has
neither an SST part nor an IST part, and once it is sent `request_state_transfer` returns 0. -/
theorem request_state_transfer_asks_nothing (env : JoinerEnv) (group_uuid : Uuid)
    (group_seqno : Int) (j : Joiner) (hv : env.strProtoVer = 0 ∨ env.strProtoVer = 1 ∨ env.strProtoVer = 2)
    (hfail : env.strProtoVer = 0 ∨ j.stateUuid ≠ group_uuid ∨ j.stateSeqno < 0 ∨
      (env.istPrepare (j.stateSeqno + 1) group_seqno).toOption = none ∨ env.strdupOk = false) :
    ∃ j1 cs1 req, prepareStateRequest env [] group_uuid group_seqno j = ⟨j1, cs1, .next req⟩ ∧
      req.sstLen = 0 ∧ req.istLen = 0 ∧
      ∀ ret, 0 ≤ ret → (sendStateRequest env req false { j1 with sstState := .wait }).ends = .next ret →
        (requestStateTransfer env group_uuid group_seqno [] j).ends = .next 0 := by
  obtain ⟨j1, cs1, req, h1, hs, hi⟩ := prepareStateRequest_empty env group_uuid group_seqno j hv hfail
  exact ⟨j1, cs1, req, h1, hs, hi, fun ret hr h2 =>
    (requestStateTransfer_without_ist env group_uuid group_seqno [] h1 hi h2 hr).2.2.2 rfl⟩

/-- A joiner with no position asks the pure-IST group for nothing: the IST cannot be prepared, the
SST payload is empty, and the run returns 0. -/
theorem request_state_transfer_asks_nothing_fresh :
    stateTransferRequired freshJoiner true Uuid.nil 100 = true ∧
      (requestStateTransfer pureIstEnv Uuid.nil 100 [] freshJoiner).ends = .next 0 ∧
      ∃ j1 cs1 req, prepareStateRequest pureIstEnv [] Uuid.nil 100 freshJoiner = ⟨j1, cs1, .next req⟩ ∧
        req.sstLen = 0 ∧ req.istLen = 0 ∧
        ∀ ret, 0 ≤ ret →
          (sendStateRequest pureIstEnv req false { j1 with sstState := .wait }).ends = .next ret →
          (requestStateTransfer pureIstEnv Uuid.nil 100 [] freshJoiner).ends = .next 0 :=
  ⟨by decide, by decide,
    request_state_transfer_asks_nothing pureIstEnv Uuid.nil 100 freshJoiner (by decide) (by decide)⟩

/-- When the IST receiver was prepared but the descriptor could not be copied, every run of
`request_state_transfer` that returns 0 leaves the receiver prepared: `ist_prepared_` is still set,
and `ist_receiver_.finished ()` was never called. -/
theorem request_state_transfer_keeps_receiver (env : JoinerEnv) (group_uuid : Uuid)
    (group_seqno : Int) (sst : Bytes) (j : Joiner) (addr : Bytes)
    (hv : env.strProtoVer = 1 ∨ env.strProtoVer = 2) (hu : j.stateUuid = group_uuid)
    (hs : 0 ≤ j.stateSeqno) (hp : env.istPrepare (j.stateSeqno + 1) group_seqno = .ok addr)
    (hd : env.strdupOk = false)
    (h0 : (requestStateTransfer env group_uuid group_seqno sst j).ends = .next 0) :
    JoinerCall.istPrepare (j.stateSeqno + 1) group_seqno ∈
        (requestStateTransfer env group_uuid group_seqno sst j).calls ∧
      (requestStateTransfer env group_uuid group_seqno sst j).joiner.istPrepared = true ∧
      JoinerCall.istFinished ∉ (requestStateTransfer env group_uuid group_seqno sst j).calls := by
  have hpf : prepareForIst env group_uuid group_seqno j =
      ⟨{ j with istPrepared := true }, [.istPrepare (j.stateSeqno + 1) group_seqno],
        .next (.error ENOMEM)⟩ := by
    rw [prepareForIst_eq, if_neg (not_or.2 ⟨not_not.2 hu, not_lt.2 hs⟩), hp]
    simp [hd]
  have hps := prepareStateRequest_v1 env sst group_uuid group_seqno hv hpf
  cases henc : StateRequestV1.encode sst [] with
  | error e =>
    simp only [henc] at hps
    rcases requestStateTransfer_cases env group_uuid group_seqno sst j with
      ⟨_, _, _, -, hrun⟩ | ⟨_, _, _, h, -⟩
    · rw [hrun] at h0; cases h0
    · rw [hps] at h; cases h
  | ok r =>
    simp only [henc] at hps
    have hi : (StateRequest.v1 r).istLen = 0 := by
      rw [StateRequest.istLen_v1, ← StateRequestV1.length_istSlice,
        (read_state_request_of_encode henc).2.2, List.length_nil]
    obtain ⟨ret, hret, h2⟩ := requestStateTransfer_sent env group_uuid group_seqno sst hps h0 le_rfl
    obtain ⟨hk, hf, hpre, -⟩ :=
      requestStateTransfer_without_ist env group_uuid group_seqno sst hps hi h2 hret
    exact ⟨hpre.subset (List.mem_singleton_self _), hk, hf⟩

/-- The pure-IST scenario's collaborators, but with no memory to copy the descriptor. -/
def noStrdupEnv : JoinerEnv := { pureIstEnv with strdupOk := false }

/-- In the pure-IST scenario with no memory for the descriptor, the run returns 0 with the IST
receiver it prepared still open. -/
theorem request_state_transfer_keeps_receiver_no_strdup :
    (requestStateTransfer noStrdupEnv Uuid.nil 100 [] pureIstJoiner).ends = .next 0 ∧
      JoinerCall.istPrepare 96 100 ∈ (requestStateTransfer noStrdupEnv Uuid.nil 100 [] pureIstJoiner).calls ∧
      (requestStateTransfer noStrdupEnv Uuid.nil 100 [] pureIstJoiner).joiner.istPrepared = true ∧
      JoinerCall.istFinished ∉ (requestStateTransfer noStrdupEnv Uuid.nil 100 [] pureIstJoiner).calls :=
  have h0 : (requestStateTransfer noStrdupEnv Uuid.nil 100 [] pureIstJoiner).ends = .next 0 := by
    decide
  ⟨h0, request_state_transfer_keeps_receiver noStrdupEnv Uuid.nil 100 [] pureIstJoiner
    (ascii "tcp://j:4568") (by decide) rfl (by decide) rfl rfl h0⟩

end GaleraStateTransfer
