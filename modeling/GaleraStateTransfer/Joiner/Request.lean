import GaleraStateTransfer.Joiner.State

/-!
# Building the state-transfer request

`prepare_for_IST` prepares the IST receiver for the joiner's gap and writes the IST descriptor;
`prepare_state_request` wraps the application's SST payload, and the descriptor when there is one,
in the envelope of the protocol version in force. An exception of `prepare_for_IST` is caught by
`prepare_state_request`, which then sends an envelope without an IST part; any other failure, and an
unsupported protocol version, aborts the process.

The descriptor is stored with its terminating NUL (`len = strlen (str) + 1`), and the peer address is
the last field of the text, read back as a whitespace-delimited token up to the end of the IST part:
`get_ist_request_peer_nul` shows that the peer the donor reads has that NUL appended.
-/

namespace GaleraStateTransfer

open JoinerM

/-- `ReplicatorSMM::state_transfer_required (view_info)` on the view's state gap flag and its
state id. -/
def stateTransferRequired (j : Joiner) (state_gap : Bool) (group_uuid : Uuid)
    (group_seqno : Int) : Bool :=
  state_gap && (j.stateUuid != group_uuid || decide (j.stateSeqno < group_seqno))

/-- The IST buffer `prepare_for_IST` hands back: `strdup (os.str ().c_str ())`, whose length it
gives as `strlen (str) + 1`, so the text up to its first NUL and that NUL. -/
def istBuffer (text : Bytes) : Bytes := text.takeWhile (· != NUL) ++ [NUL]

/-- `ReplicatorSMM::prepare_for_IST (ptr, len, group_uuid, group_seqno)`: the IST buffer, or the
`errno` of the exception it throws. -/
def prepareForIst (env : JoinerEnv) (group_uuid : Uuid) (group_seqno : Int) :
    JoinerM (Except Int Bytes) := do
  let j ← current
  if j.stateUuid ≠ group_uuid then pure (.error EPERM)
  else if j.stateSeqno < 0 then pure (.error EPERM)
  else
    let local_seqno := j.stateSeqno
    call (.istPrepare (local_seqno + 1) group_seqno)
    match env.istPrepare (local_seqno + 1) group_seqno with
    | .error e => pure (.error e)
    | .ok recv_addr =>
      update fun j => { j with istPrepared := true }
      let text := IstRequest.insert ⟨recv_addr, j.stateUuid, local_seqno, group_seqno⟩
      if env.strdupOk then pure (.ok (istBuffer text)) else pure (.error ENOMEM)

/-- `ReplicatorSMM::prepare_state_request (sst_req, sst_req_len, group_uuid, group_seqno)`. -/
def prepareStateRequest (env : JoinerEnv) (sst_req : Bytes) (group_uuid : Uuid)
    (group_seqno : Int) : JoinerM StateRequest :=
  if env.strProtoVer = 0 then pure (.v0 sst_req sst_req.length)
  else if env.strProtoVer = 1 ∨ env.strProtoVer = 2 then do
    let ist ← prepareForIst env group_uuid group_seqno
    let ist_req := match ist with
      | .ok buf => buf
      | .error _ => []
    match StateRequestV1.encode sst_req ist_req with
    | .ok r => pure (.v1 r)
    | .error _ => stop .aborts
  else stop .aborts

/-! ## What the two functions do -/

/-- The outcome of `prepare_for_IST`: it fails with `EPERM` unless the joiner's history is the
group's and its position is defined; otherwise it prepares the receiver for `[l + 1, group_seqno]`
and hands back the descriptor of that gap. -/
theorem prepareForIst_eq (env : JoinerEnv) (group_uuid : Uuid) (group_seqno : Int) (j : Joiner) :
    prepareForIst env group_uuid group_seqno j =
      if j.stateUuid ≠ group_uuid ∨ j.stateSeqno < 0 then ⟨j, [], .next (.error EPERM)⟩
      else match env.istPrepare (j.stateSeqno + 1) group_seqno with
        | .error e => ⟨j, [.istPrepare (j.stateSeqno + 1) group_seqno], .next (.error e)⟩
        | .ok recv_addr =>
          ⟨{ j with istPrepared := true }, [.istPrepare (j.stateSeqno + 1) group_seqno],
            .next (if env.strdupOk then
              .ok (istBuffer (IstRequest.insert ⟨recv_addr, j.stateUuid, j.stateSeqno,
                group_seqno⟩))
              else .error ENOMEM)⟩ := by
  rw [prepareForIst, run_bind_next (run_current j)]
  by_cases hu : j.stateUuid ≠ group_uuid
  · simp [hu]
  by_cases hs : j.stateSeqno < 0
  · simp [hu, hs]
  simp only [hu, hs, if_false, or_self, run_bind_next (run_call _ j)]
  cases env.istPrepare (j.stateSeqno + 1) group_seqno with
  | error e => rfl
  | ok recv_addr =>
    simp only [run_bind_next (run_update _ j)]
    cases env.strdupOk <;> rfl

/-- With protocol 1 or 2, the envelope carries the IST buffer `prepare_for_IST` hands back, or no
IST part when it throws; the process aborts when the envelope cannot be built. -/
theorem prepareStateRequest_v1 (env : JoinerEnv) (sst : Bytes) (group_uuid : Uuid)
    (group_seqno : Int) {j j' : Joiner} {cs : List JoinerCall} {ist : Except Int Bytes}
    (hv : env.strProtoVer = 1 ∨ env.strProtoVer = 2)
    (h : prepareForIst env group_uuid group_seqno j = ⟨j', cs, .next ist⟩) :
    prepareStateRequest env sst group_uuid group_seqno j =
      match StateRequestV1.encode sst (match ist with | .ok buf => buf | .error _ => []) with
      | .ok r => ⟨j', cs, .next (.v1 r)⟩
      | .error _ => ⟨j', cs, .stop .aborts⟩ := by
  have h0 : env.strProtoVer ≠ 0 := by omega
  rw [prepareStateRequest, if_neg h0, if_pos hv, run_bind_next h]
  rcases ist with e | buf
  · cases StateRequestV1.encode sst [] <;> simp only [run_pure, run_stop, List.append_nil]
  · cases StateRequestV1.encode sst buf <;> simp only [run_pure, run_stop, List.append_nil]

/-- A descriptor whose peer holds no NUL is stored as its text and one NUL. -/
theorem istBuffer_insert (istr : IstRequest) (h : NUL ∉ istr.peer) :
    istBuffer istr.insert = istr.insert ++ [NUL] := by
  rw [istBuffer, List.takeWhile_eq_self_iff.2]
  intro c hc
  rcases mem_insert istr c hc with hp | ⟨hn, -⟩
  · exact bne_iff_ne.2 (fun e => h (e ▸ hp))
  · exact bne_iff_ne.2 hn

/-! ## The descriptor read back from the envelope -/

/-- When the IST receiver is prepared, the envelope carries the descriptor of the joiner's gap with
its NUL, and the donor reads the envelope back as itself. -/
theorem prepareStateRequest_ist (env : JoinerEnv) (j : Joiner) (sst p : Bytes) (group_seqno : Int)
    (hv : env.strProtoVer = 1 ∨ env.strProtoVer = 2) (hl : 0 ≤ j.stateSeqno)
    (hp : env.istPrepare (j.stateSeqno + 1) group_seqno = .ok p) (hd : env.strdupOk = true)
    (hnul : NUL ∉ p) (hsst : sst.length ≤ INT32_MAX)
    (hist : (IstRequest.insert ⟨p, j.stateUuid, j.stateSeqno, group_seqno⟩).length < INT32_MAX) :
    ∃ e, prepareStateRequest env sst j.stateUuid group_seqno j =
        ⟨{ j with istPrepared := true }, [.istPrepare (j.stateSeqno + 1) group_seqno],
          .next (.v1 e)⟩ ∧
      readStateRequest e.req e.len = .ok (.v1 e) ∧ e.sstSlice = sst ∧
      e.istSlice = IstRequest.insert ⟨p, j.stateUuid, j.stateSeqno, group_seqno⟩ ++ [NUL] := by
  have hpf := prepareForIst_eq env j.stateUuid group_seqno j
  rw [if_neg (not_or.2 ⟨not_not.2 rfl, not_lt.2 hl⟩), hp] at hpf
  simp only [hd, if_true, istBuffer_insert ⟨p, j.stateUuid, j.stateSeqno, group_seqno⟩ hnul] at hpf
  have hi : (IstRequest.insert ⟨p, j.stateUuid, j.stateSeqno, group_seqno⟩ ++ [NUL]).length ≤
      INT32_MAX := by
    rw [List.length_append, List.length_singleton]; exact hist
  have henc := StateRequestV1.encode_ok sst _ hsst hi
  simp only [prepareStateRequest_v1 env sst _ _ hv hpf, henc]
  exact ⟨_, rfl, read_state_request_of_encode henc⟩

/-- The donor reads the joiner's descriptor back with the right uuid and seqnos, but with the peer
address followed by the NUL that the descriptor was stored with: `IST_request (p, u, l, g)` is
never what comes back. -/
theorem get_ist_request_peer_nul (env : JoinerEnv) (j : Joiner) (sst p : Bytes)
    (group_seqno : Int) (hv : env.strProtoVer = 1 ∨ env.strProtoVer = 2)
    (hl : 0 ≤ j.stateSeqno ∧ j.stateSeqno ≤ INT64_MAX)
    (hg : INT64_MIN ≤ group_seqno ∧ group_seqno ≤ INT64_MAX)
    (hp : env.istPrepare (j.stateSeqno + 1) group_seqno = .ok p) (hd : env.strdupOk = true)
    (hsp : ∀ c ∈ p, isSpace c = false ∧ c ≠ NUL) (hsst : sst.length ≤ INT32_MAX)
    (hist : (IstRequest.insert ⟨p, j.stateUuid, j.stateSeqno, group_seqno⟩).length < INT32_MAX) :
    ∃ r, prepareStateRequest env sst j.stateUuid group_seqno j =
        ⟨{ j with istPrepared := true }, [.istPrepare (j.stateSeqno + 1) group_seqno],
          .next (.v1 r)⟩ ∧
      ∃ r', readStateRequest r.req r.len = .ok (.v1 r') ∧
        getIstRequest (.v1 r') = .ok ⟨p ++ [NUL], j.stateUuid, j.stateSeqno, group_seqno⟩ ∧
        (⟨p ++ [NUL], j.stateUuid, j.stateSeqno, group_seqno⟩ : IstRequest) ≠
          ⟨p, j.stateUuid, j.stateSeqno, group_seqno⟩ := by
  obtain ⟨e, he, hr, -, hslice⟩ := prepareStateRequest_ist env j sst p group_seqno hv hl.1 hp hd
    (fun h => (hsp NUL h).2 rfl) hsst hist
  have hl' : INT64_MIN ≤ j.stateSeqno ∧ j.stateSeqno ≤ INT64_MAX :=
    ⟨le_trans (by decide) hl.1, hl.2⟩
  have hnsp : ∀ c ∈ p ++ [NUL], isSpace c = false := fun c hc => by
    rcases List.mem_append.1 hc with hc | hc
    · exact (hsp c hc).1
    · rw [List.mem_singleton.1 hc]; rfl
  refine ⟨e, he, e, hr, getIstRequest_insert (.v1 e) _ [NUL] hslice hl' hg (by simp) hnsp,
    fun h => ?_⟩
  simpa using congrArg (fun r => r.peer.length) h

/-- The collaborators of the spec's pure-IST scenario: protocol 1, and an IST receiver listening at
`tcp://j:4568`. -/
def pureIstEnv : JoinerEnv where
  strProtoVer := 1
  istPrepare := fun _ _ => .ok (ascii "tcp://j:4568")
  strdupOk := true
  gcsAnswers := [(0, 7)]
  wouldBlock := fun _ => false
  stateAtSendFailure := .connected
  sstWake := none
  stateAtIst := .joining
  istRecv := [.trx 96 95 true true, .trx 97 96 true true, .trx 98 97 true true,
    .trx 99 98 true true, .trx 100 99 true true, .done]
  istFinished := 100
  commitBypass := false

/-- A joiner of the group's history at position 95. -/
def pureIstJoiner : Joiner :=
  ⟨Uuid.nil, 95, false, false, .none, Uuid.nil, WSREP_SEQNO_UNDEFINED, ⟨Uuid.nil, 95, false⟩⟩

/-- In the spec's pure-IST scenario the donor reads the peer `tcp://j:4568` followed by a NUL. -/
theorem get_ist_request_peer_nul_pure_ist :
    ∃ r, prepareStateRequest pureIstEnv [] Uuid.nil 100 pureIstJoiner =
        ⟨{ pureIstJoiner with istPrepared := true }, [.istPrepare 96 100], .next (.v1 r)⟩ ∧
      ∃ r', readStateRequest r.req r.len = .ok (.v1 r') ∧
        getIstRequest (.v1 r') = .ok ⟨ascii "tcp://j:4568" ++ [NUL], Uuid.nil, 95, 100⟩ ∧
        (⟨ascii "tcp://j:4568" ++ [NUL], Uuid.nil, 95, 100⟩ : IstRequest) ≠
          ⟨ascii "tcp://j:4568", Uuid.nil, 95, 100⟩ :=
  get_ist_request_peer_nul pureIstEnv pureIstJoiner [] (ascii "tcp://j:4568") 100 (by decide)
    (by decide) (by decide) rfl rfl (by decide) (by decide)
    (by simp [IstRequest.insert, intText, natText, ascii, INT32_MAX, pureIstJoiner])

end GaleraStateTransfer
