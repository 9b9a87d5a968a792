import GaleraStateTransfer.Joiner.Transfer

/-!
# The joiner's two loops in closed form

`send_state_request` retries its request while the group layer answers `-EAGAIN` or `-ENOTCONN`,
and `recv_IST` handles write-sets until the IST receiver reports the end. Both loops are functions
by recursion on the collaborator's answers; here each is given in closed form over those answers:
the attempts it makes are the answers up to the first one that ends the loop, each attempt makes
its own calls, and the loop ends as that first answer says.
-/

namespace GaleraStateTransfer

open JoinerM

/-! ## The retry loop of `send_state_request` -/

/-- The code an attempt leaves in `ret`: `-EDEADLK` when the local seqno the group layer allocated
would block the local monitor, the group layer's own code otherwise. -/
def sendResult (env : JoinerEnv) (a : Int × Int) : Int :=
  if a.2 ≠ GCS_SEQNO_ILL ∧ env.wouldBlock a.2 then -EDEADLK else a.1

/-- The calls of one attempt: the request, then the self-cancel of the local seqno it allocated,
unless there is none or it would block. -/
def sendCalls (env : JoinerEnv) (req : StateRequest) (ist_uuid : Uuid) (ist_seqno : Int)
    (a : Int × Int) : List JoinerCall :=
  .gcsRequest req.req req.len ist_uuid ist_seqno ::
    (if a.2 ≠ GCS_SEQNO_ILL ∧ ¬env.wouldBlock a.2 then [.selfCancel a.2] else [])

/-- One attempt of the retry loop on an answer other than `-ENODATA`: its calls, then the rest of
the loop if its result is retried, or that result. -/
theorem sendLoop_cons (env : JoinerEnv) (req : StateRequest) (ist_uuid : Uuid) (ist_seqno : Int)
    (b : Bool) (ret seqno_l : Int) (answers : List (Int × Int)) (j : Joiner)
    (hret : ret ≠ -ENODATA) :
    sendLoop env req ist_uuid ist_seqno b ((ret, seqno_l) :: answers) j =
      let o := if retryStr (sendResult env (ret, seqno_l))
        then sendLoop env req ist_uuid ist_seqno b answers j
        else ⟨j, [], .next (sendResult env (ret, seqno_l))⟩
      ⟨o.joiner, sendCalls env req ist_uuid ist_seqno (ret, seqno_l) ++ o.calls, o.ends⟩ := by
  simp only [sendLoop, run_bind, JoinerM.bind, run_call, if_neg hret]
  by_cases hs : seqno_l = GCS_SEQNO_ILL
  · subst hs
    cases hr : retryStr ret <;> simp [hr, sendResult, sendCalls, JoinerM.bind]
  by_cases hw : env.wouldBlock seqno_l
  · have hr : retryStr (-EDEADLK) = false := by decide
    simp [hr, hs, hw, sendResult, sendCalls, JoinerM.bind]
  · cases hr : retryStr ret <;> simp [hr, hs, hw, sendResult, sendCalls, JoinerM.bind]

/-- Without `-ENODATA` among the answers, the retry loop makes one attempt per answer up to the
first whose result is not retried, each with its request and the self-cancel of every slot that does
not block, changes no field, and returns that first result; when the answers run out first, it is
still retrying. -/
theorem send_state_request_retries (env : JoinerEnv) (req : StateRequest) (ist_uuid : Uuid)
    (ist_seqno : Int) (b : Bool) (answers : List (Int × Int)) (j : Joiner)
    (hnd : ∀ a ∈ answers, a.1 ≠ -ENODATA) :
    sendLoop env req ist_uuid ist_seqno b answers j =
      ⟨j, (answers.take (answers.findIdx (fun a => !retryStr (sendResult env a)) + 1)).flatMap
          (sendCalls env req ist_uuid ist_seqno),
        match answers[answers.findIdx (fun a => !retryStr (sendResult env a))]? with
        | some a => .next (sendResult env a)
        | none => .stop .blocked⟩ := by
  induction answers with
  | nil => rfl
  | cons a answers ih =>
    obtain ⟨ret, seqno_l⟩ := a
    rw [sendLoop_cons env req ist_uuid ist_seqno b ret seqno_l answers j
      (hnd _ (List.mem_cons_self _ _)), ih fun a ha => hnd a (List.mem_cons_of_mem _ ha)]
    cases hr : retryStr (sendResult env (ret, seqno_l)) <;> simp [List.findIdx_cons, hr]

/-- The retry loop from a joiner with no position, answered `-EAGAIN` with local seqno 5, then 0 with
local seqno 7: two requests, and both slots self-cancelled. -/
theorem send_state_request_retries_twice :
    sendLoop pureIstEnv (.v0 (ascii "xb") 2) Uuid.nil GCS_SEQNO_ILL false [(-EAGAIN, 5), (0, 7)]
        pureIstJoiner =
      ⟨pureIstJoiner, [.gcsRequest (ascii "xb") 2 Uuid.nil GCS_SEQNO_ILL, .selfCancel 5,
        .gcsRequest (ascii "xb") 2 Uuid.nil GCS_SEQNO_ILL, .selfCancel 7], .next 0⟩ := by
  rw [send_state_request_retries _ _ _ _ _ _ _ (by decide)]
  rfl

/-! ## The receive loop of `recv_IST` -/

/-- Whether the answer is a write-set. -/
def IstRecv.isTrx : IstRecv → Bool
  | .trx .. => true
  | _ => false

/-- Whether `recv_IST` goes on after this answer: a write-set whose checksum verifies and that is
either skipped or applied without an exception. -/
def IstRecv.goesOn : IstRecv → Bool
  | .trx _ depends verifies applies => verifies && (decide (depends = -1) || applies)
  | _ => false

/-- The calls `recv_IST` makes on an answer besides clearing the persisted seqno: none when a
write-set's checksum fails; the self-cancel of its apply slot, and of its commit slot unless commits
are bypassed, when it depends on nothing (`depends_seqno == -1`); otherwise `apply_trx`, followed by
`mark_corrupt` when that throws. -/
def IstRecv.calls (commitBypass : Bool) : IstRecv → List JoinerCall
  | .trx seqno depends verifies applies =>
    if !verifies then []
    else if depends = -1 then
      .monitorSelfCancel false seqno :: (if !commitBypass then [.monitorSelfCancel true seqno] else [])
    else .applyTrx seqno :: (if !applies then [.markCorrupt] else [])
  | _ => []

/-- `clearPersistedSeqno` persists the undefined seqno exactly when the persisted one is defined. -/
theorem clearPersistedSeqno_eq (j : Joiner) :
    ∃ j', clearPersistedSeqno j = ⟨j', if j.st.seqno != WSREP_SEQNO_UNDEFINED then
      [.stSet j.st.uuid WSREP_SEQNO_UNDEFINED j.st.safeToBootstrap] else [], .next ()⟩ := by
  by_cases h : j.st.seqno = WSREP_SEQNO_UNDEFINED <;> simp [clearPersistedSeqno, JoinerM.bind, h]

/-- One turn of the receive loop on a write-set: the clear of the persisted seqno on the first, the
write-set's own calls, then the rest of the loop if it goes on, or an abort. -/
theorem recvIst_trx (env : JoinerEnv) (first : Bool) (seqno depends : Int) (verifies applies : Bool)
    (rs : List IstRecv) (j : Joiner) :
    ∃ j', (recvIst env first (.trx seqno depends verifies applies :: rs) j).calls =
        (if first && j.st.seqno != WSREP_SEQNO_UNDEFINED then
          [.stSet j.st.uuid WSREP_SEQNO_UNDEFINED j.st.safeToBootstrap] else []) ++
        (IstRecv.trx seqno depends verifies applies).calls env.commitBypass ++
        (if (IstRecv.trx seqno depends verifies applies).goesOn then (recvIst env false rs j').calls
          else []) ∧
      (recvIst env first (.trx seqno depends verifies applies :: rs) j).ends =
        if (IstRecv.trx seqno depends verifies applies).goesOn then (recvIst env false rs j').ends
        else .stop .aborts := by
  obtain ⟨j1, hj1⟩ := clearPersistedSeqno_eq j
  refine ⟨{ (if first then (clearPersistedSeqno j).joiner else j) with stateSeqno := seqno }, ?_⟩
  cases first <;> cases verifies <;> simp only [recvIst, Bool.false_eq_true, if_false, if_true,
    run_bind, JoinerM.bind, run_pure, hj1]
  case false.false | true.false => simp [IstRecv.goesOn, IstRecv.calls]
  all_goals
    by_cases hd : depends = -1
    · cases hb : env.commitBypass <;> simp [IstRecv.goesOn, IstRecv.calls, hd, hb, JoinerM.bind]
    · cases applies <;> simp [IstRecv.goesOn, IstRecv.calls, hd, JoinerM.bind]

/-- The receive loop clears the persisted seqno before the first write-set, if it is defined; then
handles the answers up to the first that does not let it go on, each with its own calls, and none
after; it returns exactly when that answer is the receiver's end, aborts when it is a failure, and is
still receiving when the answers run out. -/
theorem recv_ist_handles (env : JoinerEnv) (first : Bool) (rs : List IstRecv) (j : Joiner) :
    (recvIst env first rs j).calls =
        (if first && (rs.head?.any IstRecv.isTrx) && j.st.seqno != WSREP_SEQNO_UNDEFINED then
          [.stSet j.st.uuid WSREP_SEQNO_UNDEFINED j.st.safeToBootstrap] else []) ++
        (rs.take (rs.findIdx (fun r => !r.goesOn) + 1)).flatMap (IstRecv.calls env.commitBypass) ∧
      (recvIst env first rs j).ends =
        match rs[rs.findIdx (fun r => !r.goesOn)]? with
        | some .done => .next ()
        | some _ => .stop .aborts
        | none => .stop .blocked := by
  induction rs generalizing first j with
  | nil => simp [recvIst]
  | cons r rs ih =>
    rcases r with ⟨seqno, depends, verifies, applies⟩ | _ | _
    case done => simp [recvIst, IstRecv.isTrx, IstRecv.goesOn, IstRecv.calls, List.findIdx_cons]
    case fails => simp [recvIst, IstRecv.isTrx, IstRecv.goesOn, IstRecv.calls, List.findIdx_cons]
    obtain ⟨j', hc, he⟩ := recvIst_trx env first seqno depends verifies applies rs j
    obtain ⟨ihc, ihe⟩ := ih false j'
    rw [hc, he]
    cases hg : (IstRecv.trx seqno depends verifies applies).goesOn <;>
      simp [List.findIdx_cons, hg, ihc, ihe, IstRecv.isTrx]

end GaleraStateTransfer
