import GaleraStateTransfer.Donor.Serve

/-!
# What a donor run does with the cache lock and the group

Three properties of every run of `process_state_req`, for every request and every answer of its
collaborators. The cache lock it takes is released exactly once: by the guard's destructor, or by
handing it to the IST sender (`process_state_req_releases_lock`). It announces to the group at
most once (`process_state_req_join`). And it leaves the local-order slot it entered exactly when it
returns: an exception from decoding the request leaves the slot entered and the donor in
`S_DONOR` (`process_state_req_keeps_slot`).

All three are proved from one lemma per block of the code: the blocks' calls, `rcode` and `join_now`,
then the run's calls around them.
-/


namespace GaleraStateTransfer

namespace DonorCall

/-- A `gcs_.join` call. -/
def isJoin : DonorCall → Bool
  | gcsJoin _ => true
  | _ => false

/-- A successful `sst_donate_cb_` call. -/
def donated : DonorCall → Bool
  | sstDonate _ _ _ _ true => true
  | _ => false

/-- A call on the local-order monitor. -/
def isLocal : DonorCall → Bool
  | localEnter _ | localLeave _ => true
  | _ => false

/-! The two flags of each call, for `simp`. -/

@[simp] theorem isJoin_localEnter (s : Int) : (localEnter s).isJoin = false := rfl
@[simp] theorem isJoin_applyDrain (s : Int) : (applyDrain s).isJoin = false := rfl
@[simp] theorem isJoin_commitDrain (s : Int) : (commitDrain s).isJoin = false := rfl
@[simp] theorem isJoin_shiftTo (s : NodeState) : (shiftTo s).isJoin = false := rfl
@[simp] theorem isJoin_seqnoLock (s : Int) (b : Bool) : (seqnoLock s b).isJoin = false := rfl
@[simp] theorem isJoin_seqnoUnlock : seqnoUnlock.isJoin = false := rfl
@[simp] theorem isJoin_sstDonate (r : Bytes) (u : Uuid) (s : Int) (b ok : Bool) :
    (sstDonate r u s b ok).isJoin = false := rfl
@[simp] theorem isJoin_istRun (p : Bytes) (f l : Int) (t : Option Int) :
    (istRun p f l t).isJoin = false := rfl
@[simp] theorem isJoin_localLeave (s : Int) : (localLeave s).isJoin = false := rfl
@[simp] theorem isJoin_gcsJoin (s : Int) : (gcsJoin s).isJoin = true := rfl
@[simp] theorem donated_localEnter (s : Int) : (localEnter s).donated = false := rfl
@[simp] theorem donated_applyDrain (s : Int) : (applyDrain s).donated = false := rfl
@[simp] theorem donated_commitDrain (s : Int) : (commitDrain s).donated = false := rfl
@[simp] theorem donated_shiftTo (s : NodeState) : (shiftTo s).donated = false := rfl
@[simp] theorem donated_seqnoLock (s : Int) (b : Bool) : (seqnoLock s b).donated = false := rfl
@[simp] theorem donated_seqnoUnlock : seqnoUnlock.donated = false := rfl
@[simp] theorem donated_sstDonate (r : Bytes) (u : Uuid) (s : Int) (b ok : Bool) :
    (sstDonate r u s b ok).donated = ok := by
  cases ok <;> rfl
@[simp] theorem donated_istRun (p : Bytes) (f l : Int) (t : Option Int) :
    (istRun p f l t).donated = false := rfl
@[simp] theorem donated_localLeave (s : Int) : (localLeave s).donated = false := rfl
@[simp] theorem donated_gcsJoin (s : Int) : (gcsJoin s).donated = false := rfl

end DonorCall

/-! ## The cache lock -/

/-- Who holds the cache lock of a donor run: nobody, the guard, or the IST sender it was handed
to. -/
inductive LockHolder where
  | nobody
  | guard
  | sender
  deriving DecidableEq

/-- What a call does to the cache lock; `none` when it misuses it: an unlock while the guard holds
no lock, a lock while one is held, or a start of the IST sender while the guard holds no lock to
hand over. A sender that starts takes the lock; one that throws leaves it with the guard. -/
def lockStep : LockHolder → DonorCall → Option LockHolder
  | .nobody, .seqnoLock _ true => some .guard
  | _, .seqnoLock _ true => none
  | .guard, .seqnoUnlock => some .nobody
  | _, .seqnoUnlock => none
  | .guard, .istRun _ _ _ none => some .sender
  | .guard, .istRun _ _ _ (some _) => some .guard
  | _, .istRun _ _ _ _ => none
  | h, _ => some h

/-! What the lock calls do, for `simp`, one lemma per case of `lockStep`. -/

@[simp]
theorem lockStep_nobody_seqnoLock (first : Int) :
    lockStep .nobody (.seqnoLock first true) = some .guard := rfl

@[simp]
theorem lockStep_seqnoLock_failed (h : LockHolder) (first : Int) :
    lockStep h (.seqnoLock first false) = some h := by
  cases h <;> rfl

@[simp]
theorem lockStep_guard_seqnoUnlock : lockStep .guard .seqnoUnlock = some .nobody := rfl

@[simp]
theorem lockStep_guard_istRun_started (peer : Bytes) (first last : Int) :
    lockStep .guard (.istRun peer first last none) = some .sender := rfl

@[simp]
theorem lockStep_guard_istRun_threw (peer : Bytes) (first last e : Int) :
    lockStep .guard (.istRun peer first last (some e)) = some .guard := rfl

/-- The cache lock followed along a run's calls. -/
def lockRun (h : LockHolder) : List DonorCall → Option LockHolder
  | [] => some h
  | c :: cs => (lockStep h c).bind fun h => lockRun h cs

@[simp]
theorem lockRun_nil (h : LockHolder) : lockRun h [] = some h := rfl

@[simp]
theorem lockRun_cons (h : LockHolder) (c : DonorCall) (cs : List DonorCall) :
    lockRun h (c :: cs) = (lockStep h c).bind fun h => lockRun h cs := rfl

theorem lockRun_append (h : LockHolder) (a b : List DonorCall) :
    lockRun h (a ++ b) = (lockRun h a).bind fun h => lockRun h b := by
  induction a generalizing h with
  | nil => rfl
  | cons c a ih =>
    simp only [List.cons_append, lockRun_cons, ih]
    cases lockStep h c <;> rfl

/-- Calls that leave the lock alone. -/
def LockFree (cs : List DonorCall) : Prop := ∀ c ∈ cs, ∀ h, lockStep h c = some h

theorem LockFree.lockRun {cs : List DonorCall} (hc : LockFree cs) (h : LockHolder) :
    lockRun h cs = some h := by
  induction cs with
  | nil => rfl
  | cons c cs ih =>
    rw [lockRun_cons, hc c (List.mem_cons_self c cs) h, Option.some_bind]
    exact ih fun c' hc' => hc c' (List.mem_cons_of_mem c hc')

/-- A donation call leaves the lock alone. -/
@[simp]
theorem lockStep_sstDonate (h : LockHolder) (r : Bytes) (u : Uuid) (s : Int) (b ok : Bool) :
    lockStep h (.sstDonate r u s b ok) = some h := by
  cases h <;> rfl

/-- The full-SST block leaves the lock alone. -/
theorem fullSst_lockFree (env : DonorEnv) (d : Donor) (streq : StateRequest) (donor_seq : Int) :
    LockFree (fullSst env d streq donor_seq).1 := by
  unfold fullSst
  split <;> simp [LockFree, donateSst, lockStep_sstDonate]

/-- The IST branch gives back the lock it took: its guard unlocks, or the IST sender takes it. -/
theorem istBranch_lock (env : DonorEnv) (d : Donor) (streq : StateRequest) (istr : IstRequest)
    (donor_seq : Int) :
    lockRun .nobody (istBranch env d streq istr donor_seq).1 = some .nobody ∨
      lockRun .nobody (istBranch env d streq istr donor_seq).1 = some .sender := by
  have hf := (fullSst_lockFree env d streq donor_seq).lockRun .nobody
  cases hl : env.seqnoLock (istr.lastApplied + 1)
  · by_cases hs : streq.sstLen = 0 <;> simp [istBranch, hl, hs, hf]
  · by_cases hs : streq.sstLen = 0 <;>
      cases hi : env.istRun istr.peer (istr.lastApplied + 1) d.ccSeqno <;>
      simp [istBranch, hl, hs, hi, donateSst, apply_ite Prod.fst, apply_ite (lockRun .nobody),
        lt_or_le]

/-- The body of `process_state_req` gives back any lock it took. -/
theorem serveStateRequest_lock (env : DonorEnv) (d : Donor) (streq : StateRequest)
    (donor_seq : Int) {cs : List DonorCall} {rcode : Int} {join_now : Bool}
    (h : serveStateRequest env d streq donor_seq = .ok (cs, rcode, join_now)) :
    lockRun .nobody cs = some .nobody ∨ lockRun .nobody cs = some .sender := by
  have hf := (fullSst_lockFree env d streq donor_seq).lockRun .nobody
  unfold serveStateRequest at h
  split_ifs at h
  · cases h
    exact .inl rfl
  · split at h
    · cases h
    next istr _ =>
      split_ifs at h
      · have hl := istBranch_lock env d streq istr donor_seq
        rwa [Except.ok.inj h] at hl
      · rw [Except.ok.inj h] at hf
        exact .inl hf
  · rw [Except.ok.inj h] at hf
    exact .inl hf

/-- Every run of `process_state_req`, for every request and every collaborator outcome, leaves the
cache lock with nobody or with the IST sender: each successful `seqno_lock` is released exactly
once, by the guard's `seqno_unlock` or by handing the lock to the IST sender when
`ist_senders_.run` returns, never both and never neither, and no `seqno_unlock` is issued without a
lock held. -/
theorem process_state_req_releases_lock (env : DonorEnv) (d : Donor) (req : Bytes)
    (req_size : Nat) (seqno_l donor_seq : Int) :
    lockRun .nobody (processStateReq env d req req_size seqno_l donor_seq).calls = some .nobody ∨
      lockRun .nobody (processStateReq env d req req_size seqno_l donor_seq).calls =
        some .sender := by
  have henter : ∀ h, lockRun h ([.localEnter seqno_l, .applyDrain donor_seq] ++
      (if !env.commitBypass then [.commitDrain donor_seq] else []) ++ [.shiftTo .donor]) = some h := by
    intro h; cases h <;> split <;> rfl
  unfold processStateReq
  cases hr : readStateRequest req req_size with
  | error e => exact .inl (henter _)
  | ok streq =>
    cases hs : serveStateRequest env d streq donor_seq with
    | error e =>
      simp only [Bind.bind, Except.bind, hs]
      exact .inl (henter _)
    | ok v =>
      obtain ⟨cs, rcode, join_now⟩ := v
      simp only [Bind.bind, Except.bind, hs, lockRun_append, henter, Option.some_bind]
      rcases serveStateRequest_lock env d streq donor_seq hs with h | h <;> rw [h] <;>
        simp only [Option.some_bind] <;> split <;> simp [lockStep]

/-! ## The announcement to the group -/

/-- What a block's result says about the announcement, for a request that `skipped` the transfer
or not. -/
structure JoinDecided (cs : List DonorCall) (rcode : Int) (join_now : Bool) (skipped : Bool) :
    Prop where
  /-- The block makes no `gcs_.join` itself. -/
  no_join : ∀ c ∈ cs, c.isJoin = false
  /-- `join_now` or a negative `rcode`, which is when `out:` joins, holds exactly when no donation
  succeeded or `rcode` is negative. -/
  joins : join_now = true ∨ rcode < 0 ↔ (∀ c ∈ cs, c.donated = false) ∨ rcode < 0
  /-- A negative `rcode` after a successful donation is the IST sender's failure or the donation's
  own negative seqno. -/
  after_donation : rcode < 0 → (∃ c ∈ cs, c.donated = true) →
    (∃ peer first last e, DonorCall.istRun peer first last (some e) ∈ cs ∧ rcode = -e) ∨
    (∃ r u s b, DonorCall.sstDonate r u s b true ∈ cs ∧ rcode = s)
  /-- A block that was asked for a transfer and neither donated nor started an IST sender fails
  with a negative `rcode`, unless an IST sender threw an errno that is not positive. -/
  failed : skipped = false → (∀ c ∈ cs, c.donated = false) →
    (∀ peer first last, DonorCall.istRun peer first last none ∉ cs) →
    rcode < 0 ∨ ∃ peer first last e, DonorCall.istRun peer first last (some e) ∈ cs ∧ e ≤ 0
  /-- Without a donation, a skipped transfer or a started IST sender leaves `rcode` non-negative. -/
  started : (∀ c ∈ cs, c.donated = false) →
    (skipped = true ∨ ∃ peer first last, DonorCall.istRun peer first last none ∈ cs) → 0 ≤ rcode

theorem fullSst_joinDecided (env : DonorEnv) (d : Donor) (streq : StateRequest)
    (donor_seq : Int) :
    JoinDecided (fullSst env d streq donor_seq).1 (fullSst env d streq donor_seq).2.1
      (fullSst env d streq donor_seq).2.2 false := by
  unfold fullSst donateSst
  split
  · cases env.sstDonate streq.sstSlice d.stateUuid donor_seq false <;> constructor <;>
      simp [ECANCELED]
  · constructor <;> simp [ECANCELED]

/-- Prepending a call that neither joins, donates nor starts an IST sender keeps a block's
decision. -/
theorem JoinDecided.cons {cs : List DonorCall} {rcode : Int} {join_now skipped : Bool}
    (h : JoinDecided cs rcode join_now skipped) {c : DonorCall} (hj : c.isJoin = false)
    (hd : c.donated = false) (hi : ∀ peer first last t, c ≠ .istRun peer first last t) :
    JoinDecided (c :: cs) rcode join_now skipped := by
  have hdon : (∃ c' ∈ c :: cs, c'.donated = true) → ∃ c' ∈ cs, c'.donated = true :=
    fun ⟨c', hc', e⟩ => ⟨c', (List.mem_cons.1 hc').resolve_left fun h => by simp [h, hd] at e, e⟩
  have hist : ∀ {peer first last t}, DonorCall.istRun peer first last t ∈ c :: cs →
      DonorCall.istRun peer first last t ∈ cs :=
    fun hm => (List.mem_cons.1 hm).resolve_left fun h => hi _ _ _ _ h.symm
  have hnd : (∀ c' ∈ c :: cs, c'.donated = false) ↔ ∀ c' ∈ cs, c'.donated = false := by
    simp only [List.forall_mem_cons, hd, true_and]
  refine ⟨List.forall_mem_cons.2 ⟨hj, h.no_join⟩, by rw [hnd]; exact h.joins, fun hr hc => ?_,
    fun hs hn hni => ?_, fun hn hs => h.started (hnd.1 hn) (hs.imp_right ?_)⟩
  · exact (h.after_donation hr (hdon hc)).imp
      (fun ⟨p, f, l, e, hm, he⟩ => ⟨p, f, l, e, List.mem_cons_of_mem _ hm, he⟩)
      fun ⟨a, u, s, b, hm, he⟩ => ⟨a, u, s, b, List.mem_cons_of_mem _ hm, he⟩
  · exact (h.failed hs (hnd.1 hn) fun p f l hm => hni p f l (List.mem_cons_of_mem _ hm)).imp_right
      fun ⟨p, f, l, e, hm, he⟩ => ⟨p, f, l, e, List.mem_cons_of_mem _ hm, he⟩
  · exact fun ⟨p, f, l, hm⟩ => ⟨p, f, l, hist hm⟩

theorem istBranch_joinDecided (env : DonorEnv) (d : Donor) (streq : StateRequest)
    (istr : IstRequest) (donor_seq : Int) :
    JoinDecided (istBranch env d streq istr donor_seq).1 (istBranch env d streq istr donor_seq).2.1
      (istBranch env d streq istr donor_seq).2.2 false := by
  have hf := fullSst_joinDecided env d streq donor_seq
  cases hl : env.seqnoLock (istr.lastApplied + 1)
  · by_cases hs : streq.sstLen = 0
    · simp only [istBranch, hl, hs, Bool.not_false, if_true]
      constructor <;> simp [ENODATA, -Int.neg_eq_of_add_eq_zero]
    · simp only [istBranch, hl, hs, Bool.not_false, if_true, if_false]
      exact hf.cons rfl rfl fun _ _ _ _ => DonorCall.noConfusion
  · by_cases hs : streq.sstLen = 0
    · cases hi : env.istRun istr.peer (istr.lastApplied + 1) d.ccSeqno <;>
        simp only [istBranch, hl, hs, hi, Bool.not_true, if_false, ne_eq, not_true, le_refl,
          if_true] <;>
        constructor <;> simp [and_assoc, lt_or_le, -Int.neg_eq_of_add_eq_zero]
    · cases hd : env.sstDonate streq.sstSlice istr.uuid istr.lastApplied true
      · simp only [istBranch, hl, if_pos hs, hd, donateSst, Bool.not_true, if_false,
          if_neg (by decide : ¬ (0 : Int) ≤ -ECANCELED)]
        constructor <;> simp [ECANCELED, -Int.neg_eq_of_add_eq_zero]
      · by_cases hn : 0 ≤ istr.lastApplied
        · cases hi : env.istRun istr.peer (istr.lastApplied + 1) d.ccSeqno <;>
            simp only [istBranch, hl, if_pos hs, hd, hi, if_pos hn, donateSst, Bool.not_true,
              if_false, if_true] <;> constructor <;> simp [hn, -Int.neg_eq_of_add_eq_zero]
        · simp only [istBranch, hl, if_pos hs, hd, if_neg hn, donateSst, Bool.not_true, if_false,
            if_true]
          constructor <;> simp [hn, -Int.neg_eq_of_add_eq_zero]

theorem serveStateRequest_joinDecided (env : DonorEnv) (d : Donor) (streq : StateRequest)
    (donor_seq : Int) {cs : List DonorCall} {rcode : Int} {join_now : Bool}
    (h : serveStateRequest env d streq donor_seq = .ok (cs, rcode, join_now)) :
    JoinDecided cs rcode join_now (skipStateTransfer streq) := by
  have hf := fullSst_joinDecided env d streq donor_seq
  unfold serveStateRequest at h
  split_ifs at h with hskip
  · cases h
    constructor <;> simp [hskip]
  all_goals rw [Bool.not_eq_true] at hskip; rw [hskip]
  · split at h
    · cases h
    next istr _ =>
      split_ifs at h
      · have hi := istBranch_joinDecided env d streq istr donor_seq
        rwa [Except.ok.inj h] at hi
      · rwa [Except.ok.inj h] at hf
  · rwa [Except.ok.inj h] at hf

/-- Whether the request asks for no transfer: it decodes, and `process_state_req` skips its SST
part. -/
def requestSkips (req : Bytes) (req_size : Nat) : Bool :=
  match readStateRequest req req_size with
  | .ok streq => skipStateTransfer streq
  | .error _ => false

/-- The transfer a run was asked for failed: the request did not skip it, no donation succeeded,
and no IST sender started. -/
def DonorRun.Failed (run : DonorRun) (skipped : Bool) : Prop :=
  skipped = false ∧ (∀ c ∈ run.calls, c.donated = false) ∧
    ∀ peer first last, DonorCall.istRun peer first last none ∉ run.calls

/-- What a run announces to the group: at most one `gcs_.join`; when it returns, a `gcs_.join`
exactly when no donation succeeded or `rcode` is negative, a negative `rcode` after a successful
donation being the IST sender's `-errno` or the donation's own negative seqno; and the join's status
is negative when the transfer failed (unless an IST sender threw an errno that is not positive),
and `donor_seq` otherwise, but for the negative `rcode` after a successful donation. -/
def DonorRun.Announces (run : DonorRun) (donor_seq : Int) (skipped : Bool) : Prop :=
  (run.calls.filter DonorCall.isJoin).length ≤ 1 ∧
  (run.thrown = none →
    ((∃ c ∈ run.calls, c.isJoin = true) ↔ (∀ c ∈ run.calls, c.donated = false) ∨ run.rcode < 0) ∧
    (run.rcode < 0 → (∃ c ∈ run.calls, c.donated = true) →
      (∃ peer first last e, DonorCall.istRun peer first last (some e) ∈ run.calls ∧
        run.rcode = -e) ∨
      (∃ r u s b, DonorCall.sstDonate r u s b true ∈ run.calls ∧ run.rcode = s)) ∧
    ∀ status, DonorCall.gcsJoin status ∈ run.calls →
      (run.Failed skipped → status < 0 ∨
        ∃ peer first last e, DonorCall.istRun peer first last (some e) ∈ run.calls ∧ e ≤ 0) ∧
      (¬ run.Failed skipped → status = donor_seq ∨
        (∃ c ∈ run.calls, c.donated = true) ∧ status = run.rcode ∧ run.rcode < 0))

/-- The run that `out:` closes: a body whose result decides the join, between calls that neither
join, donate nor start an IST sender, announces as `DonorRun.Announces` says. -/
theorem announces_of_joinDecided {pre cs : List DonorCall} {rcode : Int} {join_now skipped : Bool}
    (seqno_l donor_seq : Int)
    (hpre : ∀ c ∈ pre, c.isJoin = false ∧ c.donated = false ∧ ∀ p f l t, c ≠ .istRun p f l t)
    (h : JoinDecided cs rcode join_now skipped) :
    DonorRun.Announces ⟨pre ++ cs ++ [.localLeave seqno_l] ++
      (if join_now || decide (rcode < 0) then [.gcsJoin (if rcode < 0 then rcode else donor_seq)]
        else []), none, rcode⟩ donor_seq skipped := by
  generalize hpost : (if join_now || decide (rcode < 0) then
    [DonorCall.gcsJoin (if rcode < 0 then rcode else donor_seq)] else []) = post
  have hpj : (∃ c ∈ post, c.isJoin = true) ↔ join_now = true ∨ rcode < 0 := by
    subst hpost
    split
    next hb => exact iff_of_true ⟨_, List.mem_singleton_self _, rfl⟩ (by simpa using hb)
    next hb => exact iff_of_false (by simp) (by simpa using hb)
  -- outside the body, the run's calls neither join (but for `post`), donate nor start a sender
  have hnj : ∀ c ∈ pre ++ cs ++ [DonorCall.localLeave seqno_l], c.isJoin = false := by
    simp only [List.mem_append, List.mem_singleton]
    rintro c ((hc | hc) | rfl)
    exacts [(hpre c hc).1, h.no_join c hc, rfl]
  have hbody : ∀ c ∈ pre ++ cs ++ [DonorCall.localLeave seqno_l] ++ post,
      (c.donated = true ∨ ∃ p f l t, c = .istRun p f l t) → c ∈ cs := by
    simp only [List.mem_append, List.mem_singleton]
    rintro c (((hc | hc) | rfl) | hc) e
    · obtain ⟨-, hd, hi⟩ := hpre c hc
      obtain ⟨p, f, l, t, ht⟩ := e.resolve_left (by simp [hd])
      exact (hi p f l t ht).elim
    · exact hc
    · simp at e
    · subst hpost; split at hc <;> simp at hc; subst hc; simp at e
  have hsub : ∀ c ∈ cs, c ∈ pre ++ cs ++ [DonorCall.localLeave seqno_l] ++ post := fun c hc =>
    List.mem_append_left _ (List.mem_append_left _ (List.mem_append_right _ hc))
  have hjoin : ∀ c ∈ pre ++ cs ++ [DonorCall.localLeave seqno_l] ++ post, c.isJoin = true →
      c ∈ post := fun c hc e =>
    (List.mem_append.1 hc).resolve_left fun hc => by simp [hnj c hc] at e
  have hnd : (∀ c ∈ pre ++ cs ++ [DonorCall.localLeave seqno_l] ++ post, c.donated = false) ↔
      ∀ c ∈ cs, c.donated = false := by
    refine ⟨fun hn c hc => hn c (hsub c hc), fun hn c hc => ?_⟩
    cases e : c.donated
    · rfl
    · exact e.symm.trans (hn c (hbody c hc (.inl e)))
  have hist : ∀ {p f l t}, DonorCall.istRun p f l t ∈ pre ++ cs ++ [DonorCall.localLeave seqno_l] ++
      post ↔ DonorCall.istRun p f l t ∈ cs :=
    fun {p f l t} => ⟨fun hc => hbody _ hc (.inr ⟨p, f, l, t, rfl⟩), hsub _⟩
  have hjoins : (∃ c ∈ pre ++ cs ++ [DonorCall.localLeave seqno_l] ++ post, c.isJoin = true) ↔
      (∀ c ∈ cs, c.donated = false) ∨ rcode < 0 :=
    calc (∃ c ∈ pre ++ cs ++ [DonorCall.localLeave seqno_l] ++ post, c.isJoin = true)
        ↔ ∃ c ∈ post, c.isJoin = true :=
          ⟨fun ⟨c, hc, e⟩ => ⟨c, hjoin c hc e, e⟩,
            fun ⟨c, hc, e⟩ => ⟨c, List.mem_append_right _ hc, e⟩⟩
      _ ↔ (∀ c ∈ cs, c.donated = false) ∨ rcode < 0 := hpj.trans h.joins
  have hstatus : ∀ status, DonorCall.gcsJoin status ∈ pre ++ cs ++ [DonorCall.localLeave seqno_l] ++
      post → status = if rcode < 0 then rcode else donor_seq := fun status hs => by
    have hs := hjoin _ hs rfl
    subst hpost
    split at hs
    · exact DonorCall.gcsJoin.inj (List.mem_singleton.1 hs)
    · exact absurd hs (List.not_mem_nil _)
  refine ⟨?_, fun _ => ⟨hjoins.trans (or_congr_left hnd.symm), fun hr hc => ?_,
    fun status hs => ⟨fun ⟨hsk, hn, hni⟩ => ?_, fun hnf => ?_⟩⟩⟩
  · rw [List.filter_append, List.filter_eq_nil_iff.2 fun c hc => by simp [hnj c hc]]
    exact (List.length_filter_le _ _).trans (by subst hpost; split <;> simp)
  · obtain ⟨c, hc, e⟩ := hc
    exact (h.after_donation hr ⟨c, hbody c hc (.inl e), e⟩).imp
      (fun ⟨p, f, l, er, hm, he⟩ => ⟨p, f, l, er, hsub _ hm, he⟩)
      fun ⟨r, u, s, b, hm, he⟩ => ⟨r, u, s, b, hsub _ hm, he⟩
  · rw [hstatus status hs]
    rcases h.failed hsk (hnd.1 hn) (fun p f l hm => hni p f l (hsub _ hm)) with hr | ⟨p, f, l, e, hm, he⟩
    · exact .inl (by simp [hr])
    · exact .inr ⟨p, f, l, e, hsub _ hm, he⟩
  · rw [hstatus status hs]
    by_cases hd : ∀ c ∈ cs, c.donated = false
    · have hs0 : skipped = true ∨ ∃ p f l, DonorCall.istRun p f l none ∈ cs := by
        by_contra hno
        push_neg at hno
        exact hnf ⟨by simpa using hno.1, hnd.2 hd, fun p f l hm => hno.2 p f l (hist.1 hm)⟩
      simp [not_lt.2 (h.started hd hs0)]
    · have hr : rcode < 0 := (hjoins.1 ⟨_, hs, rfl⟩).resolve_left hd
      push_neg at hd
      obtain ⟨c, hc, e⟩ := hd
      exact .inr ⟨⟨c, hsub c hc, by simpa using e⟩, if_pos hr, hr⟩

/-- Every run of `process_state_req`, for every request and every collaborator outcome, announces
to the group as `DonorRun.Announces` says: at most once, and, when it returns, exactly when no
`sst_donate_cb_` call succeeded or its result code is negative, with a negative status exactly when
the transfer failed but for the exceptions `DonorRun.Announces` lists. -/
theorem process_state_req_join (env : DonorEnv) (d : Donor) (req : Bytes) (req_size : Nat)
    (seqno_l donor_seq : Int) :
    (processStateReq env d req req_size seqno_l donor_seq).Announces donor_seq
      (requestSkips req req_size) := by
  have henter : ∀ c ∈ ([.localEnter seqno_l, .applyDrain donor_seq] ++
      (if !env.commitBypass then [.commitDrain donor_seq] else []) ++ [.shiftTo .donor] :
        List DonorCall), c.isJoin = false ∧ c.donated = false ∧ ∀ p f l t, c ≠ .istRun p f l t := by
    cases env.commitBypass <;> simp
  have hthrown : ∀ e, DonorRun.Announces ⟨[.localEnter seqno_l, .applyDrain donor_seq] ++
      (if !env.commitBypass then [.commitDrain donor_seq] else []) ++ [.shiftTo .donor],
        some e, 0⟩ donor_seq (requestSkips req req_size) := fun e =>
    ⟨by rw [List.filter_eq_nil_iff.2 fun c hc => by simp [(henter c hc).1]]; exact Nat.zero_le _,
      fun h => absurd h (by simp)⟩
  unfold processStateReq
  cases hr : readStateRequest req req_size with
  | error e => exact hthrown e
  | ok streq =>
    have hskip : requestSkips req req_size = skipStateTransfer streq := by
      simp [requestSkips, hr]
    cases hs : serveStateRequest env d streq donor_seq with
    | error e =>
      simp only [Bind.bind, Except.bind, hs]
      exact hthrown e
    | ok v =>
      obtain ⟨cs, rcode, join_now⟩ := v
      simp only [Bind.bind, Except.bind, hs]
      rw [hskip]
      exact announces_of_joinDecided seqno_l donor_seq henter
        (serveStateRequest_joinDecided env d streq donor_seq hs)

/-! ## The local-order slot -/

theorem fullSst_notLocal (env : DonorEnv) (d : Donor) (streq : StateRequest) (donor_seq : Int) :
    ∀ c ∈ (fullSst env d streq donor_seq).1, c.isLocal = false := by
  unfold fullSst
  split <;> simp [donateSst, DonorCall.isLocal]

theorem istBranch_notLocal (env : DonorEnv) (d : Donor) (streq : StateRequest) (istr : IstRequest)
    (donor_seq : Int) : ∀ c ∈ (istBranch env d streq istr donor_seq).1, c.isLocal = false := by
  have hf := fullSst_notLocal env d streq donor_seq
  have hd : (donateSst env streq istr.uuid istr.lastApplied true).1.isLocal = false := rfl
  unfold istBranch
  generalize fullSst env d streq donor_seq = F at hf
  generalize donateSst env streq istr.uuid istr.lastApplied true = D at hd
  generalize env.istRun istr.peer (istr.lastApplied + 1) d.ccSeqno = thrown
  obtain ⟨cs, rc, jn⟩ := F
  obtain ⟨c, r⟩ := D
  dsimp only at hf hd ⊢
  split_ifs <;> simp only [List.forall_mem_cons, List.forall_mem_append, List.forall_mem_singleton,
    List.forall_mem_nil, List.mem_ite_nil_right, and_true, eq_true hf, hd] <;> simp [DonorCall.isLocal]

/-- The body of `process_state_req` makes no call on the local-order monitor. -/
theorem serveStateRequest_notLocal (env : DonorEnv) (d : Donor) (streq : StateRequest)
    (donor_seq : Int) {cs : List DonorCall} {rcode : Int} {join_now : Bool}
    (h : serveStateRequest env d streq donor_seq = .ok (cs, rcode, join_now)) :
    ∀ c ∈ cs, c.isLocal = false := by
  have hf := fullSst_notLocal env d streq donor_seq
  unfold serveStateRequest at h
  split_ifs at h
  · cases h
    simp
  · split at h
    · cases h
    next istr _ =>
      split_ifs at h
      · have hi := istBranch_notLocal env d streq istr donor_seq
        rwa [Except.ok.inj h] at hi
      · rwa [Except.ok.inj h] at hf
  · rwa [Except.ok.inj h] at hf

/-- Every run of `process_state_req`, for every request and every collaborator outcome, enters the
local-order slot `seqno_l` once and leaves it exactly when the run returns. When an exception from
decoding the request leaves the run, the slot stays entered, the last thing the run did is the shift
to `S_DONOR`, and nothing was announced to the group. -/
theorem process_state_req_keeps_slot (env : DonorEnv) (d : Donor) (req : Bytes) (req_size : Nat)
    (seqno_l donor_seq : Int) :
    (processStateReq env d req req_size seqno_l donor_seq).calls.count (.localEnter seqno_l) = 1 ∧
      ((processStateReq env d req req_size seqno_l donor_seq).calls.count (.localLeave seqno_l) = 1 ↔
        (processStateReq env d req req_size seqno_l donor_seq).thrown = none) ∧
      ((processStateReq env d req req_size seqno_l donor_seq).thrown ≠ none →
        (processStateReq env d req req_size seqno_l donor_seq).calls.getLast? =
          some (.shiftTo .donor) ∧
        ∀ status, DonorCall.gcsJoin status ∉ (processStateReq env d req req_size seqno_l donor_seq).calls) := by
  unfold processStateReq
  cases hr : readStateRequest req req_size with
  | error e => cases env.commitBypass <;> simp [Bind.bind, Except.bind]
  | ok streq =>
    cases hs : serveStateRequest env d streq donor_seq with
    | error e => cases env.commitBypass <;> simp [Bind.bind, Except.bind, hs]
    | ok v =>
      obtain ⟨cs, rcode, join_now⟩ := v
      have hcs := serveStateRequest_notLocal env d streq donor_seq hs
      have h0 : ∀ c, c.isLocal = true → cs.count c = 0 := fun c hc =>
        List.count_eq_zero.2 fun hm => by simp [hcs c hm] at hc
      simp only [Bind.bind, Except.bind, hs]
      cases env.commitBypass <;> simp [List.count_append, h0 (.localEnter seqno_l) rfl,
        h0 (.localLeave seqno_l) rfl] <;> split <;> simp

/-- A donor whose cache holds the joiner's gap, whose bypass donation succeeds, and whose IST
sender throws `ECONNREFUSED` (111). -/
def istRefusedEnv : DonorEnv where
  seqnoLock := fun _ => true
  sstDonate := fun _ _ _ _ => true
  istRun := fun _ _ _ => some 111
  commitBypass := false

/-- A donor of the nil history whose last configuration change is at seqno 10. -/
def donorAtTen : Donor := ⟨Uuid.nil, 10⟩

/-- An envelope with the SST payload `xb` and an IST part for the gap after seqno 5. -/
def bypassRequest : Bytes :=
  layout NUL (ascii "xb") (uuidPrint Uuid.nil ++ ascii ":5-10|tcp://j" ++ [NUL])

/-- The bypass donation succeeds and the IST sender then throws: the run announces `-111` to the
group although `sst_donate_cb_` succeeded, so the application's `sst_sent` announces the same
request a second time. -/
theorem process_state_req_joins_after_donation :
    (processStateReq istRefusedEnv donorAtTen bypassRequest bypassRequest.length 3 10).calls =
      [.localEnter 3, .applyDrain 10, .commitDrain 10, .shiftTo .donor, .seqnoLock 6 true,
        .sstDonate (ascii "xb") Uuid.nil 5 true true,
        .istRun (ascii "tcp://j" ++ [NUL]) 6 10 (some 111), .seqnoUnlock, .localLeave 3,
        .gcsJoin (-111)] := by
  decide

/-- A request that starts with the magic but is too short to hold both length prefixes. -/
def truncatedRequest : Bytes := ascii "STRv1x"

/-- The decoder rejects the truncated request with `EINVAL` after the donor entered slot 3 and
shifted to `S_DONOR`: the slot is never left, and nothing is announced. -/
theorem process_state_req_keeps_slot_truncated :
    (processStateReq istRefusedEnv donorAtTen truncatedRequest 6 3 10).thrown = some EINVAL ∧
      (processStateReq istRefusedEnv donorAtTen truncatedRequest 6 3 10).calls.count
        (.localEnter 3) = 1 ∧
      ((processStateReq istRefusedEnv donorAtTen truncatedRequest 6 3 10).calls.count
        (.localLeave 3) = 1 ↔
        (processStateReq istRefusedEnv donorAtTen truncatedRequest 6 3 10).thrown = none) ∧
      ((processStateReq istRefusedEnv donorAtTen truncatedRequest 6 3 10).thrown ≠ none →
        (processStateReq istRefusedEnv donorAtTen truncatedRequest 6 3 10).calls.getLast? =
          some (.shiftTo .donor) ∧
        ∀ status, DonorCall.gcsJoin status ∉
          (processStateReq istRefusedEnv donorAtTen truncatedRequest 6 3 10).calls) :=
  ⟨by decide, process_state_req_keeps_slot istRefusedEnv donorAtTen truncatedRequest 6 3 10⟩

end GaleraStateTransfer
