import GaleraStateTransfer.Joiner.Loops

/-!
# The recovery marker along a run of the joiner

The recovery marker `st_` is its persisted position plus the count `u` of `mark_unsafe` calls over
`mark_safe` calls. While the joiner waits for an SST it must stay unsafe, so that a crash demands a
full SST on restart; it must never be marked safe more often than unsafe.

For a real SST the marker is unsafe over a window of the run: the window opens at `mark_unsafe`,
before the request is sent, and shuts at the first `st_.set` after it, which persists the position
the SST brought, `WSREP_SEQNO_UNDEFINED`, or, after a failed request, the joiner's own position.
`MarkerKept isUnsafe Closes u w cs` follows the count and the window along the calls `cs` from `u`
and `w`: the count never goes below the count at entry, and, in a run that marked the state unsafe,
every call inside the window finds it exactly one above it, every call that waits for the SST is
inside the window, and the `st_.set` that shuts the window persists a position `Closes` allows.
Each piece of the joiner's code gets one lemma saying what it does to the marker;
`request_state_transfer_marker` assembles them.
-/

namespace GaleraStateTransfer

open JoinerM

/-- Where a run stands with respect to the window in which a real SST keeps the marker unsafe. -/
inductive MarkerWindow where
  | before
  | inside
  | after
  deriving DecidableEq

namespace JoinerCall

/-- What a call does to the count of `mark_unsafe` over `mark_safe`. -/
def unsafeDelta : JoinerCall → Int
  | markUnsafe => 1
  | markSafe => -1
  | _ => 0

/-- The calls at which the joiner waits for the SST: each request to the group layer, and the wait
on `sst_cond_`. -/
def awaitsSst : JoinerCall → Bool
  | gcsRequest .. => true
  | sstWait => true
  | _ => false

/-- The window after a call: `mark_unsafe` opens it, and an `st_.set` inside it shuts it. -/
def window : JoinerCall → MarkerWindow → MarkerWindow
  | markUnsafe, w => if w = .before then .inside else w
  | stSet .., w => if w = .inside then .after else w
  | _, w => w

/-- A call that is neither `mark_unsafe` nor `st_.set` keeps the window. -/
theorem window_eq_self {c : JoinerCall} (hu : c ≠ markUnsafe) (hs : ∀ u s b, c ≠ stSet u s b)
    (w : MarkerWindow) : c.window w = w := by
  cases c <;> first | rfl | exact absurd rfl hu | exact absurd rfl (hs _ _ _)

/-- A call that changes no count keeps a window that is not inside. -/
theorem window_eq_of_ne_inside {c : JoinerCall} (h : c.unsafeDelta = 0) {w : MarkerWindow}
    (hw : w ≠ .inside) : c.window w = w := by
  unfold window
  split
  · exact absurd h (by decide)
  · exact if_neg hw
  · rfl

end JoinerCall

/-- The change calls make to the marker's count. -/
def unsafeCount (cs : List JoinerCall) : Int := (cs.map JoinerCall.unsafeDelta).sum

@[simp]
theorem unsafeCount_nil : unsafeCount [] = 0 := rfl

@[simp]
theorem unsafeCount_cons (c : JoinerCall) (cs : List JoinerCall) :
    unsafeCount (c :: cs) = c.unsafeDelta + unsafeCount cs := by
  simp [unsafeCount]

@[simp]
theorem unsafeCount_append (a b : List JoinerCall) :
    unsafeCount (a ++ b) = unsafeCount a + unsafeCount b := by
  simp [unsafeCount]

/-- The window after the calls `cs`, from `w`. -/
def windowAfter (w : MarkerWindow) (cs : List JoinerCall) : MarkerWindow :=
  cs.foldl (fun w c => c.window w) w

@[simp]
theorem windowAfter_nil (w : MarkerWindow) : windowAfter w [] = w := rfl

@[simp]
theorem windowAfter_cons (w : MarkerWindow) (c : JoinerCall) (cs : List JoinerCall) :
    windowAfter w (c :: cs) = windowAfter (c.window w) cs := rfl

@[simp]
theorem windowAfter_append (w : MarkerWindow) (a b : List JoinerCall) :
    windowAfter w (a ++ b) = windowAfter (windowAfter w a) b := List.foldl_append _ _ _ _

/-- Calls that are neither `mark_unsafe` nor `st_.set` keep the window. -/
theorem windowAfter_eq_self {cs : List JoinerCall}
    (h : ∀ c ∈ cs, c ≠ .markUnsafe ∧ ∀ u s b, c ≠ .stSet u s b) (w : MarkerWindow) :
    windowAfter w cs = w := by
  induction cs with
  | nil => rfl
  | cons c cs ih =>
    rw [List.forall_mem_cons] at h
    rw [windowAfter_cons, JoinerCall.window_eq_self h.1.1 h.1.2, ih h.2]

/-- The marker followed along calls from the count `u` and the window `w`: the count never goes
below the entry count, and, in a run that marked the state unsafe, every call that waits for the SST
is inside the window, every call inside it finds the count one above the entry count, and the
`st_.set` that shuts it persists a position `Closes` allows. -/
def MarkerKept (isUnsafe : Bool) (Closes : Uuid → Int → Prop) :
    Int → MarkerWindow → List JoinerCall → Prop
  | _, _, [] => True
  | u, w, c :: cs =>
    (isUnsafe = true → (c.awaitsSst = true → w = .inside) ∧
      (w = .inside → u = 1 ∧ ∀ uuid seqno stb, c = .stSet uuid seqno stb → Closes uuid seqno)) ∧
    0 ≤ u + c.unsafeDelta ∧ MarkerKept isUnsafe Closes (u + c.unsafeDelta) (c.window w) cs

section Closes

variable (Closes : Uuid → Int → Prop)

@[simp]
theorem markerKept_nil (b : Bool) (u : Int) (w : MarkerWindow) : MarkerKept b Closes u w [] :=
  trivial

@[simp]
theorem markerKept_cons (b : Bool) (u : Int) (w : MarkerWindow) (c : JoinerCall)
    (cs : List JoinerCall) :
    MarkerKept b Closes u w (c :: cs) ↔
      (b = true → (c.awaitsSst = true → w = .inside) ∧
        (w = .inside → u = 1 ∧ ∀ uuid seqno stb, c = .stSet uuid seqno stb → Closes uuid seqno)) ∧
      0 ≤ u + c.unsafeDelta ∧ MarkerKept b Closes (u + c.unsafeDelta) (c.window w) cs := Iff.rfl

theorem markerKept_append (b : Bool) (xs ys : List JoinerCall) (u : Int) (w : MarkerWindow) :
    MarkerKept b Closes u w (xs ++ ys) ↔
      MarkerKept b Closes u w xs ∧ MarkerKept b Closes (u + unsafeCount xs) (windowAfter w xs) ys := by
  induction xs generalizing u w with
  | nil => simp
  | cons c xs ih => simp [ih, add_assoc, and_assoc]

/-- The marker automaton, call by call: the count taken after each call never goes below its entry
value, and, in a run that marked the state unsafe, a call that waits for the SST comes inside the
window, a call inside the window finds the count one above its entry value, and an `st_.set` inside
the window persists a position `Closes` allows. -/
theorem markerKept_iff (b : Bool) (cs : List JoinerCall) (u : Int) (w : MarkerWindow) :
    MarkerKept b Closes u w cs ↔ ∀ pre c post, cs = pre ++ c :: post →
      0 ≤ u + unsafeCount (pre ++ [c]) ∧
      (b = true → (c.awaitsSst = true → windowAfter w pre = .inside) ∧
        (windowAfter w pre = .inside → u + unsafeCount pre = 1 ∧
          ∀ uuid seqno stb, c = .stSet uuid seqno stb → Closes uuid seqno)) := by
  induction cs generalizing u w with
  | nil => simp
  | cons d cs ih =>
    constructor
    · rintro ⟨hw, hd, hk⟩ pre c post h
      rcases pre with _ | ⟨e, pre⟩
      · obtain ⟨rfl, rfl⟩ := List.cons.inj h
        exact ⟨by simpa using hd, by simpa using hw⟩
      · obtain ⟨rfl, rfl⟩ := List.cons.inj h
        simpa [add_assoc] using (ih _ _).1 hk pre c post rfl
    · intro h
      have h0 := h [] d cs rfl
      simp only [List.nil_append, unsafeCount_cons, unsafeCount_nil, add_zero,
        List.singleton_append, windowAfter_nil] at h0
      refine ⟨fun hb => by simpa using h0.2 hb, h0.1, (ih _ _).2 fun pre c post hp => ?_⟩
      simpa [add_assoc] using h (d :: pre) c post (by rw [hp]; rfl)

/-! ## Calls that leave the marker alone -/

/-- Calls that change no count, wait for no SST, and neither close the connection nor shift the
node's state. -/
def Quiet (cs : List JoinerCall) : Prop :=
  ∀ c ∈ cs, c.unsafeDelta = 0 ∧ c.awaitsSst = false ∧ c ≠ .close ∧ ∀ s, c ≠ .shiftTo s

@[simp]
theorem quiet_nil : Quiet [] := fun _ h => absurd h (List.not_mem_nil _)

@[simp]
theorem quiet_cons (c : JoinerCall) (cs : List JoinerCall) :
    Quiet (c :: cs) ↔
      (c.unsafeDelta = 0 ∧ c.awaitsSst = false ∧ c ≠ .close ∧ ∀ s, c ≠ .shiftTo s) ∧ Quiet cs := by
  simp [Quiet]

@[simp]
theorem quiet_append (a b : List JoinerCall) : Quiet (a ++ b) ↔ Quiet a ∧ Quiet b := by
  simp only [Quiet, List.mem_append]
  exact ⟨fun h => ⟨fun c hc => h c (.inl hc), fun c hc => h c (.inr hc)⟩,
    fun h c hc => hc.elim (h.1 c) (h.2 c)⟩

theorem Quiet.unsafeCount_eq {cs : List JoinerCall} (h : Quiet cs) : unsafeCount cs = 0 := by
  induction cs with
  | nil => rfl
  | cons c cs ih =>
    rw [quiet_cons] at h
    rw [unsafeCount_cons, h.1.1, ih h.2, add_zero]

/-- A call that changes no count is not `mark_unsafe`, so it can only keep the window inside. -/
theorem JoinerCall.inside_of_window {c : JoinerCall} (h : c.unsafeDelta = 0) {w : MarkerWindow}
    (hw : c.window w = .inside) : w = .inside ∧ ∀ u s b, c ≠ .stSet u s b := by
  unfold JoinerCall.window at hw
  split at hw
  · exact absurd h (by decide)
  · split at hw <;> simp_all
  · exact ⟨hw, by simp_all⟩

/-- Quiet calls keep the marker from a non-negative count; in a run marked unsafe they may come
inside the window only with the count one above its entry value and without an `st_.set`. -/
theorem Quiet.markerKept {cs : List JoinerCall} (h : Quiet cs) (b : Bool) {u : Int} (hu : 0 ≤ u)
    (w : MarkerWindow)
    (hw : b = true → w = .inside → u = 1 ∧ ∀ c ∈ cs, ∀ uuid seqno stb, c ≠ .stSet uuid seqno stb) :
    MarkerKept b Closes u w cs := by
  induction cs generalizing w with
  | nil => trivial
  | cons c cs ih =>
    rw [quiet_cons] at h
    obtain ⟨⟨hd, ha, -, -⟩, hq⟩ := h
    refine ⟨fun hb => ⟨fun hc => by simp [ha] at hc, fun hi => ⟨(hw hb hi).1,
      fun uuid seqno stb hc => ((hw hb hi).2 c (List.mem_cons_self c cs) uuid seqno stb hc).elim⟩⟩,
      by simpa [hd] using hu, ?_⟩
    rw [hd, add_zero]
    refine ih hq _ fun hb hi => ?_
    have hw := hw hb (c.inside_of_window hd hi).1
    exact ⟨hw.1, fun c' hc' => hw.2 c' (List.mem_cons_of_mem c hc')⟩

/-- Quiet calls keep a window that is not inside. -/
theorem Quiet.windowAfter_eq {cs : List JoinerCall} (h : Quiet cs) {w : MarkerWindow}
    (hw : w ≠ .inside) : windowAfter w cs = w := by
  induction cs generalizing w with
  | nil => rfl
  | cons c cs ih =>
    rw [quiet_cons] at h
    rw [windowAfter_cons, c.window_eq_of_ne_inside h.1.1 hw, ih h.2 hw]

theorem Quiet.close_not_mem {cs : List JoinerCall} (h : Quiet cs) : JoinerCall.close ∉ cs :=
  fun hc => (h _ hc).2.2.1 rfl

theorem Quiet.sstWait_not_mem {cs : List JoinerCall} (h : Quiet cs) : JoinerCall.sstWait ∉ cs :=
  fun hc => Bool.noConfusion (h _ hc).2.1

theorem Quiet.shiftTo_not_mem {cs : List JoinerCall} (h : Quiet cs) (s : NodeState) :
    JoinerCall.shiftTo s ∉ cs :=
  fun hc => (h _ hc).2.2.2 s rfl

/-! ## Each piece of the joiner's code -/

/-- Building the request makes no marker call, and changes no field but `ist_prepared_`. -/
theorem prepareStateRequest_quiet (env : JoinerEnv) (sst : Bytes) (group_uuid : Uuid)
    (group_seqno : Int) (j : Joiner) :
    Quiet (prepareStateRequest env sst group_uuid group_seqno j).calls ∧
      ((prepareStateRequest env sst group_uuid group_seqno j).joiner = j ∨
        (prepareStateRequest env sst group_uuid group_seqno j).joiner =
          { j with istPrepared := true }) := by
  by_cases h0 : env.strProtoVer = 0
  · simp [prepareStateRequest, h0]
  by_cases hv : env.strProtoVer = 1 ∨ env.strProtoVer = 2
  · have hpf : ∃ j' cs ist, prepareForIst env group_uuid group_seqno j = ⟨j', cs, .next ist⟩ ∧
        Quiet cs ∧ (j' = j ∨ j' = { j with istPrepared := true }) := by
      have hq : Quiet [.istPrepare (j.stateSeqno + 1) group_seqno] := by
        simp [JoinerCall.unsafeDelta, JoinerCall.awaitsSst]
      rw [prepareForIst_eq]
      split_ifs
      · exact ⟨_, _, _, rfl, quiet_nil, .inl rfl⟩
      all_goals split
      all_goals first
        | exact ⟨_, _, _, rfl, hq, .inl rfl⟩
        | exact ⟨_, _, _, rfl, hq, .inr rfl⟩
    obtain ⟨j', cs, ist, hx, hq, hj⟩ := hpf
    rw [prepareStateRequest_v1 env sst group_uuid group_seqno hv hx]
    split <;> exact ⟨hq, hj⟩
  · simp [prepareStateRequest, h0, hv]

/-- One attempt's calls change no count and keep the window; in a run marked unsafe they come
inside it. -/
theorem sendCalls_marker (env : JoinerEnv) (req : StateRequest) (ist_uuid : Uuid) (ist_seqno : Int)
    (a : Int × Int) (b : Bool) (u : Int) (w : MarkerWindow) (hu : 0 ≤ u)
    (hb : b = true → w = .inside ∧ u = 1) :
    MarkerKept b Closes u w (sendCalls env req ist_uuid ist_seqno a) ∧
      unsafeCount (sendCalls env req ist_uuid ist_seqno a) = 0 ∧
      windowAfter w (sendCalls env req ist_uuid ist_seqno a) = w ∧
      JoinerCall.close ∉ sendCalls env req ist_uuid ist_seqno a := by
  unfold sendCalls
  split <;> simp_all [JoinerCall.awaitsSst, JoinerCall.unsafeDelta, JoinerCall.window]

/-- The retry loop changes no field and keeps the window, and makes no marker call but the
`mark_safe` before the abort on `-ENODATA`; a loop that goes on has made none. -/
theorem sendLoop_marker (env : JoinerEnv) (req : StateRequest) (ist_uuid : Uuid) (ist_seqno : Int)
    (b : Bool) (answers : List (Int × Int)) (j : Joiner) (u : Int) (w : MarkerWindow) (hu : 0 ≤ u)
    (hb : b = true → w = .inside ∧ u = 1) :
    (sendLoop env req ist_uuid ist_seqno b answers j).joiner = j ∧
      MarkerKept b Closes u w (sendLoop env req ist_uuid ist_seqno b answers j).calls ∧
      JoinerCall.close ∉ (sendLoop env req ist_uuid ist_seqno b answers j).calls ∧
      windowAfter w (sendLoop env req ist_uuid ist_seqno b answers j).calls = w ∧
      ∀ r, (sendLoop env req ist_uuid ist_seqno b answers j).ends = .next r →
        unsafeCount (sendLoop env req ist_uuid ist_seqno b answers j).calls = 0 := by
  induction answers with
  | nil => simp [sendLoop]
  | cons a answers ih =>
    obtain ⟨ret, seqno_l⟩ := a
    by_cases hnd : ret = -ENODATA
    · -- the abort, after a `mark_safe` in a run marked unsafe
      simp only [sendLoop, run_bind, JoinerM.bind, run_call, if_pos hnd, ite_run, run_stop,
        run_pure, List.nil_append, List.append_nil, List.singleton_append]
      cases b <;> simp_all [JoinerCall.awaitsSst, JoinerCall.unsafeDelta, JoinerCall.window]
    · obtain ⟨hk, hc, hw, hn⟩ :=
        sendCalls_marker Closes env req ist_uuid ist_seqno (ret, seqno_l) b u w hu hb
      rw [sendLoop_cons env req ist_uuid ist_seqno b ret seqno_l answers j hnd]
      split <;> simp_all [markerKept_append]

theorem istTarget_run (req : StateRequest) (j : Joiner) :
    (istTarget req j).joiner = j ∧ (istTarget req j).calls = [] := by
  unfold istTarget
  split
  · cases getIstRequest req <;> exact ⟨rfl, rfl⟩
  · exact ⟨rfl, rfl⟩

/-- A failed request persists the joiner's position, which shuts the window; when the function
returns, the marker is back at its entry count. -/
theorem sendFailed_marker (env : JoinerEnv) (ret : Int) (b : Bool) (j : Joiner) (w : MarkerWindow)
    (hC : Closes j.stateUuid j.stateSeqno) (hw : b = true → w = .inside) :
    MarkerKept b Closes (b.toNat : Int) w (sendFailed env ret b j).calls ∧
      JoinerCall.close ∉ (sendFailed env ret b j).calls ∧
      ∀ r, (sendFailed env ret b j).ends = .next r →
        r = ret ∧ unsafeCount (sendFailed env ret b j).calls = -(b.toNat : Int) ∧
        (sendFailed env ret b j).joiner =
          { j with sstState := .reqFailed, st := ⟨j.stateUuid, j.stateSeqno, j.safeToBootstrap⟩ } ∧
        (b = true → windowAfter w (sendFailed env ret b j).calls = .after) := by
  simp only [sendFailed, run_bind, JoinerM.bind, run_update, run_current, run_stSet, run_call, ite_run,
    run_stop, run_pure, List.nil_append, List.append_nil, List.singleton_append]
  cases b
  · by_cases ha : ret ≠ -ENODATA ∧ NodeState.closing.rank < env.stateAtSendFailure.rank <;>
      simp [ha, JoinerCall.awaitsSst, JoinerCall.unsafeDelta, hC]
  · obtain rfl := hw rfl
    by_cases ha : ret ≠ -ENODATA ∧ NodeState.closing.rank < env.stateAtSendFailure.rank <;>
      simp [ha, JoinerCall.awaitsSst, JoinerCall.unsafeDelta, JoinerCall.window, hC]

/-- `send_state_request` makes no call that closes, keeps the marker, and either returns a
non-negative code with nothing changed and the window kept, or returns a failure with the joiner's
position persisted, the window shut and the marker back at its entry count. -/
theorem sendStateRequest_marker (env : JoinerEnv) (req : StateRequest) (b : Bool) (j : Joiner)
    (w : MarkerWindow) (hC : Closes j.stateUuid j.stateSeqno) (hw : b = true → w = .inside) :
    MarkerKept b Closes (b.toNat : Int) w (sendStateRequest env req b j).calls ∧
      JoinerCall.close ∉ (sendStateRequest env req b j).calls ∧
      ∀ r, (sendStateRequest env req b j).ends = .next r →
        (0 ≤ r ∧ unsafeCount (sendStateRequest env req b j).calls = 0 ∧
          (sendStateRequest env req b j).joiner = j ∧
          windowAfter w (sendStateRequest env req b j).calls = w) ∨
        (r < 0 ∧ unsafeCount (sendStateRequest env req b j).calls = -(b.toNat : Int) ∧
          (sendStateRequest env req b j).joiner =
            { j with sstState := .reqFailed, st := ⟨j.stateUuid, j.stateSeqno, j.safeToBootstrap⟩ } ∧
          (b = true → windowAfter w (sendStateRequest env req b j).calls = .after)) := by
  simp only [sendStateRequest, run_bind, JoinerM.bind]
  obtain ⟨hj1, hc1⟩ := istTarget_run req j
  generalize istTarget req j = o1 at hj1 hc1 ⊢
  rcases o1 with ⟨j1, cs1, ist | s⟩ <;> simp only [List.nil_append] at hj1 hc1 ⊢ <;> subst j1 cs1
  · obtain ⟨hj2, hk2, hc2, hw2, hu2⟩ :=
      sendLoop_marker Closes env req ist.1 ist.2 b env.gcsAnswers j b.toNat w (Int.ofNat_nonneg _)
      (fun h => ⟨hw h, by simp [h]⟩)
    generalize sendLoop env req ist.1 ist.2 b env.gcsAnswers j = o2 at hj2 hk2 hc2 hw2 hu2 ⊢
    rcases o2 with ⟨j2, cs2, ret | s⟩ <;> simp only at hj2 hk2 hc2 hw2 hu2 ⊢ <;> subst j2
    · have hu2 := hu2 ret rfl
      by_cases hr : 0 ≤ ret
      · simp only [ite_run, if_pos hr, run_pure, List.nil_append, List.append_nil]
        refine ⟨hk2, hc2, fun r hr' => .inl ?_⟩
        obtain rfl : ret = r := Ends.next.inj hr'
        exact ⟨hr, hu2, trivial, hw2⟩
      · simp only [ite_run, if_neg hr, List.nil_append]
        obtain ⟨hk3, hc3, he3⟩ := sendFailed_marker Closes env ret b j w hC hw
        refine ⟨(markerKept_append Closes b cs2 _ _ _).2 ⟨hk2, by simpa [hu2, hw2] using hk3⟩,
          by simp [hc2, hc3], fun r hr' => .inr ?_⟩
        obtain ⟨rfl, h3, h4, h5⟩ := he3 r hr'
        exact ⟨by omega, by simp [hu2, h3], h4, fun hb => by simp [hw2, h5 hb]⟩
    · simpa using ⟨hk2, hc2⟩
  · simp

theorem clearPersistedSeqno_run (j : Joiner) :
    Quiet (clearPersistedSeqno j).calls ∧ (clearPersistedSeqno j).ends = .next () ∧
      (clearPersistedSeqno j).joiner.st.seqno = WSREP_SEQNO_UNDEFINED := by
  simp only [clearPersistedSeqno, run_bind, JoinerM.bind, run_current, ite_run, run_stSet]
  split_ifs with h <;> simp [JoinerCall.unsafeDelta, JoinerCall.awaitsSst]
  simpa using h

theorem closeIstReceiver_quiet (j : Joiner) :
    Quiet (closeIstReceiver j).calls ∧ (closeIstReceiver j).ends = .next () ∧
      (closeIstReceiver j).joiner.st = j.st := by
  simp only [closeIstReceiver, run_bind, JoinerM.bind, run_current, ite_run, run_update, run_call]
  split <;> simp [JoinerCall.unsafeDelta, JoinerCall.awaitsSst]

/-- Receiving the IST persists positions and may mark the state corrupt, but never touches the
count. -/
theorem recvIst_quiet (env : JoinerEnv) (first : Bool) (rs : List IstRecv) (j : Joiner) :
    Quiet (recvIst env first rs j).calls := by
  induction rs generalizing first j with
  | nil => simp [recvIst]
  | cons r rs ih =>
    rcases r with ⟨seqno, depends, verifies, applies⟩ | _ | _
    · simp only [recvIst, clearPersistedSeqno, run_bind, JoinerM.bind, run_current, ite_run,
        run_stSet, run_call, run_update, run_stop, run_pure]
      split_ifs <;> simp [ih, JoinerCall.unsafeDelta, JoinerCall.awaitsSst]
    · simp [recvIst]
    · simp [recvIst]

theorem runIst_quiet (env : JoinerEnv) (req : StateRequest) (group_seqno : Int) (j : Joiner) :
    Quiet (runIst env req group_seqno j).calls := by
  simp only [runIst, run_bind, JoinerM.bind, run_current, ite_run]
  split_ifs
  · simp only [run_call, List.nil_append, run_bind, JoinerM.bind]
    have h := recvIst_quiet env true env.istRecv j
    generalize recvIst env true env.istRecv j = o at h ⊢
    rcases o with ⟨j', cs, _ | s⟩
    · simp only [run_current, ite_run, run_update, run_call, List.nil_append]
      split_ifs <;> simp [h, JoinerCall.unsafeDelta, JoinerCall.awaitsSst]
    · simp [h, JoinerCall.unsafeDelta, JoinerCall.awaitsSst]
  · simpa using (closeIstReceiver_quiet j).1
  · simp

theorem installSst_quiet (env : JoinerEnv) (j : Joiner) :
    Quiet (installSst env j).calls ∧ (installSst env j).ends = .next () := by
  simp only [installSst, run_bind, JoinerM.bind, run_current, run_call, run_update, ite_run]
  split_ifs <;> simp [JoinerCall.unsafeDelta, JoinerCall.awaitsSst]

theorem installSst_noStSet (env : JoinerEnv) (j : Joiner) :
    ∀ c ∈ (installSst env j).calls, ∀ uuid seqno stb, c ≠ .stSet uuid seqno stb := by
  rw [installSst_eq]
  split <;> simp

/-- The end of a transfer persists the cleared seqno, marks the state safe again after a real SST,
and returns 0 with the cleared seqno persisted. -/
theorem finishTransfer_marker (env : JoinerEnv) (req : StateRequest) (group_seqno : Int) (b : Bool)
    (j : Joiner) :
    ∃ rest, (finishTransfer env req group_seqno b j).calls =
        .stSet j.stateUuid WSREP_SEQNO_UNDEFINED j.safeToBootstrap ::
          ((if b then [.markSafe] else []) ++ rest) ∧ Quiet rest ∧
      ∀ r, (finishTransfer env req group_seqno b j).ends = .next r →
        r = 0 ∧ (finishTransfer env req group_seqno b j).joiner.st.seqno = WSREP_SEQNO_UNDEFINED := by
  simp only [finishTransfer, run_bind, JoinerM.bind, run_current, run_stSet, run_call, run_pure,
    ite_run, List.nil_append, List.cons_append]
  have hq := runIst_quiet env req group_seqno
    { j with st := ⟨j.stateUuid, WSREP_SEQNO_UNDEFINED, j.safeToBootstrap⟩ }
  generalize runIst env req group_seqno
    { j with st := ⟨j.stateUuid, WSREP_SEQNO_UNDEFINED, j.safeToBootstrap⟩ } = o at hq ⊢
  rcases o with ⟨j2, cs2, _ | s⟩
  · dsimp only
    obtain ⟨hq3, he3, hs3⟩ := clearPersistedSeqno_run j2
    generalize clearPersistedSeqno j2 = o3 at hq3 he3 hs3 ⊢
    rcases o3 with ⟨j3, cs3, _ | s⟩
    · cases b <;> simp_all
    · cases he3
  · cases b <;> simp_all

/-- Acting on the SST's result: a cancel returns `-ECANCELED` with the state marked unsafe, and an
installed SST returns 0 with the marker back at its entry count and the cleared seqno persisted.
The `st_.set` that shuts the window persists the SST's position on a state of another history, and
`WSREP_SEQNO_UNDEFINED` after an install. -/
theorem actOnSst_marker (env : JoinerEnv) (req : StateRequest) (group_uuid : Uuid)
    (group_seqno : Int) (b : Bool) (j : Joiner) (w : MarkerWindow)
    (hC : b = true → Closes j.sstUuid j.sstSeqno) (hU : ∀ uuid, Closes uuid WSREP_SEQNO_UNDEFINED)
    (hw : b = true → w = .inside) :
    MarkerKept b Closes (b.toNat : Int) w (actOnSst env req group_uuid group_seqno b j).calls ∧
      ∀ r, (actOnSst env req group_uuid group_seqno b j).ends = .next r →
        (r = -ECANCELED ∧ JoinerCall.close ∈ (actOnSst env req group_uuid group_seqno b j).calls ∧
          (b.toNat : Int) + unsafeCount (actOnSst env req group_uuid group_seqno b j).calls = 1) ∨
        (r = 0 ∧ JoinerCall.close ∉ (actOnSst env req group_uuid group_seqno b j).calls ∧
          (b.toNat : Int) + unsafeCount (actOnSst env req group_uuid group_seqno b j).calls = 0 ∧
          (actOnSst env req group_uuid group_seqno b j).joiner.st.seqno = WSREP_SEQNO_UNDEFINED) := by
  simp only [actOnSst, run_bind, JoinerM.bind, run_current, ite_run, List.nil_append]
  by_cases hc : j.sstState = .canceled
  · rw [if_pos hc]
    cases b
    · simp [JoinerCall.unsafeDelta, JoinerCall.awaitsSst]
    · obtain rfl := hw rfl
      simp [JoinerCall.unsafeDelta, JoinerCall.awaitsSst]
  rw [if_neg hc]
  by_cases hu : j.sstUuid ≠ group_uuid
  · rw [if_pos hu]
    cases b
    · simp [JoinerCall.unsafeDelta, JoinerCall.awaitsSst]
    · obtain rfl := hw rfl
      simpa [JoinerCall.unsafeDelta, JoinerCall.awaitsSst] using hC rfl
  rw [if_neg hu]
  obtain ⟨hq, he⟩ := installSst_quiet env j
  have hns := installSst_noStSet env j
  generalize installSst env j = o at hq he hns ⊢
  rcases o with ⟨j1, cs1, _ | s⟩
  · dsimp only at hq hns ⊢
    obtain ⟨rest, hcalls, hq2, hr⟩ := finishTransfer_marker env req group_seqno b j1
    have hw1 : windowAfter w cs1 = w := windowAfter_eq_self (fun c hc =>
      ⟨fun h => by simpa [h, JoinerCall.unsafeDelta] using (hq c hc).1, hns c hc⟩) w
    rw [hcalls]
    refine ⟨?_, fun r h => .inr ?_⟩
    · rw [markerKept_append, hw1]
      refine ⟨hq.markerKept Closes b (Int.ofNat_nonneg _) w fun hb _ => ⟨by simp [hb], hns⟩, ?_⟩
      cases b
      · simp [hq.unsafeCount_eq, markerKept_append,
          hq2.markerKept Closes false le_rfl _ (fun h => absurd h Bool.false_ne_true),
          JoinerCall.unsafeDelta, JoinerCall.awaitsSst]
      · obtain rfl := hw rfl
        simp [hq.unsafeCount_eq, markerKept_append, hU, hq2.markerKept Closes true le_rfl .after
          (fun _ h => absurd h (by decide)), JoinerCall.unsafeDelta, JoinerCall.awaitsSst,
          JoinerCall.window]
    · obtain ⟨rfl, hs⟩ := hr r h
      cases b <;> simp [hq.close_not_mem, hq2.close_not_mem, hq.unsafeCount_eq,
        hq2.unsafeCount_eq, JoinerCall.unsafeDelta, hs]
  · cases he

/-- Waiting for the SST keeps the marker one above its entry count at the wait, which comes inside
the window, and the result is acted on as `actOnSst_marker` says. -/
theorem awaitSst_marker (env : JoinerEnv) (req : StateRequest) (group_uuid : Uuid)
    (group_seqno : Int) (trivial b : Bool) (j : Joiner) (w : MarkerWindow)
    (hC : b = true → ∀ state uuid seqno, env.sstWake = some (state, uuid, seqno) → Closes uuid seqno)
    (hU : ∀ uuid, Closes uuid WSREP_SEQNO_UNDEFINED) (hb : trivial = true → b = false)
    (hw : b = true → w = .inside) :
    MarkerKept b Closes (b.toNat : Int) w (awaitSst env req group_uuid group_seqno trivial b j).calls ∧
      ∀ r, (awaitSst env req group_uuid group_seqno trivial b j).ends = .next r →
        (r = -ECANCELED ∧ JoinerCall.close ∈ (awaitSst env req group_uuid group_seqno trivial b j).calls ∧
          (b.toNat : Int) + unsafeCount (awaitSst env req group_uuid group_seqno trivial b j).calls = 1) ∨
        (r = 0 ∧ JoinerCall.close ∉ (awaitSst env req group_uuid group_seqno trivial b j).calls ∧
          (b.toNat : Int) + unsafeCount (awaitSst env req group_uuid group_seqno trivial b j).calls = 0 ∧
          (awaitSst env req group_uuid group_seqno trivial b j).joiner.st.seqno =
            WSREP_SEQNO_UNDEFINED) := by
  simp only [awaitSst, sstWait, run_bind, JoinerM.bind, ite_run, run_update, run_call]
  cases trivial
  · simp only [Bool.false_eq_true, if_false, List.nil_append]
    cases hwk : env.sstWake with
    | none => cases b <;> simp [JoinerCall.awaitsSst, JoinerCall.unsafeDelta, hw]
    | some wk =>
      obtain ⟨state, uuid, seqno⟩ := wk
      simp only [run_update, List.nil_append, List.singleton_append]
      obtain ⟨hk, hr⟩ := actOnSst_marker Closes env req group_uuid group_seqno b
        { j with sstState := state, sstUuid := uuid, sstSeqno := seqno } w
        (fun h => hC h state uuid seqno hwk) hU hw
      refine ⟨?_, fun r h => ?_⟩
      · cases b <;> simpa [JoinerCall.awaitsSst, JoinerCall.unsafeDelta, hw] using hk
      · simpa [JoinerCall.unsafeDelta] using hr r h
  · obtain rfl := hb rfl
    simpa using actOnSst_marker Closes env req group_uuid group_seqno false
      { j with sstUuid := group_uuid, sstSeqno := group_seqno } w (fun h => absurd h (by simp)) hU
      (fun h => absurd h (by simp))

end Closes

/-! ## A whole run of `request_state_transfer` -/

/-- The positions the `st_.set` that shuts the window may persist, for a joiner that starts as `j`:
its own position, after a failed request; `WSREP_SEQNO_UNDEFINED`, after an installed SST; or the
position `sst_received` reported, for a state of another history. -/
def windowCloses (env : JoinerEnv) (j : Joiner) (uuid : Uuid) (seqno : Int) : Prop :=
  (uuid = j.stateUuid ∧ seqno = j.stateSeqno) ∨ seqno = WSREP_SEQNO_UNDEFINED ∨
    ∃ state, env.sstWake = some (state, uuid, seqno)

/-- Along a whole run the marker is kept, and a run that returns does so in one of three ways. -/
theorem requestStateTransfer_kept (env : JoinerEnv) (group_uuid : Uuid) (group_seqno : Int)
    (sst : Bytes) (j : Joiner) :
    MarkerKept (sst.length != 0 && !sstIsTrivial sst sst.length) (windowCloses env j) 0 .before
      (requestStateTransfer env group_uuid group_seqno sst j).calls ∧
    ∀ r, (requestStateTransfer env group_uuid group_seqno sst j).ends = .next r →
      (r = -ECANCELED ∧ JoinerCall.close ∈ (requestStateTransfer env group_uuid group_seqno sst j).calls ∧
        unsafeCount (requestStateTransfer env group_uuid group_seqno sst j).calls = 1) ∨
      (r = 0 ∧ JoinerCall.close ∉ (requestStateTransfer env group_uuid group_seqno sst j).calls ∧
        unsafeCount (requestStateTransfer env group_uuid group_seqno sst j).calls = 0 ∧
        (requestStateTransfer env group_uuid group_seqno sst j).joiner.st.seqno = WSREP_SEQNO_UNDEFINED) ∨
      (r < 0 ∧ JoinerCall.close ∉ (requestStateTransfer env group_uuid group_seqno sst j).calls ∧
        unsafeCount (requestStateTransfer env group_uuid group_seqno sst j).calls = 0 ∧
        (requestStateTransfer env group_uuid group_seqno sst j).joiner.st =
          ⟨j.stateUuid, j.stateSeqno, j.safeToBootstrap⟩) := by
  simp only [requestStateTransfer, run_bind, JoinerM.bind]
  obtain ⟨hq1, hj1⟩ := prepareStateRequest_quiet env sst group_uuid group_seqno j
  generalize prepareStateRequest env sst group_uuid group_seqno j = o1 at hq1 hj1 ⊢
  rcases o1 with ⟨j1, cs1, req | s⟩
  · dsimp only at hq1 hj1 ⊢
    have hC : windowCloses env j j1.stateUuid j1.stateSeqno :=
      .inl (by rcases hj1 with rfl | rfl <;> exact ⟨rfl, rfl⟩)
    have hU : ∀ uuid, windowCloses env j uuid WSREP_SEQNO_UNDEFINED := fun _ => .inr (.inl rfl)
    -- building the request leaves the count at 0 and the window before its start
    have hk1 : ∀ b, MarkerKept b (windowCloses env j) 0 .before cs1 :=
      fun b => hq1.markerKept _ b le_rfl .before fun _ h => absurd h (by decide)
    have hw1 : windowAfter .before cs1 = .before := hq1.windowAfter_eq (by decide)
    generalize ht : sstIsTrivial sst sst.length = t
    generalize hb : (sst.length != 0 && !t) = b
    simp only [ite_run, run_call, run_pure, run_update, run_bind, JoinerM.bind]
    -- `mark_unsafe` opens the window for a real SST
    have hm : ∀ ys, MarkerKept b (windowCloses env j) 0 .before
        (cs1 ++ if b = true then JoinerCall.markUnsafe :: ys else ys) ↔
        MarkerKept b (windowCloses env j) (b.toNat : Int) (if b = true then .inside else .before) ys := by
      intro ys
      cases b <;> simp [markerKept_append, hk1, hq1.unsafeCount_eq, hw1, JoinerCall.unsafeDelta,
        JoinerCall.awaitsSst, JoinerCall.window]
    obtain ⟨hk2, hc2, hr2⟩ := sendStateRequest_marker (windowCloses env j) env req b
      { j1 with sstState := .wait } (if b = true then .inside else .before) hC (fun h => by simp [h])
    generalize sendStateRequest env req b { j1 with sstState := .wait } = o2 at hk2 hc2 hr2 ⊢
    rcases o2 with ⟨j2, cs2, ret | s⟩
    · dsimp only at hk2 hc2 hr2 ⊢
      by_cases hr : ret < 0
      · obtain ⟨-, hu2, hj2, hw2⟩ := (hr2 ret rfl).resolve_left (by omega)
        simp only [if_pos hr]
        obtain ⟨hq3, he3, hst3⟩ := closeIstReceiver_quiet j2
        generalize closeIstReceiver j2 = o3 at hq3 he3 hst3 ⊢
        rcases o3 with ⟨j3, cs3, _ | s⟩
        · dsimp only at hq3 hst3 ⊢
          have hk3 := hq3.markerKept (windowCloses env j) b le_rfl _
            fun hb hi => absurd ((hw2 hb).symm.trans hi) (by decide)
          simp only [apply_ite (@Outcome.calls Int), apply_ite (@Outcome.ends Int), ite_self,
            List.nil_append, List.append_nil, List.singleton_append]
          refine ⟨(hm _).2 ((markerKept_append _ _ _ _ _ _).2 ⟨hk2, by rwa [hu2, add_neg_cancel]⟩),
            fun r h => .inr (.inr ?_)⟩
          obtain rfl : ret = r := Ends.next.inj h
          rcases hj1 with rfl | rfl <;> subst hj2 <;> cases b <;>
            simp [hq1.unsafeCount_eq, hu2, hq3.unsafeCount_eq, hc2, hq3.close_not_mem,
              hq1.close_not_mem, hst3, JoinerCall.unsafeDelta, hr]
        · cases he3
      · obtain ⟨-, hu2, hj2, hw2⟩ := (hr2 ret rfl).resolve_right (by omega)
        subst hj2
        simp only [if_neg hr]
        by_cases hs : sst.length ≠ 0
        · simp only [if_pos hs]
          obtain ⟨hk4, hr4⟩ := awaitSst_marker (windowCloses env j) env req group_uuid group_seqno t b
            { j1 with sstState := .wait } (if b = true then .inside else .before)
            (fun _ st uuid seqno h => .inr (.inr ⟨st, h⟩)) hU
            (fun h => by rw [← hb, h]; simp) (fun h => by simp [h])
          generalize awaitSst env req group_uuid group_seqno t b { j1 with sstState := .wait } = o4
            at hk4 hr4 ⊢
          rcases o4 with ⟨j4, cs4, e4⟩
          dsimp only at hk4 hr4 ⊢
          simp only [apply_ite (@Outcome.calls Int), apply_ite (@Outcome.ends Int), ite_self,
            List.nil_append, List.append_nil, List.singleton_append]
          refine ⟨(hm _).2 ((markerKept_append _ _ _ _ _ _).2 ⟨hk2, ?_⟩), fun r h => ?_⟩
          · rw [hw2, hu2, add_zero]
            cases b <;> simpa [JoinerCall.unsafeDelta, JoinerCall.awaitsSst, JoinerCall.window]
              using hk4
          · cases b <;> simp only [Bool.toNat_false, Bool.toNat_true, Nat.cast_zero, Nat.cast_one,
              if_true, if_false, Bool.false_eq_true] at hr4 hu2 h ⊢ <;>
              rcases hr4 r h with ⟨rfl, hc, hu⟩ | ⟨rfl, hc, hu, hst⟩
            · exact .inl ⟨rfl, by simp [hc], by simp [hq1.unsafeCount_eq, hu2, hu, JoinerCall.unsafeDelta]⟩
            · exact .inr (.inl ⟨rfl, by simp [hc, hc2, hq1.close_not_mem], by simp [hq1.unsafeCount_eq, hu2, hu, JoinerCall.unsafeDelta], hst⟩)
            · exact .inl ⟨rfl, by simp [hc], by simp [hq1.unsafeCount_eq, hu2, JoinerCall.unsafeDelta]; omega⟩
            · exact .inr (.inl ⟨rfl, by simp [hc, hc2, hq1.close_not_mem], by simp [hq1.unsafeCount_eq, hu2, JoinerCall.unsafeDelta]; omega, hst⟩)
        · have hb0 : b = false := by
            rw [← hb, not_not.1 hs]
            rfl
          subst hb0
          simp only [if_neg hs]
          obtain ⟨rest, hcalls, hq4, hr4⟩ := finishTransfer_marker env req group_seqno false
            { j1 with sstState := .wait }
          simp only [Bool.false_eq_true, if_false, hcalls, List.nil_append]
          refine ⟨?_, fun r h => .inr (.inl ?_)⟩
          · simpa [hk1, hw1, markerKept_append, hq1.unsafeCount_eq, hu2, JoinerCall.unsafeDelta,
              JoinerCall.awaitsSst, hq4.markerKept _ false le_rfl _ (fun h => absurd h Bool.false_ne_true)]
              using hk2
          · obtain ⟨rfl, hst⟩ := hr4 r h
            exact ⟨rfl, by simp [hc2, hq1.close_not_mem, hq4.close_not_mem],
              by simp [hq1.unsafeCount_eq, hu2, hq4.unsafeCount_eq, JoinerCall.unsafeDelta], hst⟩
    · simp only [apply_ite (@Outcome.calls Int), apply_ite (@Outcome.ends Int), ite_self,
        List.nil_append, List.append_nil, List.singleton_append]
      exact ⟨(hm _).2 (by simpa using hk2), fun r h => by cases h⟩
  · simp [hq1.markerKept _ _ le_rfl .before fun _ h => absurd h (by decide)]

/-- A group layer that answers `-ECANCELED` while the node is closing, to a fresh joiner that asked
for the SST `xb`. -/
def closingEnv : JoinerEnv where
  strProtoVer := 1
  istPrepare := fun _ _ => .error EPERM
  strdupOk := true
  gcsAnswers := [(-ECANCELED, GCS_SEQNO_ILL)]
  wouldBlock := fun _ => false
  stateAtSendFailure := .closing
  sstWake := none
  stateAtIst := .joining
  istRecv := []
  istFinished := 0
  commitBypass := false

/-- A joiner with no position. -/
def freshJoiner : Joiner :=
  ⟨Uuid.nil, WSREP_SEQNO_UNDEFINED, true, false, .none, Uuid.nil, WSREP_SEQNO_UNDEFINED,
    ⟨Uuid.nil, WSREP_SEQNO_UNDEFINED, true⟩⟩

end GaleraStateTransfer
