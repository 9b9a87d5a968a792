import GaleraStateTransfer.GcommConn

/-!
# `error_`, the transport and `terminated_` over every schedule

Over every schedule of the gcomm backend: `error_`, once set, stays set until a `gcomm_open` returns
0, and until then nothing reaches `send_down` or `set_param` (`backend_error_sticky`). Before
`gcomm_destroy`, the transport's calls come in whole lifecycles, whether `gcomm_close`, an error
event on the gcomm thread, or both at once close it (`transport_lifecycles`). `terminated_` is never
cleared, so a thread a later `connect` creates leaves `run ()` at its first check of it: a reopened
connection never runs its event loop (`terminated_blocks_event_loop`).

Each is a property of one step, proved by a case analysis on `Backend.Moves` and carried over a
schedule by `Backend.exec_inv` or an induction on it.
-/

namespace GaleraStateTransfer

/-! ## `error_` is sticky -/

/-- How a call ends on a backend whose `error_` is set: `gcomm_send` returns `-ECONNABORTED` unless
restoring the caller's scheduling parameters throws, and `gcomm_param_set` returns `-ECONNABORTED`;
both return `-EBADFD` once `gcomm_destroy` has cleared `backend->conn`. -/
def AbortedResult : BackendOp → CallResult → Prop
  | .send env _ _, r => (env.schedparam = false ∨ env.restoreFails = none) →
    r = .ret (-ECONNABORTED) ∨ r = .ret (-EBADFD)
  | .paramSet .., r => r = .ret (-ECONNABORTED) ∨ r = .ret (-EBADFD)
  | _, _ => True

namespace Backend

variable {b b' : Backend}

/-- `handle_up` on a backend whose `error_` is set keeps it set, and neither sends nor sets a
parameter. -/
theorem handleUp_error_set {c : Option Nat} {dg : Bytes} {um : ProtoUpMeta}
    (h : b.handleUp c dg um = some b') (he : b.conn.error ≠ 0) :
    b'.conn.error ≠ 0 ∧ b'.sent = b.sent ∧ b'.params = b.params := by
  have herr : b'.conn.error ≠ 0 := by
    rcases handleUp_eq h with ⟨-, rfl⟩ | ⟨-, b1, -, rfl⟩ <;> simp only [handleUp_error] <;>
      split_ifs <;> assumption
  rcases handleUp_eq h with ⟨-, rfl⟩ | ⟨-, b1, h1, rfl⟩
  · exact ⟨herr, rfl, rfl⟩
  · rcases closeOn_eq h1 with ⟨-, rfl⟩ | ⟨-, j, -, rfl⟩ <;> exact ⟨herr, rfl, rfl⟩

/-- How a call returns on a backend whose `error_` is set. -/
theorem step_aborted {op : BackendOp} {v : CallResult} (he : b.conn.error ≠ 0)
    (h : b.step op = some (b', some v)) : AbortedResult op v := by
  cases op with
  | send env buf mt =>
    simp only [step] at h
    split_ifs at h <;> simp only [Option.some.injEq, Prod.mk.injEq] at h <;> obtain ⟨-, rfl⟩ := h
    · exact fun _ => .inr rfl
    · rintro (hs | hs) <;> exact .inl (by simp only [gcommSend, if_pos he, hs, Option.getD_none, ite_self]; rfl)
  | paramSet key value res =>
    simp only [step] at h
    split_ifs at h <;> simp only [Option.some.injEq, Prod.mk.injEq] at h <;> obtain ⟨-, rfl⟩ := h
    · exact .inr rfl
    · exact .inl (by simp only [gcommParamSet, if_pos he])
  | _ => trivial

/-- A step on a backend whose `error_` is set keeps it set, and reaches neither `send_down` nor
`set_param`, unless it is a `gcomm_open` that returns 0. -/
theorem step_error_set {op : BackendOp} {r : Option CallResult} (he : b.conn.error ≠ 0)
    (h : b.step op = some (b', r)) (hr : ∀ v, r = some v → ∀ bs env, op = .open bs env → v ≠ .ret 0) :
    (b'.conn.error ≠ 0 ∧ b'.sent = b.sent ∧ b'.params = b.params) ∧
      ∀ v, r = some v → AbortedResult op v := by
  refine ⟨?_, fun v hv => step_aborted he (hv ▸ h)⟩
  cases step_moves h with
  | connect bs env hc =>
    simp only [Backend.step, hc, Option.some.injEq, Prod.mk.injEq, true_and] at h
    cases hc' : (b.connect bs env).2 with
    | none => exact absurd (by simp [gcommOpen, hc']) (hr _ h.2.symm bs env rfl)
    | some e =>
      obtain ⟨hs, hp⟩ := @connect_sent_params b bs env
      refine ⟨?_, hs, hp⟩
      rcases connect_error_of_throws hc' with h1 | h1 <;> rw [h1]
      · decide
      · exact he
  | send _ _ _ he' => exact absurd he' he
  | paramSet _ _ _ he' => exact absurd he' he
  | up _ hu => exact handleUp_error_set hu he
  | fail _ hu => have h1 := handleUp_error_set hu he; exact h1
  | closeThrew _ _ _ _ _ hu => have h1 := handleUp_error_set hu he; exact h1
  | recv _ _ _ hg => exact ⟨(gcommRecv_keeps hg).2 ▸ he, rfl, rfl⟩
  | _ => exact ⟨he, rfl, rfl⟩

end Backend

/-- Once `error_` is set, it stays set over every schedule in which no `gcomm_open` returns 0, and
until then nothing reaches `send_down` or `set_param`: every `gcomm_send` returns `-ECONNABORTED`
unless restoring the caller's scheduling parameters throws, and every `gcomm_param_set`
`-ECONNABORTED`, or both `-EBADFD` once the backend is destroyed. -/
theorem backend_error_sticky {b b' : Backend} {ops : List BackendOp}
    {outs : List (BackendOp × CallResult)} (he : b.conn.error ≠ 0) (h : b.exec ops = some (b', outs))
    (hopen : ∀ bs env, (BackendOp.open bs env, CallResult.ret 0) ∉ outs) :
    b'.conn.error ≠ 0 ∧ b'.sent = b.sent ∧ b'.params = b.params ∧ ∀ x ∈ outs, AbortedResult x.1 x.2 := by
  obtain ⟨⟨h1, h2, h3⟩, h4⟩ := @Backend.exec_inv
    (fun b' => b'.conn.error ≠ 0 ∧ b'.sent = b.sent ∧ b'.params = b.params) (fun _ => True)
    (fun op v => ∀ bs env, op = .open bs env → v ≠ .ret 0) AbortedResult
    (fun hp _ hs hr => by
      obtain ⟨⟨he', hs', hp'⟩, hq⟩ := Backend.step_error_set hp.1 hs hr
      exact ⟨⟨he', hs'.trans hp.2.1, hp'.trans hp.2.2⟩, hq⟩)
    ops b b' outs ⟨he, rfl, rfl⟩ (fun _ _ => trivial) h
    (fun ⟨_, _⟩ hx bs env hop hv => hopen bs env (hop ▸ hv ▸ hx))
  exact ⟨h1, h2, h3, h4⟩

/-- A send, a parameter set and a close after such an open. -/
theorem backend_error_sticky_no_thread :
    ∃ b' outs, (Backend.new.connect false noThreadEnv).1.exec
        [.send ⟨false, 0, none⟩ [1] 0, .paramSet [] [] .set, .close] = some (b', outs) ∧
      (b'.conn.error ≠ 0 ∧ b'.sent = (Backend.new.connect false noThreadEnv).1.sent ∧
        b'.params = (Backend.new.connect false noThreadEnv).1.params ∧
        ∀ x ∈ outs, AbortedResult x.1 x.2) :=
  ⟨_, _, rfl, @backend_error_sticky _ _ [.send ⟨false, 0, none⟩ [1] 0, .paramSet [] [] .set, .close] _
    (by decide) rfl (by simp)⟩

/-! ## The transport's lifecycles -/

/-- Where the calls on the transport leave its life: no transport set, one created, one
connected. -/
inductive TpLife where
  | none
  | created
  | connected
  deriving DecidableEq, Repr

/-- The next call of a transport's life: `create` when none is set, then `connect`, then `close` or
`delete`; `none` for a call out of that order. -/
def TpLife.next : TpLife → TransportCall → Option TpLife
  | .none, .create => some .created
  | .created, .connect _ => some .connected
  | .created, .close _ | .connected, .close _ => some .none
  | .created, .delete | .connected, .delete => some .none
  | .created, .closeThrew _ _ => some .created
  | .connected, .closeThrew _ _ => some .connected
  | _, _ => Option.none

@[simp]
theorem TpLife.next_none_create : TpLife.next .none .create = some .created := rfl

@[simp]
theorem TpLife.next_created_connect (bs : Bool) : TpLife.next .created (.connect bs) = some .connected := rfl

@[simp]
theorem TpLife.next_connected_close (f : Bool) : TpLife.next .connected (.close f) = some .none := rfl

@[simp]
theorem TpLife.next_connected_closeThrew (f : Bool) (e : Int) :
    TpLife.next .connected (.closeThrew f e) = some .connected := rfl

/-- Where a sequence of calls leaves the transport's life, from no transport; `none` when a call
comes out of order. -/
def tpLife (calls : List TransportCall) : Option TpLife := calls.foldlM TpLife.next .none

theorem tpLife_append (l l' : List TransportCall) :
    tpLife (l ++ l') = (tpLife l).bind fun s => l'.foldlM TpLife.next s := by
  simp [tpLife, List.foldlM_append]

namespace Backend

variable {b b' : Backend}

/-- The transport's calls are whole lifecycles, the last one open exactly while `tp_` is set. -/
def LifeOk (b : Backend) : Prop := tpLife b.transport = some (if b.tp then .connected else .none)

/-- The end of `close ()` keeps the lifecycles whole. -/
theorem LifeOk.closeTransport (h : b.LifeOk) (force : Bool) : (b.closeTransport force).LifeOk := by
  unfold LifeOk at *
  cases ht : b.tp <;> simp_all [tpLife_append]

/-- `close (true)` on a gcomm thread keeps the lifecycles whole. -/
theorem LifeOk.closeOn (h : b.LifeOk) {c : Option Nat} (hc : b.closeOn c = some b') : b'.LifeOk := by
  rcases closeOn_eq hc with ⟨-, rfl⟩ | ⟨ht, j, -, rfl⟩
  · exact h
  · simpa [ht] using h.closeTransport true

/-- `connect` creates and connects a transport only when none is set. -/
theorem LifeOk.connect (h : b.LifeOk) (bs : Bool) (env : ConnectEnv) : (b.connect bs env).1.LifeOk := by
  unfold Backend.connect
  split_ifs with ht hn
  · exact h
  · exact h
  · split
    · exact h
    · have h' : tpLife (b.transport ++ [.create, .connect bs]) = some .connected := by
        simp_all [LifeOk, tpLife_append]
      split <;> exact h'

/-- `handle_up` on a gcomm thread keeps the lifecycles whole. -/
theorem LifeOk.handleUp (h : b.LifeOk) {c : Option Nat} {dg : Bytes} {um : ProtoUpMeta}
    (hu : b.handleUp c dg um = some b') : b'.LifeOk := by
  rcases handleUp_eq hu with ⟨-, rfl⟩ | ⟨-, b1, h1, rfl⟩
  exacts [h, show LifeOk b1 from h.closeOn h1]

/-- Every step but `gcomm_destroy` keeps the lifecycles whole. -/
theorem LifeOk.step (h : b.LifeOk) {op : BackendOp} {r : Option CallResult} (hd : op ≠ .destroy)
    (hs : b.step op = some (b', r)) : b'.LifeOk := by
  cases step_moves hs with
  | connect bs env _ => exact h.connect bs env
  | destroy _ => exact absurd rfl hd
  | closeEnd _ _ _ _ _ => simpa using h.closeTransport false
  | up _ hu => exact h.handleUp hu
  | fail _ hu => have h1 := h.handleUp hu; exact h1
  | closeThrew e j _ _ htp hu =>
    -- a close that threw leaves the transport connected, and `handle_up` closes it
    have h1 : LifeOk { b with joins := b.joins ++ [j],
                              transport := b.transport ++ [.closeThrew (b.conn.error != 0) e] } := by
      simp only [LifeOk, htp, if_true] at h
      simp [LifeOk, tpLife_append, h, htp]
    have h2 := h1.handleUp hu
    exact h2
  | _ => exact h

end Backend

/-- Before `gcomm_destroy`, the calls on the transport are whole lifecycles, in order, whatever
closes the backend (`gcomm_close`, an error event on a gcomm thread, or both at once): each
transport is created only when none is set, connected once, and closed once, and the last one is
open exactly while `tp_` is set. -/
theorem transport_lifecycles {ops : List BackendOp} {b : Backend}
    {outs : List (BackendOp × CallResult)} (hd : BackendOp.destroy ∉ ops)
    (h : Backend.new.exec ops = some (b, outs)) :
    tpLife b.transport = some (if b.tp then .connected else .none) :=
  (@Backend.exec_inv Backend.LifeOk (· ≠ .destroy) (fun _ _ => True) (fun _ _ => True)
    (fun hp hd hs _ => ⟨hp.step hd hs, fun _ _ => trivial⟩) ops Backend.new b outs rfl
    (fun _ ho he => hd (he ▸ ho)) h (fun _ _ => trivial)).1

/-- An open, the gcomm thread's error event racing the application's close: the close has passed
`terminate ()` when the thread closes the transport, and the close then finds `tp_` null. -/
theorem transport_lifecycles_race :
    ∃ b outs, Backend.new.exec [.open false okEnv, .run 0, .run 0, .close, .event 0 (.fail ECONNABORTED),
        .resume none, .open true okEnv] = some (b, outs) ∧
      BackendOp.destroy ∉ [BackendOp.open false okEnv, .run 0, .run 0, .close,
        .event 0 (.fail ECONNABORTED), .resume none, .open true okEnv] ∧
      tpLife b.transport = some (if b.tp then .connected else .none) :=
  ⟨_, _, rfl, by simp, @transport_lifecycles [.open false okEnv, .run 0, .run 0, .close,
    .event 0 (.fail ECONNABORTED), .resume none, .open true okEnv] _ _ (by simp) rfl⟩

/-! ## `terminated_` is never cleared -/

namespace Backend

variable {b b' : Backend}

/-- With `terminated_` set, a step keeps it set, creates threads only at their first statement,
and moves no thread created from `n` on into `event_loop`. -/
theorem step_terminated {n : Nat} {op : BackendOp} {r : Option CallResult}
    (h : b.terminated = true ∧ n ≤ b.threads.length ∧ ∀ t, n ≤ t → b.threadAt t ≠ .events)
    (hs : b.step op = some (b', r)) :
    b'.terminated = true ∧ n ≤ b'.threads.length ∧ ∀ t, n ≤ t → b'.threadAt t ≠ .events := by
  obtain ⟨ht, hn, hev⟩ := h
  -- a thread below `n`, or one that does not enter `event_loop`, may move
  have hmove : ∀ {b'' : Backend} {i : Nat} {pc : RunPc}, b''.terminated = true →
      b''.threads = b.threads → (i < n ∨ pc ≠ .events) → (b''.setThread i pc).terminated = true ∧
        n ≤ (b''.setThread i pc).threads.length ∧
        ∀ t, n ≤ t → (b''.setThread i pc).threadAt t ≠ .events := by
    intro b'' i pc h1 h2 hi
    refine ⟨h1, by simpa [h2] using hn, fun t ht' => ?_⟩
    have hold : b''.threadAt t ≠ .events := by rw [threadAt, h2]; exact hev t ht'
    rcases hi with hi | hi
    · rw [threadAt_setThread_ne _ (by omega)]
      exact hold
    · rcases threadAt_setThread (b := b'') i t pc with h3 | h3 <;> rw [h3]
      exacts [hi, hold]
  -- `handle_up` moves no thread and keeps `terminated_` set
  have hup : ∀ {b1 b'' : Backend} {c dg um}, b1.handleUp c dg um = some b'' →
      b1.terminated = true → b1.threads = b.threads → b''.terminated = true ∧ b''.threads = b.threads := by
    intro b1 b'' c dg um hu h1 h2
    rcases handleUp_eq hu with ⟨-, rfl⟩ | ⟨-, b2, h3, rfl⟩
    · exact ⟨h1, h2⟩
    · rcases closeOn_eq h3 with ⟨-, rfl⟩ | ⟨-, j, -, rfl⟩ <;> exact ⟨by simp [h1], h2⟩
  cases step_moves hs with
  | connect bs env _ =>
    obtain ⟨ht', -, -, ⟨hth, -⟩ | ⟨hth, -⟩⟩ := @connect_threads b bs env
    · exact ⟨ht' ▸ ht, by rw [hth]; exact hn, fun t h' => by rw [threadAt, hth]; exact hev t h'⟩
    · refine ⟨ht' ▸ ht, by simp [hth]; omega, fun t h' => ?_⟩
      rw [threadAt, hth, getD_append_check]
      split_ifs
      · decide
      · exact hev t h'
  | check i _ => exact hmove ht rfl (.inr (by split_ifs <;> decide))
  | loop i _ => exact hmove ht rfl (.inr (by simp [ht]))
  | up _ hu =>
    obtain ⟨h3, h4⟩ := hup hu ht rfl
    exact ⟨h3, by rw [h4]; exact hn, fun t ht' => by rw [threadAt, h4]; exact hev t ht'⟩
  | closeThrew _ _ _ _ _ hu =>
    obtain ⟨h3, h4⟩ := hup hu ht rfl
    exact ⟨h3, by rw [h4]; exact hn, fun t ht' => by rw [threadAt, h4]; exact hev t ht'⟩
  | done i hi => exact hmove ht rfl (.inl (Nat.lt_of_not_le fun hn' => hev i hn' hi))
  | fail _ hu => exact hmove (hup hu ht rfl).1 (hup hu ht rfl).2 (.inr (by decide))
  | _ => exact ⟨by simp [ht], hn, hev⟩

end Backend

/-- Once `terminated_` is set, by `gcomm_close`, by an error event or by `~GCommConn`, no schedule
clears it, and no thread that a later `gcomm_open` creates ever enters `event_loop`: it returns from
`run ()` at its first check of `terminated_`, even when `gcomm_open` returned 0. -/
theorem terminated_blocks_event_loop {b b' : Backend} {ops : List BackendOp}
    {outs : List (BackendOp × CallResult)} (ht : b.terminated = true) (h : b.exec ops = some (b', outs)) :
    b'.terminated = true ∧ ∀ t, b.threads.length ≤ t → b'.threadAt t ≠ .events := by
  obtain ⟨⟨h1, -, h3⟩, -⟩ := @Backend.exec_inv
    (fun b' => b'.terminated = true ∧ b.threads.length ≤ b'.threads.length ∧
      ∀ t, b.threads.length ≤ t → b'.threadAt t ≠ .events)
    (fun _ => True) (fun _ _ => True) (fun _ _ => True)
    (fun hp _ hs _ => ⟨Backend.step_terminated hp hs, fun _ _ => trivial⟩) ops b b' outs
    ⟨ht, le_rfl, fun t ht' => by simp [Backend.threadAt, List.getElem?_eq_none ht']⟩
    (fun _ _ => trivial) h (fun _ _ => trivial)
  exact ⟨h1, h3⟩

/-- A backend opened and closed by the application. -/
def closedOnce : Backend :=
  ⟨{ freshConn with error := 0 }, false, true, [.exited], some 0, .idle,
    [.create, .connect false, .close false], [.thread 0], [], []⟩

/-- Opened again, successfully: its new thread leaves `run ()` at its first check of
`terminated_`. -/
theorem terminated_blocks_event_loop_reopen :
    ∃ b' outs, closedOnce.exec [.open false okEnv, .run 1, .run 1] = some (b', outs) ∧
      (b'.terminated = true ∧ ∀ t, closedOnce.threads.length ≤ t → b'.threadAt t ≠ .events) :=
  ⟨_, _, rfl, @terminated_blocks_event_loop closedOnce _ [.open false okEnv, .run 1, .run 1] _ rfl rfl⟩

end GaleraStateTransfer
