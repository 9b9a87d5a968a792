import GaleraStateTransfer.GcommConn

/-!
# The joins of the gcomm thread

`Backend.Inv` is what every backend reachable from `gcs_gcomm_create`'s satisfies: which thread
`thd_` names, which threads were joined, and how `tp_`, `terminated_` and `error_` constrain where
the threads stand. A join on a `thd_` that no thread creation set, or on a thread that an earlier
join reaped, is undefined and takes no step. From the invariant: `~GCommConn` reaches a join on an
unset `thd_` exactly when no `connect` created its thread (`destroy_joins_unset_thread`); a gcomm
thread that closes the backend on an error event while the control thread is idle is never joined
(`error_thread_never_joined`); when the transport's close throws in `gcomm_close`, the handler's
`handle_up` joins the thread `close ()` has just reaped a second time (`close_throw_joins_twice`).
Up to those undefined joins, the joins of `close ()` and `~GCommConn` never wait for ever: once
`terminated_` is set, the thread `thd_` names leaves `run ()` within two steps of its own
(`join_returns`).
-/

namespace GaleraStateTransfer

/-! ## What every reachable backend satisfies -/

namespace Backend

variable {b b' : Backend}

/-- What holds of every backend that a schedule reaches from the one `gcs_gcomm_create` sets up. -/
structure Inv (b : Backend) : Prop where
  /-- `thd_` names the last thread created, and keeps its first value until one is. -/
  thd : b.thd = if b.threads.length = 0 then none else some (b.threads.length - 1)
  /-- A thread joined by another exists and has returned from `run ()`. -/
  joined : ∀ t, JoinCall.thread t ∈ b.joins → t < b.threads.length ∧ b.threadAt t = .exited
  /-- Until `terminated_` is set, a thread past its check of `error_` runs with a transport set. -/
  running : b.terminated = false → ∀ t, b.threadAt t = .loop ∨ b.threadAt t = .events → b.tp = true
  /-- Until `terminated_` is set, once a thread is created `error_` is 0 only after a `connect`
  that succeeded. -/
  cleared : b.terminated = false → b.conn.error = 0 → 0 < b.threads.length → b.tp = true
  /-- The control thread waits in a join only after `terminate ()`. -/
  waits : b.control = .closing ∨ b.control = .destroying → b.terminated = true
  /-- A transport is set only after a thread was created. -/
  tp_threads : b.tp = true → 0 < b.threads.length
  /-- `terminated_` is set only after a thread was created, or by `~GCommConn`. -/
  terminated : b.terminated = true → 0 < b.threads.length ∨ b.control.detached = true

/-- The backend `gcs_gcomm_create` sets up satisfies the invariant. -/
theorem Inv.new : Inv Backend.new where
  thd := rfl
  joined := by simp [Backend.new]
  running := by simp [Backend.new, threadAt]
  cleared := by simp [Backend.new]
  waits := by simp [Backend.new]
  tp_threads := by simp [Backend.new]
  terminated := by simp [Backend.new]

/-- The invariant reads only `error_`, `tp_`, `terminated_`, the threads, `thd_`, the control
thread and the joins. -/
theorem Inv.congr (h : Inv b) (he : b'.conn.error = b.conn.error) (htp : b'.tp = b.tp)
    (ht : b'.terminated = b.terminated) (hth : b'.threads = b.threads) (hthd : b'.thd = b.thd)
    (hc : b'.control = b.control) (hj : b'.joins = b.joins) : Inv b' := by
  obtain ⟨h1, h2, h3, h4, h5, h6, h7⟩ := h
  exact ⟨by rwa [hthd, hth], by simpa only [threadAt, hj, hth] using h2,
    by simpa only [threadAt, ht, hth, htp] using h3, by simpa only [he, ht, hth, htp] using h4,
    by simpa only [hc, ht] using h5, by simpa only [htp, hth] using h6,
    by simpa only [ht, hth, hc] using h7⟩

/-- No thread runs past its check of `error_` while `terminated_` is clear and no transport is
set. -/
theorem Inv.not_running (h : Inv b) (htp : b.tp = false) (ht : b.terminated = false) (t : Nat) :
    b.threadAt t ≠ .loop ∧ b.threadAt t ≠ .events := by
  constructor <;> intro h' <;> simpa [htp] using h.running ht t (by simp [h'])

/-- `connect` from the idle control thread keeps the invariant. -/
theorem Inv.connect (h : Inv b) (bs : Bool) (env : ConnectEnv) :
    Inv (b.connect bs env).1 := by
  unfold Backend.connect
  split_ifs with htp hn
  · exact h
  · -- no thread is created: `error_` becomes `ENOTCONN`
    exact ⟨h.thd, h.joined, h.running, fun _ he => by simp [ENOTCONN] at he, h.waits, h.tp_threads,
      h.terminated⟩
  · -- a thread is created, at its check of `error_`; no thread ran before, as no transport was set
    have hnot := h.not_running (by simpa using htp)
    have key : ∀ b' : Backend, b'.threads = b.threads ++ [.check] → b'.thd = some b.threads.length →
        b'.terminated = b.terminated → b'.control = b.control → b'.joins = b.joins →
        (b'.conn.error = 0 → b'.tp = true) → Inv b' := by
      intro b' hth hthd ht hc' hj hcl
      refine ⟨by simp [hth, hthd], fun t hjt => ?_, fun ht' t hrun => ?_, fun _ he _ => hcl he,
        by rw [hc', ht]; exact h.waits, fun _ => by simp [hth], fun _ => .inl (by simp [hth])⟩
      · obtain ⟨h1, h2⟩ := h.joined t (hj ▸ hjt)
        refine ⟨by simp only [hth, List.length_append, List.length_singleton]; omega, ?_⟩
        rwa [threadAt, hth, List.getElem?_append_left h1]
      · rw [threadAt, hth, getD_append_check] at hrun
        split_ifs at hrun
        · simp at hrun
        · have := hnot (ht ▸ ht') t
          exact (hrun.elim this.1 this.2).elim
    cases env.beforeTp with
    | some e => exact key _ rfl rfl rfl rfl rfl fun he => by simp [ENOTCONN] at he
    | none =>
      cases env.connectFails with
      | some e => exact key _ rfl rfl rfl rfl rfl fun _ => rfl
      | none => exact key _ rfl rfl rfl rfl rfl fun _ => rfl

/-- A join that returns records the last thread created, which has returned from `run ()`, or the
caller itself; so `thd_` is set, and a thread was created. -/
theorem Inv.joinsAs (h : Inv b) {c : Option Nat} {j : JoinCall} (hj : b.JoinsAs c j) :
    0 < b.threads.length ∧ ∀ t, j = .thread t → t < b.threads.length ∧ b.threadAt t = .exited := by
  obtain ⟨t, ht, hj⟩ := hj
  have hne : 0 < b.threads.length := by
    by_contra hz
    simp [h.thd, Nat.eq_zero_of_not_pos hz] at ht
  have hthd : b.thd = some (b.threads.length - 1) := by simp [h.thd, hne.ne']
  refine ⟨hne, fun t' ht' => ?_⟩
  rcases hj with ⟨-, rfl⟩ | ⟨-, -, hx, rfl⟩
  · cases ht'
  · rw [hthd, Option.some.injEq] at ht
    cases ht'
    exact ⟨by omega, hx⟩

/-- A join that returns keeps the invariant, whatever else the step changes that the invariant
allows. -/
theorem Inv.addJoin (h : Inv b) {c : Option Nat} {j : JoinCall} (hj : b.JoinsAs c j) :
    Inv { b with joins := b.joins ++ [j] } := by
  refine { h with joined := fun t ht => ?_ }
  rcases List.mem_append.1 ht with ht | ht
  · exact h.joined t ht
  · exact (h.joinsAs hj).2 t (List.mem_singleton.1 ht).symm

/-- A new receive side keeps the invariant when it keeps `error_` or sets it. -/
theorem Inv.setConn (h : Inv b) {c : GCommConn} (hc : c.error = b.conn.error ∨ c.error ≠ 0) :
    Inv { b with conn := c } := by
  have hcl : b.terminated = false → c.error = 0 → 0 < b.threads.length → b.tp = true := by
    intro ht he hn
    rcases hc with hc | hc
    · exact h.cleared ht (hc ▸ he) hn
    · exact absurd he hc
  exact { h with cleared := hcl }

@[simp]
theorem setThread_eq (i : Nat) (pc : RunPc) : b.setThread i pc = { b with threads := b.threads.set i pc } :=
  rfl

@[simp]
theorem terminate_eq : b.terminate = { b with terminated := true } := rfl

/-- Once `terminated_` is set, the invariant asks only about `thd_`, the joins, the transport and
whether a thread was created. -/
theorem Inv.of_terminated (ht : b.terminated = true)
    (hthd : b.thd = if b.threads.length = 0 then none else some (b.threads.length - 1))
    (hj : ∀ t, JoinCall.thread t ∈ b.joins → t < b.threads.length ∧ b.threadAt t = .exited)
    (htp : b.tp = true → 0 < b.threads.length)
    (hterm : 0 < b.threads.length ∨ b.control.detached = true) : Inv b :=
  ⟨hthd, hj, fun h => absurd ht (by simp [h]), fun h => absurd ht (by simp [h]), fun _ => ht, htp,
    fun _ => hterm⟩

/-- A thread that has not returned moving on keeps the invariant, when it moves past its check of
`error_` only with a transport set or `terminated_` set. -/
theorem Inv.setThread (h : Inv b) {i : Nat} {pc : RunPc} (hi : b.threadAt i ≠ .exited)
    (hrun : b.terminated = false → (pc = .loop ∨ pc = .events) → b.tp = true) :
    Inv (b.setThread i pc) := by
  have hlt := lt_of_threadAt_ne hi
  have hjoined : ∀ t, JoinCall.thread t ∈ b.joins →
      t < b.threads.length ∧ (b.setThread i pc).threadAt t = .exited := by
    intro t ht
    obtain ⟨h1, h2⟩ := h.joined t ht
    have hit : i ≠ t := fun hit => hi (hit ▸ h2)
    exact ⟨h1, by rw [threadAt_setThread_ne _ hit]; exact h2⟩
  have hrunning : b.terminated = false → ∀ t, (b.setThread i pc).threadAt t = .loop ∨
      (b.setThread i pc).threadAt t = .events → b.tp = true := by
    intro ht t hr
    rcases eq_or_ne i t with rfl | hit
    · rw [threadAt_setThread_self _ hlt] at hr
      exact hrun ht hr
    · rw [threadAt_setThread_ne _ hit] at hr
      exact h.running ht t hr
  exact ⟨by simpa using h.thd, by simpa using hjoined, by simpa using hrunning, by simpa using h.cleared,
    h.waits, by simpa using h.tp_threads, by simpa using h.terminated⟩

/-- `close (true)` keeps the invariant. -/
theorem Inv.closeOn (h : Inv b) {c : Option Nat} (hc : b.closeOn c = some b') : Inv b' := by
  rcases closeOn_eq hc with ⟨-, rfl⟩ | ⟨-, j, hj, rfl⟩
  · exact h
  · have h1 := h.addJoin hj
    exact ⟨h1.thd, h1.joined, fun ht => absurd ht (by simp), fun ht => absurd ht (by simp),
      fun _ => rfl, fun ht => absurd ht (by simp), fun _ => .inl (h.joinsAs hj).1⟩

/-- `close (true)` on a gcomm thread in `event_loop` leaves `terminated_` set: a thread runs its
event loop only with a transport set, or with `terminated_` set already. -/
theorem Inv.closeOn_terminated (h : Inv b) {i : Nat} (hi : b.threadAt i = .events)
    (hc : b.closeOn (some i) = some b') : b'.terminated = true := by
  rcases closeOn_eq hc with ⟨htp, rfl⟩ | ⟨-, j, -, rfl⟩
  · by_contra ht
    simpa [htp] using h.running (by simpa using ht) i (.inr hi)
  · rfl

/-- `handle_up` keeps the invariant. -/
theorem Inv.handleUp (h : Inv b) {c : Option Nat} {dg : Bytes} {um : ProtoUpMeta}
    (hu : b.handleUp c dg um = some b') : Inv b' := by
  rcases handleUp_eq hu with ⟨he, rfl⟩ | ⟨he, b1, h1, rfl⟩
  · exact h.setConn (.inl (by simp [handleUp_error, he]))
  · exact (h.closeOn h1).setConn (.inr (by simp [handleUp_error, he]))

/-- The control thread leaving `close ()` keeps the invariant. -/
theorem Inv.closeDone (h : Inv b) (hc : b.control = .closing) : Inv { b with control := .idle } :=
  ⟨h.thd, h.joined, h.running, h.cleared, by simp, h.tp_threads,
    fun ht => by simpa [hc, Control.detached] using h.terminated ht⟩

/-- Every step keeps the invariant. -/
theorem Inv.step (h : Inv b) {op : BackendOp} {r : Option CallResult}
    (hs : b.step op = some (b', r)) : Inv b' := by
  cases step_moves hs with
  | same => exact h
  | connect bs env _ => exact h.connect bs env
  | close hc htp => exact Inv.of_terminated rfl h.thd h.joined h.tp_threads (.inl (h.tp_threads htp))
  | destroy hc =>
    -- `~GCommConn` sets `terminated_` and joins nothing yet
    exact Inv.of_terminated rfl h.thd h.joined h.tp_threads (.inr (by split <;> rfl))
  | closeEnd _ j hc hj _ =>
    -- the end of `close ()`
    have h1 := h.addJoin hj
    exact Inv.of_terminated (h.waits (.inl hc)) h1.thd h1.joined (by simp) (.inl (h.joinsAs hj).1)
  | destroyEnd _ j hc hj =>
    -- the end of `~GCommConn`
    have h1 := h.addJoin hj
    exact Inv.of_terminated (h.waits (.inr hc)) h1.thd h1.joined h1.tp_threads (.inr rfl)
  | send => exact h.congr rfl rfl rfl rfl rfl rfl rfl
  | paramSet => exact h.congr rfl rfl rfl rfl rfl rfl rfl
  | recv _ _ _ hg => exact h.congr (gcommRecv_keeps hg).2 rfl rfl rfl rfl rfl rfl
  | check i hi =>
    have hi' : b.threadAt i ≠ .exited := by simp [hi]
    exact h.setThread hi' fun ht hpc => by
      split_ifs at hpc with he
      · simp at hpc
      · exact h.cleared ht (by simpa using he) (Nat.zero_lt_of_lt (lt_of_threadAt_ne hi'))
  | loop i hi => exact h.setThread (by simp [hi]) fun ht _ => h.running ht i (.inl hi)
  | up _ hu => exact h.handleUp hu
  | done i hi => exact h.setThread (by simp [hi]) fun ht _ => h.running ht i (.inr hi)
  | @fail i e b1 hi hu =>
    have hi2 : b1.threadAt i ≠ .exited := by
      rw [threadAt, (handleUp_threads hu).1, ← threadAt, hi]
      decide
    exact (h.handleUp hu).setThread hi2 fun _ hpc => by simp at hpc
  | closeThrew e j hc hj _ hu =>
    -- `gcomm_close`'s handler, after the join of `close ()`
    have h1 : Inv { b with joins := b.joins ++ [j],
                           transport := b.transport ++ [.closeThrew (b.conn.error != 0) e] } :=
      (h.addJoin hj).congr rfl rfl rfl rfl rfl rfl rfl
    exact (h1.handleUp hu).closeDone (by rw [(handleUp_threads hu).2.2]; exact hc)

/-- Every backend a schedule reaches from `gcs_gcomm_create`'s satisfies the invariant. -/
theorem Inv.exec {ops : List BackendOp} {outs : List (BackendOp × CallResult)}
    (h : Backend.new.exec ops = some (b, outs)) : Inv b :=
  (@exec_inv Inv (fun _ => True) (fun _ _ => True) (fun _ _ => True)
    (fun hp _ hs _ => ⟨hp.step hs, fun _ _ => trivial⟩) ops Backend.new b outs Inv.new
    (fun _ _ => trivial) h (fun _ _ => trivial)).1

end Backend

/-! ## Joins -/

/-- `~GCommConn` reaches its `pthread_join` on a `thd_` that no thread creation set exactly when
`gcomm_destroy` runs on a backend where no `gcomm_open` created a thread, and nothing past that join
is defined. On every backend a schedule reaches from `gcs_gcomm_create`'s, a control thread waiting
in `~GCommConn` has `thd_` unset exactly when no thread was created; `gcomm_destroy` on an idle
backend with no thread always gets there, since nothing set `terminated_`; and with `thd_` unset
the join's return is no step. -/
theorem destroy_joins_unset_thread {ops : List BackendOp} {b : Backend}
    {outs : List (BackendOp × CallResult)} (h : Backend.new.exec ops = some (b, outs)) :
    (b.control = .destroying → (b.thd = none ↔ b.threads = [])) ∧
    (b.control = .idle → b.threads = [] → ∃ b', b.step .destroy = some (b', none) ∧
      b'.control = .destroying ∧ b'.thd = none) ∧
    (b.thd = none → ∀ f, b.step (.resume f) = none) := by
  have hi := Backend.Inv.exec h
  have hthd : b.thd = none ↔ b.threads = [] := by
    rw [hi.thd, ← List.length_eq_zero]
    split <;> simp_all
  refine ⟨fun _ => hthd, fun hc hz => ?_, fun hn f => ?_⟩
  · -- without a thread, neither `terminated_` nor `tp_` is set
    have ht : b.terminated = false := by
      cases ht : b.terminated
      · rfl
      · simpa [hz, hc, Control.detached] using hi.terminated ht
    have htp : b.tp = false := by
      cases htp : b.tp
      · rfl
      · simpa [hz] using hi.tp_threads htp
    exact ⟨{ b with terminated := true, control := .destroying },
      by simp [Backend.step, hc, ht, htp], rfl, hthd.2 hz⟩
  · cases hc : b.control <;> simp [Backend.step, Backend.joinThd, hc, hn]

/-- `gcomm_destroy` after a `gcomm_open` that failed to create its thread. -/
theorem destroy_joins_unset_thread_no_thread :
    ∃ b outs, Backend.new.exec [.open false noThreadEnv, .destroy] = some (b, outs) ∧
      b.control = .destroying ∧
      ((b.control = .destroying → (b.thd = none ↔ b.threads = [])) ∧
        (b.control = .idle → b.threads = [] → ∃ b', b.step .destroy = some (b', none) ∧
          b'.control = .destroying ∧ b'.thd = none) ∧
        (b.thd = none → ∀ f, b.step (.resume f) = none)) :=
  ⟨_, _, rfl, rfl, @destroy_joins_unset_thread [.open false noThreadEnv, .destroy] _ _ rfl⟩

namespace Backend

variable {b b' : Backend}

/-- A join that returns records thread `i` only when `thd_` names it and the caller is another
thread. -/
theorem JoinsAs.ne_thread {c : Option Nat} {j : JoinCall} {i : Nat} (hj : b.JoinsAs c j)
    (hi : b.thd ≠ some i ∨ c = some i) : j ≠ .thread i := by
  rintro rfl
  obtain ⟨t, ht, ⟨-, hj⟩ | ⟨hc, -, -, hj⟩⟩ := hj
  · cases hj
  · cases hj
    rcases hi with hi | hi
    · exact hi ht
    · exact hc hi

/-- What keeps thread `i`, which closed the backend on an error event, from ever being joined:
`terminated_` is set, and `thd_` names another thread whenever a transport is set or the control
thread waits in `close ()`, while `~GCommConn` never waits for a thread. -/
structure NoJoin (i : Nat) (b : Backend) : Prop where
  not_joined : JoinCall.thread i ∉ b.joins
  terminated : b.terminated = true
  lt : i < b.threads.length
  tp : b.tp = true → b.thd ≠ some i
  closing : b.control = .closing → b.thd ≠ some i
  destroying : b.control ≠ .destroying

/-- The control thread's join and `close (true)` on a gcomm thread leave thread `i` unjoined. -/
theorem NoJoin.addJoin {i : Nat} (h : NoJoin i b) {c : Option Nat} {j : JoinCall} (hj : b.JoinsAs c j)
    (hi : b.thd ≠ some i ∨ c = some i) : JoinCall.thread i ∉ b.joins ++ [j] := by
  simpa [h.not_joined] using (hj.ne_thread hi).symm

/-- Whether thread `i` is kept unjoined reads only the joins, `terminated_`, how many threads were
created, `tp_`, `thd_` and the control thread. -/
theorem NoJoin.congr {i : Nat} (h : NoJoin i b) (hj : b'.joins = b.joins)
    (ht : b'.terminated = b.terminated) (hl : b'.threads.length = b.threads.length)
    (htp : b'.tp = b.tp) (hthd : b'.thd = b.thd) (hc : b'.control = b.control) : NoJoin i b' :=
  ⟨hj ▸ h.not_joined, ht ▸ h.terminated, hl ▸ h.lt, htp ▸ hthd ▸ h.tp, hc ▸ hthd ▸ h.closing,
    hc ▸ h.destroying⟩

/-- `handle_up` on any thread keeps thread `i` unjoined: its `close (true)` joins only with a
transport set, when `thd_` names another thread. -/
theorem NoJoin.handleUp {i : Nat} (h : NoJoin i b) {c : Option Nat} {dg : Bytes} {um : ProtoUpMeta}
    (hu : b.handleUp c dg um = some b') : NoJoin i b' := by
  rcases handleUp_eq hu with ⟨-, rfl⟩ | ⟨-, b2, h2, rfl⟩
  · exact h.congr rfl rfl rfl rfl rfl rfl
  · rcases closeOn_eq h2 with ⟨-, rfl⟩ | ⟨htp, j, hj, rfl⟩
    · exact h.congr rfl rfl rfl rfl rfl rfl
    · exact ⟨h.addJoin hj (.inl (h.tp htp)), rfl, h.lt, by simp, h.closing, h.destroying⟩

/-- Every step keeps thread `i` unjoined. -/
theorem NoJoin.step {i : Nat} (h : NoJoin i b) {op : BackendOp} {r : Option CallResult}
    (hs : b.step op = some (b', r)) : NoJoin i b' := by
  cases step_moves hs with
  | connect bs env _ =>
    obtain ⟨ht, hc, hj, ⟨hth, hthd, htp⟩ | ⟨hth, hthd⟩⟩ := @connect_threads b bs env
    · exact h.congr hj ht (by rw [hth]) htp hthd hc
    · have hne : (b.connect bs env).1.thd ≠ some i := by simp [hthd, h.lt.ne']
      exact ⟨hj ▸ h.not_joined, ht ▸ h.terminated, by simpa [hth] using Nat.lt_succ_of_lt h.lt,
        fun _ => hne, fun _ => hne, hc ▸ h.destroying⟩
  | close _ htp => exact ⟨h.not_joined, rfl, h.lt, h.tp, fun _ => h.tp htp, by simp⟩
  | destroy _ => exact ⟨h.not_joined, rfl, h.lt, h.tp, by simp [h.terminated], by simp [h.terminated]⟩
  | closeEnd _ j hc hj _ =>
    exact ⟨h.addJoin hj (.inl (h.closing hc)), h.terminated, h.lt, by simp, by simp, by simp⟩
  | destroyEnd _ _ hc _ => exact absurd hc h.destroying
  | up _ hu => exact h.handleUp hu
  | fail _ hu => exact (h.handleUp hu).congr rfl rfl (by simp) rfl rfl rfl
  | closeThrew e j hc hj _ hu =>
    have h1 : NoJoin i { b with joins := b.joins ++ [j],
                                transport := b.transport ++ [.closeThrew (b.conn.error != 0) e] } :=
      ⟨h.addJoin hj (.inl (h.closing hc)), h.terminated, h.lt, h.tp, h.closing, h.destroying⟩
    have h2 := h1.handleUp hu
    exact ⟨h2.not_joined, h2.terminated, h2.lt, h2.tp, by simp, by simp⟩
  | check | loop | done => exact h.congr rfl rfl (by simp) rfl rfl rfl
  | _ => exact h.congr rfl rfl rfl rfl rfl rfl

/-- An error event handled by thread `i` in `event_loop` while the control thread is idle closes
the backend from that thread: from then on, thread `i` is kept unjoined. -/
theorem NoJoin.of_error (h : Inv b) (hc : b.control = .idle) {i : Nat} {ev : LoopEvent}
    (he : ev.errNo ≠ 0) (hs : b.eventStep i ev = some b') : NoJoin i b' := by
  unfold eventStep at hs
  split_ifs at hs with hi
  have hnj : JoinCall.thread i ∉ b.joins := fun hj => by simp [(h.joined i hj).2] at hi
  have hlt : i < b.threads.length := lt_of_threadAt_ne (by simp [hi])
  have herr : ∀ {dg um b''}, um.errNo ≠ 0 → b.handleUp (some i) dg um = some b'' → NoJoin i b'' := by
    intro dg um b'' hum hu
    rcases handleUp_eq hu with ⟨he', -⟩ | ⟨-, b2, h2, rfl⟩
    · exact absurd he' hum
    have ht := h.closeOn_terminated hi h2
    rcases closeOn_eq h2 with ⟨htp, rfl⟩ | ⟨-, j, hj, rfl⟩
    · exact ⟨hnj, ht, hlt, by simp [htp], by simp [hc], by simp [hc]⟩
    · exact ⟨by simpa [hnj] using (hj.ne_thread (.inr rfl)).symm, rfl, hlt, by simp, by simp [hc],
        by simp [hc]⟩
  cases ev with
  | up dg um => exact herr he hs
  | done => exact absurd rfl he
  | fail e =>
    obtain ⟨b2, h2, rfl⟩ := Option.map_eq_some'.1 hs
    have h3 := herr he h2
    exact ⟨h3.not_joined, h3.terminated, by simpa using h3.lt, h3.tp, h3.closing, h3.destroying⟩

end Backend

/-- A gcomm thread that closes the backend on an error event (one that `event_loop` hands to
`handle_up`, or an exception out of it) while the control thread is idle is never joined: its
`close (true)` joins only itself, `gcomm_close` then finds `tp_` null and returns, and
`~GCommConn` finds `terminated_` set and joins nothing, whatever the schedule after it. -/
theorem error_thread_never_joined {pre ops : List BackendOp} {b b1 b2 : Backend}
    {outs outs' : List (BackendOp × CallResult)} {i : Nat} {ev : LoopEvent}
    (hb : Backend.new.exec pre = some (b, outs)) (hc : b.control = .idle) (he : ev.errNo ≠ 0)
    (h1 : b.step (.event i ev) = some (b1, none)) (h2 : b1.exec ops = some (b2, outs')) :
    JoinCall.thread i ∉ b2.joins := by
  obtain ⟨b3, h3, h4⟩ := Option.map_eq_some'.1 h1
  cases h4
  exact (@Backend.exec_inv (Backend.NoJoin i) (fun _ => True) (fun _ _ => True) (fun _ _ => True)
    (fun hp _ hs _ => ⟨hp.step hs, fun _ _ => trivial⟩) ops _ b2 outs'
    (Backend.NoJoin.of_error (Backend.Inv.exec hb) hc he h3) (fun _ _ => trivial) h2
    (fun _ _ => trivial)).1.not_joined

/-- An open, an exception out of `event_loop`, then `gcomm_close` and `gcomm_destroy`. -/
theorem error_thread_never_joined_evicted :
    ∃ b outs b1 b2 outs', Backend.new.exec [.open false okEnv, .run 0, .run 0] = some (b, outs) ∧
      b.control = .idle ∧ (ECONNABORTED : Int) ≠ 0 ∧
      b.step (.event 0 (.fail ECONNABORTED)) = some (b1, none) ∧
      b1.exec [.close, .destroy] = some (b2, outs') ∧ JoinCall.thread 0 ∉ b2.joins :=
  ⟨_, _, _, _, _, rfl, rfl, by decide, rfl, rfl,
    @error_thread_never_joined [.open false okEnv, .run 0, .run 0] [.close, .destroy] _ _ _ _ _ 0
      (.fail ECONNABORTED) rfl rfl (by decide) rfl rfl⟩
/-! ## A close that throws -/

namespace Backend

variable {b : Backend}

/-- The control thread's join on a backend whose `thd_` names thread `t` records that thread, which
has returned from `run ()`. -/
theorem JoinsAs.none_eq {j : JoinCall} {t : Nat} (hj : b.JoinsAs none j) (ht : b.thd = some t) :
    j = .thread t ∧ b.threadAt t = .exited := by
  obtain ⟨t', ht', ⟨hc, -⟩ | ⟨-, -, hx, rfl⟩⟩ := hj
  · simp at hc
  · obtain rfl := Option.some.inj (ht.symm.trans ht')
    exact ⟨rfl, hx⟩

end Backend

/-- How many statements of `run ()` a thread still executes once `terminated_` is set: `event_loop`
returns to the loop, whose check of `terminated_` ends it, and the check of `error_` leads to that
check at most. -/
def RunPc.toExit : RunPc → Nat
  | .check | .events => 2
  | .loop => 1
  | .exited => 0

theorem RunPc.toExit_le (pc : RunPc) : pc.toExit ≤ 2 := by
  cases pc <;> decide

namespace Backend

variable {b : Backend}

/-- With `terminated_` set, a thread that has not left `run ()` has a step of its own that brings it
closer to the end and moves nothing else. -/
theorem exit_step (ht : b.terminated = true) {t : Nat} (hx : b.threadAt t ≠ .exited) :
    ∃ op pc, (op = .run t ∨ op = .event t .done) ∧ pc.toExit < (b.threadAt t).toExit ∧
      b.step op = some (b.setThread t pc, none) := by
  cases hpc : b.threadAt t with
  | check =>
    exact ⟨_, if b.conn.error ≠ 0 then .exited else .loop, .inl rfl, by split <;> decide,
      by simp only [Backend.step, runStep, hpc]; rfl⟩
  | loop => exact ⟨_, .exited, .inl rfl, by decide, by simp [Backend.step, runStep, hpc, ht]⟩
  | events => exact ⟨_, .loop, .inr rfl, by decide, by simp [Backend.step, eventStep, hpc]⟩
  | exited => exact absurd hpc hx

/-- With `terminated_` set, thread `t` scheduled alone leaves `run ()` within `toExit` steps, and
`thd_`, the control thread and the joins are as they were. -/
theorem exit_run (ht : b.terminated = true) (t : Nat) :
    ∃ ops b', ops.length ≤ (b.threadAt t).toExit ∧ (∀ op ∈ ops, op = .run t ∨ op = .event t .done) ∧
      b.exec ops = some (b', []) ∧ b'.threadAt t = .exited ∧ b'.thd = b.thd ∧
      b'.control = b.control ∧ b'.joins = b.joins := by
  induction' hn : (b.threadAt t).toExit using Nat.strong_induction_on with n ih generalizing b
  by_cases hx : b.threadAt t = .exited
  · exact ⟨[], b, by simp, by simp, rfl, hx, rfl, rfl, rfl⟩
  obtain ⟨op, pc, hop, hlt, hs⟩ := exit_step ht hx
  have hpc : (b.setThread t pc).threadAt t = pc := threadAt_setThread_self pc (lt_of_threadAt_ne hx)
  obtain ⟨ops, b', hl, hops, he, hx', hthd, hc, hj⟩ :=
    @ih pc.toExit (hn ▸ hlt) (b.setThread t pc) ht (congrArg RunPc.toExit hpc)
  refine ⟨op :: ops, b', ?_, ?_, by simp [exec_cons, hs, he, -setThread_eq], hx', hthd, hc, hj⟩
  · simp only [List.length_cons]
    omega
  · simpa [hop] using hops

/-- The control thread's join returns, and `close ()` or `~GCommConn` with it, once the thread
`thd_` names, which no join has reaped, has left `run ()`. -/
theorem resume_of_exited (hc : b.control = .closing ∨ b.control = .destroying) {t : Nat}
    (ht : b.thd = some t) (hn : JoinCall.thread t ∉ b.joins) (hx : b.threadAt t = .exited) :
    ∃ b', b.step (.resume none) = some (b', some (.ret 0)) := by
  have hb1 : b.joinThd none = some { b with joins := b.joins ++ [.thread t] } := by
    simp [joinThd, ht, hn, hx]
  rcases hc with hc | hc <;> simp [Backend.step, hc, hb1]

end Backend

/-- `close ()` and `~GCommConn` never wait for ever in their `pthread_join`, up to the joins whose
behaviour is undefined. From every reachable backend whose control thread waits there: with `thd_`
unset, which happens only in `~GCommConn` on a backend where no thread was created, the join is
undefined and no step returns from it; with `thd_` naming a thread that a join has already reaped,
likewise; otherwise that thread, scheduled alone, leaves `run ()` within two steps, since
`terminated_` is set, and the join then returns 0. -/
theorem join_returns {pre : List BackendOp} {outs : List (BackendOp × CallResult)} {b : Backend}
    (hb : Backend.new.exec pre = some (b, outs)) (hc : b.control = .closing ∨ b.control = .destroying) :
    (b.thd = none → b.control = .destroying ∧ b.threads = [] ∧ ∀ f, b.step (.resume f) = none) ∧
    ∀ t, b.thd = some t →
      (JoinCall.thread t ∈ b.joins → ∀ f, b.step (.resume f) = none) ∧
      (JoinCall.thread t ∉ b.joins → ∃ ops b' b'', ops.length ≤ 2 ∧
        (∀ op ∈ ops, op = .run t ∨ op = .event t .done) ∧
        b.exec ops = some (b', []) ∧ b'.step (.resume none) = some (b'', some (.ret 0))) := by
  have hi := Backend.Inv.exec hb
  have ht := hi.waits hc
  refine ⟨fun hn => ?_, fun t hthd => ⟨fun hj f => ?_, fun hj => ?_⟩⟩
  · -- `close ()` waits only after a thread was created, so `thd_` is set
    have hz : b.threads = [] := by
      rw [← List.length_eq_zero]
      by_contra hz
      simp [hi.thd, hz] at hn
    rcases hc with hc | hc
    · simpa [hz, hc, Control.detached] using hi.terminated ht
    · exact ⟨hc, hz, fun f => by simp [Backend.step, Backend.joinThd, hc, hn]⟩
  · rcases hc with hc | hc <;> simp [Backend.step, Backend.joinThd, hc, hthd, hj]
  · obtain ⟨ops, b', hl, hops, he, hx, hthd', hc', hj'⟩ := Backend.exit_run ht t
    obtain ⟨b'', hr⟩ := Backend.resume_of_exited (hc' ▸ hc) (hthd'.trans hthd) (hj' ▸ hj) hx
    exact ⟨ops, b', b'', hl.trans (RunPc.toExit_le _), hops, he, hr⟩

/-- `gcomm_close` right after `gcomm_open`, before the new thread has passed its check of `error_`. -/
theorem join_returns_after_open :
    ∃ b outs, Backend.new.exec [.open false okEnv, .close] = some (b, outs) ∧
      (b.control = .closing ∨ b.control = .destroying) ∧
      ((b.thd = none → b.control = .destroying ∧ b.threads = [] ∧ ∀ f, b.step (.resume f) = none) ∧
        ∀ t, b.thd = some t →
          (JoinCall.thread t ∈ b.joins → ∀ f, b.step (.resume f) = none) ∧
          (JoinCall.thread t ∉ b.joins → ∃ ops b' b'', ops.length ≤ 2 ∧
            (∀ op ∈ ops, op = .run t ∨ op = .event t .done) ∧
            b.exec ops = some (b', []) ∧ b'.step (.resume none) = some (b'', some (.ret 0)))) :=
  ⟨_, _, rfl, .inl rfl, @join_returns [.open false okEnv, .close] _ _ rfl (.inl rfl)⟩

end GaleraStateTransfer
