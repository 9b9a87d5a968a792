import GaleraStateTransfer.GcommRecv

/-!
# The gcomm backend's connection and its thread

`src/gcs/src/gcs_gcomm.cpp` implements gcs's backend interface on a `GCommConn`. `gcomm_open` runs
`GCommConn::connect`, which creates the transport `tp_` and a thread that runs `GCommConn::run ()`:
past a barrier it shares with `connect`, the thread returns at once when `error_` is set, and
otherwise loops, checking `terminated_` and running the transport's event loop, which hands what
arrives to `handle_up`. An error event makes `handle_up` close the backend from that thread;
`gcomm_close` closes it from the application's side and joins the thread; `gcomm_destroy` runs
`~GCommConn`, which deletes a transport still set and joins the thread unless `terminated_` is set.

Every backend call runs under the `Protonet` lock (`gcomm::Critical`), or reads fields only it
writes, so it is one step here. The exceptions are the two joins of the control thread, the one
that calls `gcomm_open`, `gcomm_close` and `gcomm_destroy`: `close ()` and `~GCommConn` wait in
`pthread_join` for the gcomm thread, which goes on meanwhile. A `pthread_join` whose behaviour is
undefined, on a `thd_` that no thread creation set or on a thread an earlier join reaped, is no
step: a schedule stops where it reaches one. A schedule interleaves the control
thread, any threads calling `gcomm_send`, `gcomm_param_set`, `gcomm_msg_size` and
`gcomm_status_get`, gcs's receiving thread in `gcomm_recv`, and the statements of the threads
`connect` created. Ghost fields record the calls made on the transport, the joins, what `send_down`
was given and which parameters were set.

`Backend.step` is one step of a schedule and `Backend.exec` a whole schedule. `Backend.Moves` says
once what a step can do, and each property of a step is a case analysis on it: those of `error_`,
the transport and `terminated_` are in `GcommConn.Lifecycle`, the invariant of every reachable
backend and what it says of the joins in `GcommConn.Joins`, and what the receiving thread gets in
`GcommConn.Receive`.
-/

namespace GaleraStateTransfer

/-- `EBADFD`, which a backend call returns when `backend->conn` is null. -/
def EBADFD : Int := 77

/-- `ENOTRECOVERABLE`, the error number of what `gu_throw_fatal` throws. -/
def ENOTRECOVERABLE : Int := 131

/-! ## The connection's state -/

/-- Where a thread that `connect` created stands in `GCommConn::run ()`. The thread passes
`barrier_.wait ()` together with `connect`'s `StartBarrier`, at the end of `connect`. -/
inductive RunPc where
  /-- `if (error_ != 0) return;`. -/
  | check
  /-- The top of the loop: `if (terminated_ == true) break;` under `mutex_`. -/
  | loop
  /-- In `net_->event_loop (Sec)`. -/
  | events
  /-- Returned from `run ()`. -/
  | exited
  deriving DecidableEq, Repr

/-- A call made on the transport `tp_`. -/
inductive TransportCall where
  /-- `Transport::create (*net_, uri_)`. -/
  | create
  /-- `tp_->connect (bootstrap)`. -/
  | connect (bootstrap : Bool)
  /-- `tp_->close (force)`, followed by `gcomm::disconnect (tp_, this)` and `delete tp_`. -/
  | close (force : Bool)
  /-- `tp_->close (force)` that threw a `gu::Exception` with error number `e`, leaving `tp_` set. -/
  | closeThrew (force : Bool) (e : Int)
  /-- `delete tp_` in `~GCommConn`. -/
  | delete
  deriving DecidableEq, Repr

/-- A `pthread_join (thd_, 0)` call that returned. -/
inductive JoinCall where
  /-- On the thread of that index, which has returned from `run ()`: the join reaps it. -/
  | thread (i : Nat)
  /-- By the thread of that index on itself, from `handle_up`'s `close (true)`: it fails with
  `EDEADLK`. -/
  | self (i : Nat)
  deriving DecidableEq, Repr

/-- Where the control thread stands. -/
inductive Control where
  | idle
  /-- In `close ()`, past `terminate ()`, waiting in `pthread_join (thd_, 0)`. -/
  | closing
  /-- In `~GCommConn`, past `terminate ()`, waiting in `gu_thread_join (thd_, 0)`. -/
  | destroying
  /-- `gcomm_destroy` has returned. -/
  | destroyed
  deriving DecidableEq, Repr

/-- Whether `backend->conn` is null: `gcomm_destroy`'s `Ref (backend, true)` cleared it before
deleting the connection. -/
def Control.detached : Control → Bool
  | destroying | destroyed => true
  | _ => false

/-- A `GCommConn` through its life: the fields of the receive side, `tp_` and `terminated_`, the
threads `connect` created and the one `thd_` names, where the control thread stands, and the ghost
logs. -/
structure Backend where
  /-- `uuid_`, `error_`, `current_view_` and `recv_buf_`. -/
  conn : GCommConn
  /-- `tp_ != 0`. -/
  tp : Bool
  /-- `terminated_`. -/
  terminated : Bool
  /-- The threads `connect` created, in creation order, each at its statement of `run ()`. -/
  threads : List RunPc
  /-- The index of the thread `thd_` names; `none` while `thd_` keeps the value the constructor
  gave it (a failed `gu_thread_create` leaves it as it was). -/
  thd : Option Nat
  /-- The control thread. -/
  control : Control
  /-- The calls made on the transport, in order. -/
  transport : List TransportCall
  /-- The `pthread_join` calls made, in order. -/
  joins : List JoinCall
  /-- What `send_down` was given: each payload with `gcomm_send`'s `msg_type`. -/
  sent : List (Bytes × Nat)
  /-- The keys and values `set_param` was given. -/
  params : List (Bytes × Bytes)

namespace Backend

/-- The statement of `run ()` thread `i` stands at; a thread that does not exist has nothing left
to run. -/
def threadAt (b : Backend) (i : Nat) : RunPc := b.threads[i]?.getD .exited

/-- Thread `i` moves to `pc`. -/
def setThread (b : Backend) (i : Nat) (pc : RunPc) : Backend := { b with threads := b.threads.set i pc }

/-- `terminate ()`: `terminated_ = true` under `mutex_`, and `net_->interrupt ()`. -/
def terminate (b : Backend) : Backend := { b with terminated := true }

/-- `pthread_join (thd_, 0)` by the gcomm thread `caller`, or by the control thread (`none`):
`none` while the thread `thd_` names runs, for the call waits for it to return. A join whose
behaviour is undefined is no step either: one on a `thd_` that no thread creation has set, and one
on a thread that an earlier join has reaped. -/
def joinThd (b : Backend) (caller : Option Nat) : Option Backend :=
  match b.thd with
  | none => none
  | some t =>
    if caller = some t then some { b with joins := b.joins ++ [.self t] }
    else if JoinCall.thread t ∈ b.joins then none
    else if b.threadAt t = .exited then some { b with joins := b.joins ++ [.thread t] }
    else none

/-- The end of `close (force)`, past its `pthread_join`: the transport is closed with
`error_ != 0 || force`, disconnected and deleted, unless `tp_` was cleared meanwhile ("gcomm:
backend closed already"). -/
def closeTransport (b : Backend) (force : Bool) : Backend :=
  if b.tp then { b with tp := false, transport := b.transport ++ [.close (b.conn.error != 0 || force)] }
  else b

/-- `close (true)` as `handle_up` runs it under the `Protonet` lock, on the gcomm thread `caller` or
on the control thread (`none`): nothing when `tp_` is null ("gcomm: backend already closed"). Its
`pthread_join` fails at once on the thread itself, and on another thread waits for it. -/
def closeOn (b : Backend) (caller : Option Nat) : Option Backend :=
  if b.tp then (b.terminate.joinThd caller).map (·.closeTransport true) else some b

/-- `GCommConn::handle_up (id, dg, um)` on the gcomm thread `caller`, or on the control thread
(`none`): the receive side's `handle_up`, with `close (true)` between setting `error_` and queueing
an error event. `none` while that close waits for another thread. -/
def handleUp (b : Backend) (caller : Option Nat) (dg : Bytes) (um : ProtoUpMeta) : Option Backend :=
  if um.errNo ≠ 0 then
    (closeOn { b with conn := { b.conn with error := um.errNo } } caller).map fun b =>
      { b with conn := { b.conn with recvBuf := b.conn.recvBuf.pushBack ⟨SIZE_MAX, dg, um⟩ } }
  else some { b with conn := GaleraStateTransfer.handleUp b.conn dg um }

end Backend

/-! ## The gcomm thread -/

/-- What `run ()` hands to `handle_up` when `event_loop` throws a `gu::Exception` with error number
`e`: `ProtoUpMeta (UUID::nil (), ViewId (V_NON_PRIM), 0, 0xff, O_DROP, -1, e)`, with no view, and
an empty datagram. -/
def failMeta (e : Int) : ProtoUpMeta := ⟨e, none, Uuid.nil, 0xff⟩

/-- What a gcomm thread's `net_->event_loop (Sec)` does next. -/
inductive LoopEvent where
  /-- It hands a datagram and its meta to `handle_up`. -/
  | up (dg : Bytes) (um : ProtoUpMeta)
  /-- It returns, after its period or when `net_->interrupt ()` stopped it. -/
  | done
  /-- It throws a `gu::Exception` with this error number. -/
  | fail (e : Int)

/-- The `err_no ()` of what an event hands to `handle_up`; 0 when it hands nothing. -/
def LoopEvent.errNo : LoopEvent → Int
  | up _ um => um.errNo
  | done => 0
  | fail e => e

namespace Backend

/-- One statement of `run ()` outside `event_loop`, by thread `i`. -/
def runStep (b : Backend) (i : Nat) : Option Backend :=
  match b.threadAt i with
  | .check => some (b.setThread i (if b.conn.error ≠ 0 then .exited else .loop))
  | .loop => some (b.setThread i (if b.terminated then .exited else .events))
  | _ => none

/-- What thread `i`'s `event_loop` does next; after an exception, `run ()` takes the `Protonet`
lock, hands `failMeta` to `handle_up` and returns. -/
def eventStep (b : Backend) (i : Nat) (ev : LoopEvent) : Option Backend :=
  if b.threadAt i = .events then
    match ev with
    | .up dg um => b.handleUp (some i) dg um
    | .done => some (b.setThread i .loop)
    | .fail e => (b.handleUp (some i) [] (failMeta e)).map (·.setThread i .exited)
  else none

end Backend

/-! ## The backend calls -/

/-- What the calls `connect` makes outside this file give back, in one `gcomm_open`.
`gcomm::connect (tp_, this)`, which links the layers, is taken not to throw. -/
structure ConnectEnv where
  /-- What `gu_thread_create` returns: 0 when it created the thread. -/
  threadCreate : Int
  /-- The error number of a `gu::Exception` from `thread_set_schedparam`, `thread_get_schedparam`
  or `Transport::create`, before `tp_` is set. -/
  beforeTp : Option Int
  /-- The error number of a `gu::Exception` from `tp_->connect (bootstrap)`. -/
  connectFails : Option Int
  /-- `tp_->uuid ()`. -/
  uuid : Uuid

/-- What the calls of one `gcomm_send` give back. When `thread_get_schedparam` or
`thread_set_schedparam` throws before the send, its error number is stored in `err` and then always
overwritten in the `Protonet` block, so it is no input here. -/
structure SendEnv where
  /-- Whether `conn.schedparam ()` differs from `gu::ThreadSchedparam::system_default`. -/
  schedparam : Bool
  /-- What `conn.send_down (dg, ProtoDownMeta (msg_type, ...))` returns. -/
  sendDown : Int
  /-- The error number of a `gu::Exception` from restoring the caller's scheduling parameters. -/
  restoreFails : Option Int

/-- What `conn.get_pnet ().set_param (key, value, sync_param_cb)` does. -/
inductive SetParam where
  /-- It returns true: the parameter is set. -/
  | set
  /-- It returns false: the key is not recognised. -/
  | unrecognized
  /-- It throws a `gu::Exception` with this error number. -/
  | exception (e : Int)
  /-- It throws `gu::NotFound`. -/
  | notFound
  /-- It throws `gu::NotSet`. -/
  | notSet
  /-- It throws anything else. -/
  | other

namespace Backend

/-- `GCommConn::connect (channel, bootstrap)`, through the wait of its `StartBarrier`, which the
thread it created passes with it: the connection after it, and the error number of the exception it
throws, if any. -/
def connect (b : Backend) (bootstrap : Bool) (env : ConnectEnv) : Backend × Option Int :=
  if b.tp then (b, some ENOTRECOVERABLE)
  else
    let b := { b with conn := { b.conn with error := ENOTCONN } }
    if env.threadCreate ≠ 0 then (b, some env.threadCreate)
    else
      let b := { b with threads := b.threads ++ [.check], thd := some b.threads.length }
      match env.beforeTp with
      | some e => (b, some e)
      | none =>
        let b := { b with tp := true, transport := b.transport ++ [.create, .connect bootstrap] }
        match env.connectFails with
        | some e => (b, some e)
        | none => ({ b with conn := { b.conn with uuid := env.uuid, error := 0 } }, none)

/-- `gcomm_open (backend, channel, bootstrap)` on a set `backend->conn`: 0, or minus the error
number of what `connect` threw. -/
def gcommOpen (b : Backend) (bootstrap : Bool) (env : ConnectEnv) : Backend × Int :=
  let r := b.connect bootstrap env
  (r.1, match r.2 with
    | some e => -e
    | none => 0)

/-- `gcomm_send (backend, buf, len, msg_type)` on a set `backend->conn`: `len` when `err` ends 0,
and `-err` otherwise. -/
def gcommSend (b : Backend) (env : SendEnv) (buf : Bytes) (msgType : Nat) : Backend × Int :=
  let (b, err) :=
    if b.conn.error ≠ 0 then (b, ECONNABORTED)
    else ({ b with sent := b.sent ++ [(buf, msgType)] }, env.sendDown)
  let err := if env.schedparam then env.restoreFails.getD err else err
  (b, if err = 0 then buf.length else -err)

/-- `gcomm_param_set (backend, key, value)` on a set `backend->conn`. After a successful set it
runs `sync_param_cb` when one was given, which is not modelled. -/
def gcommParamSet (b : Backend) (key value : Bytes) (r : SetParam) : Backend × Int :=
  if b.conn.error ≠ 0 then (b, -ECONNABORTED)
  else
    let b := { b with params := b.params ++ [(key, value)] }
    match r with
    | .set => (b, 0)
    | .unrecognized => (b, 1)
    | .exception e => (b, -e)
    | .notFound | .notSet => (b, -EINVAL)
    | .other => (b, -ENOTRECOVERABLE)

end Backend

/-- How a backend call ended: it returned a value, or a `gu::Exception` with this error number left
it (`gcomm_msg_size` and `gcomm_status_get` catch nothing); `gcomm_recv` returned a value, with the
caller's message as it left it. -/
inductive CallResult where
  | ret (v : Int)
  | throws (e : Int)
  | received (msg : RecvMsg) (v : Int)
  deriving DecidableEq

/-- A step of a schedule. -/
inductive BackendOp where
  /-- The control thread calls `gcomm_open (backend, channel, bootstrap)`. -/
  | open (bootstrap : Bool) (env : ConnectEnv)
  /-- The control thread calls `gcomm_close`. -/
  | close
  /-- The control thread calls `gcomm_destroy`. -/
  | destroy
  /-- The control thread's `pthread_join` returns, and the call it waited in runs to its end. In
  `close ()`, `closeFails` is the error number of a `gu::Exception` from `tp_->close`, if any;
  `close (true)` in `gcomm_close`'s handler is taken not to throw. -/
  | resume (closeFails : Option Int)
  /-- A thread calls `gcomm_send` with a payload and `msg_type`. -/
  | send (env : SendEnv) (buf : Bytes) (msgType : Nat)
  /-- A thread calls `gcomm_param_set (backend, key, value)`. -/
  | paramSet (key value : Bytes) (r : SetParam)
  /-- A thread calls `gcomm_msg_size`; `mtu` is what `tp_->mtu ()` gives. -/
  | msgSize (mtu : Nat)
  /-- A thread calls `gcomm_status_get`. -/
  | statusGet
  /-- gcs's receiving thread calls `gcomm_recv (backend, msg, timeout)`, built with the constants
  `hd` of the gcs headers. -/
  | recv (hd : GcsHeaders) (msg : RecvMsg)
  /-- Thread `i` takes its next statement of `run ()` outside `event_loop`. -/
  | run (i : Nat)
  /-- Thread `i`'s `event_loop` does `ev`. -/
  | event (i : Nat) (ev : LoopEvent)

namespace Backend

/-- The backend `gcs_gcomm_create` sets up: `GCommConn`'s constructor leaves `uuid_` nil, `error_`
0, `tp_` null and `terminated_` clear, and creates no thread. -/
def new : Backend := ⟨freshConn, false, false, [], none, .idle, [], [], [], []⟩

/-- One step of a schedule: the backend after it and, when a call returns in it, how it ended;
`none` when the step cannot be taken (the control thread is busy or waits, or the thread is not at
that statement). Every call finds `backend->conn` null once `gcomm_destroy` cleared it: it returns
`-EBADFD` (`gcomm_msg_size` returns -1, and `gcomm_status_get` throws `gu_throw_error (-EBADFD)`). -/
def step (b : Backend) : BackendOp → Option (Backend × Option CallResult)
  | .open bootstrap env =>
    match b.control with
    | .idle => let r := b.gcommOpen bootstrap env; some (r.1, some (.ret r.2))
    | .destroyed => some (b, some (.ret (-EBADFD)))
    | _ => none
  | .close =>
    match b.control with
    | .idle =>
      if b.tp then some ({ b.terminate with control := .closing }, none) else some (b, some (.ret 0))
    | .destroyed => some (b, some (.ret (-EBADFD)))
    | _ => none
  | .destroy =>
    match b.control with
    | .idle =>
      let b := if b.tp then { b with transport := b.transport ++ [.delete] } else b
      if b.terminated then some ({ b with control := .destroyed }, some (.ret 0))
      else some ({ b.terminate with control := .destroying }, none)
    | .destroyed => some (b, some (.ret (-EBADFD)))
    | _ => none
  | .resume closeFails =>
    match b.control with
    | .closing =>
      (b.joinThd none).bind fun b =>
        match closeFails, b.tp with
        | some e, true =>
          -- `gcomm_close`'s handler hands the error to `handle_up` on the control thread
          (handleUp { b with transport := b.transport ++ [.closeThrew (b.conn.error != 0) e] } none []
            (failMeta e)).map fun b => ({ b with control := .idle }, some (.ret 0))
        | _, _ => some ({ b.closeTransport false with control := .idle }, some (.ret 0))
    | .destroying => (b.joinThd none).map fun b => ({ b with control := .destroyed }, some (.ret 0))
    | _ => none
  | .send env buf msgType =>
    if b.control.detached then some (b, some (.ret (-EBADFD)))
    else let r := b.gcommSend env buf msgType; some (r.1, some (.ret r.2))
  | .paramSet key value r =>
    if b.control.detached then some (b, some (.ret (-EBADFD)))
    else let r := b.gcommParamSet key value r; some (r.1, some (.ret r.2))
  | .msgSize mtu =>
    if b.control.detached then some (b, some (.ret (-1)))
    else if b.tp then some (b, some (.ret mtu))
    else some (b, some (.throws ENOTRECOVERABLE))
  | .statusGet =>
    if b.control.detached then some (b, some (.throws (-EBADFD))) else some (b, some (.ret 0))
  | .recv hd msg =>
    if b.control.detached then some (b, some (.received msg (-EBADFD)))
    else (gcommRecv hd b.conn msg).map fun (conn, msg, v) => ({ b with conn := conn }, some (.received msg v))
  | .run i => (b.runStep i).map (·, none)
  | .event i ev => (b.eventStep i ev).map (·, none)

/-- A schedule run from a backend: the backend after it and each call that returned, with how it
ended, in order; `none` when it schedules a step that cannot be taken. -/
def exec (b : Backend) : List BackendOp → Option (Backend × List (BackendOp × CallResult))
  | [] => some (b, [])
  | op :: ops => (b.step op).bind fun (b', r) =>
    (b'.exec ops).map fun (b'', outs) => (b'', (r.map (op, ·)).toList ++ outs)

end Backend

/-- `gcs_gcomm_create (backend, addr, cnf)`: the connection it sets up and what it returns; `ctor`
is the error number of a `gu::Exception` from parsing `"pc://" + addr` or from `GCommConn`'s
constructor. -/
def gcsGcommCreate (cnf : Bool) (ctor : Option Int) : Option Backend × Int :=
  if !cnf then (none, -EINVAL)
  else match ctor with
    | some e => (none, -e)
    | none => (some Backend.new, 0)

/-! ## What the pieces of a step change -/

/-- `gcomm_recv` keeps the node's uuid and `error_`: it pops an event or changes nothing. -/
theorem gcommRecv_keeps {hd : GcsHeaders} {conn conn' : GCommConn} {msg msg' : RecvMsg} {v : Int}
    (h : gcommRecv hd conn msg = some (conn', msg', v)) : conn'.uuid = conn.uuid ∧ conn'.error = conn.error := by
  rcases gcommRecv_cases h with ⟨rfl, -⟩ | ⟨d, -, rfl, -⟩ <;> exact ⟨rfl, rfl⟩

/-- `handle_up` sets `error_` to the event's `err_no ()` when it is not 0, and leaves it otherwise. -/
theorem handleUp_error (conn : GCommConn) (dg : Bytes) (um : ProtoUpMeta) :
    (handleUp conn dg um).error = if um.errNo ≠ 0 then um.errNo else conn.error := by
  unfold handleUp
  split_ifs
  · rfl
  · split
    · rfl
    · split <;> rfl

namespace Backend

variable {b b' : Backend}

theorem threadAt_setThread_self {i : Nat} (pc : RunPc) (h : i < b.threads.length) :
    (b.setThread i pc).threadAt i = pc := by
  simp [threadAt, setThread, h]

@[simp]
theorem length_setThread (i : Nat) (pc : RunPc) :
    (b.setThread i pc).threads.length = b.threads.length :=
  List.length_set ..

theorem threadAt_setThread_ne {i j : Nat} (pc : RunPc) (h : i ≠ j) :
    (b.setThread i pc).threadAt j = b.threadAt j := by
  simp [threadAt, setThread, List.getElem?_set_ne h]

/-- A thread that has not returned from `run ()` is one `connect` created. -/
theorem lt_of_threadAt_ne {i : Nat} (h : b.threadAt i ≠ .exited) : i < b.threads.length := by
  by_contra hn
  exact h (by rw [threadAt, List.getElem?_eq_none (Nat.le_of_not_lt hn)]; rfl)

/-- The statements of the threads after `connect` created one more. -/
theorem getD_append_check (l : List RunPc) (t : Nat) :
    (l ++ [.check])[t]?.getD .exited = if t = l.length then .check else l[t]?.getD .exited := by
  rcases Nat.lt_trichotomy t l.length with h | rfl | h
  · rw [List.getElem?_append_left h, if_neg h.ne]
  · simp
  · rw [if_neg h.ne', List.getElem?_eq_none (by simp; omega), List.getElem?_eq_none h.le]

/-- The end of `close ()` leaves `tp_` null, and closes the transport if it was set. -/
@[simp]
theorem closeTransport_eq (force : Bool) :
    b.closeTransport force = { b with tp := false, transport :=
      if b.tp then b.transport ++ [.close (b.conn.error != 0 || force)] else b.transport } := by
  unfold closeTransport
  cases b
  split <;> simp_all

/-- What `pthread_join (thd_, 0)` by `caller` records, when it returns: the caller's failed join on
itself, or the join of the thread `thd_` names, not reaped before, once it has returned. -/
def JoinsAs (b : Backend) (caller : Option Nat) (j : JoinCall) : Prop :=
  ∃ t, b.thd = some t ∧ (caller = some t ∧ j = .self t ∨
    caller ≠ some t ∧ JoinCall.thread t ∉ b.joins ∧ b.threadAt t = .exited ∧ j = .thread t)

/-- `pthread_join` records one join and changes nothing else. -/
theorem joinThd_eq {c : Option Nat} (h : b.joinThd c = some b') :
    ∃ j, b' = { b with joins := b.joins ++ [j] } ∧ b.JoinsAs c j := by
  unfold joinThd at h
  split at h
  · cases h
  · split_ifs at h with h1 h2 h3
    · exact ⟨_, (Option.some.inj h).symm, _, ‹_›, .inl ⟨h1, rfl⟩⟩
    · exact ⟨_, (Option.some.inj h).symm, _, ‹_›, .inr ⟨h1, h2, h3, rfl⟩⟩

/-- `close (true)` on the thread `c`: nothing when `tp_` is null; otherwise it sets `terminated_`,
records its join, and closes and deletes the transport. -/
theorem closeOn_eq {c : Option Nat} (h : b.closeOn c = some b') :
    b.tp = false ∧ b' = b ∨
      b.tp = true ∧ ∃ j, b.JoinsAs c j ∧
        b' = { b with terminated := true, tp := false, joins := b.joins ++ [j],
                      transport := b.transport ++ [.close true] } := by
  unfold closeOn at h
  split_ifs at h with ht
  · obtain ⟨b1, h1, rfl⟩ := Option.map_eq_some'.1 h
    obtain ⟨j, rfl, hj⟩ := joinThd_eq h1
    exact .inr ⟨ht, j, hj, by simp [closeTransport, terminate, ht]⟩
  · exact .inl ⟨by simpa using ht, (Option.some.inj h).symm⟩

/-- `close (true)` neither reads nor writes the receive side's fields. -/
theorem closeOn_conn (c : GCommConn) (caller : Option Nat) :
    closeOn { b with conn := c } caller = (b.closeOn caller).map fun b => { b with conn := c } := by
  unfold closeOn joinThd closeTransport terminate threadAt
  cases ht : b.tp <;> cases hd : b.thd <;> simp [ht, hd]
  split_ifs <;> simp

/-- `handle_up` on the thread `c` does the receive side's `handle_up`, after `close (true)` for an
error event. -/
theorem handleUp_eq {c : Option Nat} {dg : Bytes} {um : ProtoUpMeta} (h : b.handleUp c dg um = some b') :
    um.errNo = 0 ∧ b' = { b with conn := GaleraStateTransfer.handleUp b.conn dg um } ∨
      um.errNo ≠ 0 ∧ ∃ b1, b.closeOn c = some b1 ∧
        b' = { b1 with conn := GaleraStateTransfer.handleUp b.conn dg um } := by
  unfold handleUp at h
  split_ifs at h with he
  · rw [closeOn_conn, Option.map_map] at h
    obtain ⟨b1, h1, rfl⟩ := Option.map_eq_some'.1 h
    exact .inr ⟨he, b1, h1, by simp [GaleraStateTransfer.handleUp, he]⟩
  · exact .inl ⟨not_not.1 he, (Option.some.inj h).symm⟩

/-- `handle_up` moves no thread, and changes neither `thd_` nor the control thread. -/
theorem handleUp_threads {c : Option Nat} {dg : Bytes} {um : ProtoUpMeta}
    (h : b.handleUp c dg um = some b') :
    b'.threads = b.threads ∧ b'.thd = b.thd ∧ b'.control = b.control := by
  rcases handleUp_eq h with ⟨-, rfl⟩ | ⟨-, b1, h1, rfl⟩
  · exact ⟨rfl, rfl, rfl⟩
  · rcases closeOn_eq h1 with ⟨-, rfl⟩ | ⟨-, j, -, rfl⟩ <;> exact ⟨rfl, rfl, rfl⟩

/-- Moving thread `i` to `pc` leaves every thread at `pc` or where it was. -/
theorem threadAt_setThread (i t : Nat) (pc : RunPc) :
    (b.setThread i pc).threadAt t = pc ∨ (b.setThread i pc).threadAt t = b.threadAt t := by
  rcases eq_or_ne i t with rfl | h
  · by_cases hi : i < b.threads.length
    · exact .inl (threadAt_setThread_self pc hi)
    · exact .inr (by simp [threadAt, setThread, List.getElem?_set, hi, List.getElem?_eq_none (Nat.le_of_not_lt hi)])
  · exact .inr (threadAt_setThread_ne pc h)

/-- A `connect` that throws leaves `error_` set: `ENOTCONN`, or as it was when `tp_` was set. -/
theorem connect_error_of_throws {bs : Bool} {env : ConnectEnv} {e : Int}
    (h : (b.connect bs env).2 = some e) :
    (b.connect bs env).1.conn.error = ENOTCONN ∨ (b.connect bs env).1 = b := by
  unfold connect at h ⊢
  by_cases ht : b.tp
  · simp [ht]
  · by_cases hn : env.threadCreate = 0 <;> cases hb : env.beforeTp <;> cases hc : env.connectFails <;>
      simp_all

/-- `connect` neither sends nor sets a parameter. -/
theorem connect_sent_params (bs : Bool) (env : ConnectEnv) :
    (b.connect bs env).1.sent = b.sent ∧ (b.connect bs env).1.params = b.params := by
  unfold connect
  split_ifs <;> (try split) <;> (try split) <;> exact ⟨rfl, rfl⟩

/-- What `connect` changes: nothing but `error_`, the transport and the uuid, unless it creates a
thread, which `thd_` then names. -/
theorem connect_threads (bs : Bool) (env : ConnectEnv) :
    (b.connect bs env).1.terminated = b.terminated ∧ (b.connect bs env).1.control = b.control ∧
      (b.connect bs env).1.joins = b.joins ∧
      ((b.connect bs env).1.threads = b.threads ∧ (b.connect bs env).1.thd = b.thd ∧
          (b.connect bs env).1.tp = b.tp ∨
        (b.connect bs env).1.threads = b.threads ++ [.check] ∧
          (b.connect bs env).1.thd = some b.threads.length) := by
  unfold Backend.connect
  split_ifs
  · exact ⟨rfl, rfl, rfl, .inl ⟨rfl, rfl, rfl⟩⟩
  · exact ⟨rfl, rfl, rfl, .inl ⟨rfl, rfl, rfl⟩⟩
  · split <;> (try split) <;> exact ⟨rfl, rfl, rfl, .inr ⟨rfl, rfl⟩⟩

end Backend

/-! ## What one step does -/

namespace Backend

variable {b b' : Backend}

/-- What a step of a schedule does to the backend, read off `step` once: every property of a step
is a case analysis on it. -/
inductive Moves (b : Backend) : BackendOp → Backend → Prop
  /-- The call changes nothing: it finds the backend destroyed, `gcomm_close` finds `tp_` null, or
  the call only reads or fails on `error_`. -/
  | same (op : BackendOp) : Moves b op b
  /-- `gcomm_open` from the idle control thread. -/
  | connect (bs : Bool) (env : ConnectEnv) : b.control = .idle →
      Moves b (.open bs env) (b.connect bs env).1
  /-- `gcomm_close` with a transport set: `terminate ()`, then the control thread waits in its
  join. -/
  | close : b.control = .idle → b.tp = true →
      Moves b .close { b with terminated := true, control := .closing }
  /-- `~GCommConn` from the idle control thread: it deletes the transport if one is set, and waits
  in its join unless `terminated_` was set. -/
  | destroy : b.control = .idle →
      Moves b .destroy
        { b with transport := if b.tp then b.transport ++ [.delete] else b.transport,
                 terminated := true, control := if b.terminated then .destroyed else .destroying }
  /-- The join in `close ()` returns, and the transport is closed if it is still set. -/
  | closeEnd (f : Option Int) (j : JoinCall) : b.control = .closing → b.JoinsAs none j →
      (b.tp = false ∨ f = none) →
      Moves b (.resume f)
        { b with joins := b.joins ++ [j], control := .idle, tp := false,
                 transport := if b.tp then b.transport ++ [.close (b.conn.error != 0)] else b.transport }
  /-- The join in `close ()` returns, `tp_->close` throws, and `gcomm_close`'s handler hands the
  error to `handle_up` on the control thread. -/
  | closeThrew (e : Int) (j : JoinCall) {b' : Backend} : b.control = .closing → b.JoinsAs none j →
      b.tp = true →
      handleUp { b with joins := b.joins ++ [j],
                        transport := b.transport ++ [.closeThrew (b.conn.error != 0) e] } none []
        (failMeta e) = some b' →
      Moves b (.resume (some e)) { b' with control := .idle }
  /-- The join in `~GCommConn` returns. -/
  | destroyEnd (f : Option Int) (j : JoinCall) : b.control = .destroying → b.JoinsAs none j →
      Moves b (.resume f) { b with joins := b.joins ++ [j], control := .destroyed }
  /-- `gcomm_send` reaches `send_down`. -/
  | send (env : SendEnv) (buf : Bytes) (mt : Nat) : b.conn.error = 0 →
      Moves b (.send env buf mt) { b with sent := b.sent ++ [(buf, mt)] }
  /-- `gcomm_param_set` reaches `set_param`. -/
  | paramSet (key value : Bytes) (r : SetParam) : b.conn.error = 0 →
      Moves b (.paramSet key value r) { b with params := b.params ++ [(key, value)] }
  /-- `gcomm_recv` on a set `backend->conn`: only the receive side changes. -/
  | recv (hd : GcsHeaders) (msg : RecvMsg) {conn : GCommConn} {msg' : RecvMsg} {v : Int} :
      b.control.detached = false → gcommRecv hd b.conn msg = some (conn, msg', v) →
      Moves b (.recv hd msg) { b with conn := conn }
  /-- Thread `i` checks `error_`. -/
  | check (i : Nat) : b.threadAt i = .check →
      Moves b (.run i) (b.setThread i (if b.conn.error ≠ 0 then .exited else .loop))
  /-- Thread `i` checks `terminated_`. -/
  | loop (i : Nat) : b.threadAt i = .loop →
      Moves b (.run i) (b.setThread i (if b.terminated then .exited else .events))
  /-- Thread `i`'s `event_loop` hands a datagram to `handle_up`. -/
  | up {i : Nat} {dg : Bytes} {um : ProtoUpMeta} {b' : Backend} : b.threadAt i = .events →
      b.handleUp (some i) dg um = some b' → Moves b (.event i (.up dg um)) b'
  /-- Thread `i`'s `event_loop` returns. -/
  | done (i : Nat) : b.threadAt i = .events → Moves b (.event i .done) (b.setThread i .loop)
  /-- Thread `i`'s `event_loop` throws, and `run ()` hands the error to `handle_up` and returns. -/
  | fail {i : Nat} {e : Int} {b' : Backend} : b.threadAt i = .events →
      b.handleUp (some i) [] (failMeta e) = some b' → Moves b (.event i (.fail e)) (b'.setThread i .exited)

/-- `gcomm_send` records a send exactly when `error_` is 0. -/
theorem gcommSend_fst (env : SendEnv) (buf : Bytes) (mt : Nat) :
    (b.gcommSend env buf mt).1 = if b.conn.error ≠ 0 then b else { b with sent := b.sent ++ [(buf, mt)] } := by
  unfold gcommSend
  split_ifs <;> rfl

/-- `gcomm_param_set` records a parameter exactly when `error_` is 0, whatever `set_param` does. -/
theorem gcommParamSet_fst (key value : Bytes) (r : SetParam) :
    (b.gcommParamSet key value r).1 =
      if b.conn.error ≠ 0 then b else { b with params := b.params ++ [(key, value)] } := by
  unfold gcommParamSet
  split_ifs
  · rfl
  · split <;> rfl

/-- Every step that can be taken is one of the moves. -/
theorem step_moves {op : BackendOp} {r : Option CallResult} (h : b.step op = some (b', r)) :
    b.Moves op b' := by
  cases op with
  | «open» bs env =>
    simp only [Backend.step] at h
    split at h <;> simp only [Option.some.injEq, Prod.mk.injEq, reduceCtorEq] at h <;>
      obtain ⟨rfl, -⟩ := h
    exacts [.connect bs env ‹_›, .same _]
  | close =>
    simp only [Backend.step] at h
    split at h <;> (try split_ifs at h) <;> simp only [Option.some.injEq, Prod.mk.injEq, reduceCtorEq] at h <;>
      obtain ⟨rfl, -⟩ := h
    exacts [.close ‹_› ‹_›, .same _, .same _]
  | destroy =>
    simp only [Backend.step] at h
    split at h <;> try simp only [Option.some.injEq, Prod.mk.injEq, reduceCtorEq] at h
    · have hm := Moves.destroy ‹_›
      obtain ⟨⟩ := b
      split_ifs at h <;> simp_all [terminate]
    · exact h.1 ▸ .same _
  | resume f =>
    simp only [Backend.step] at h
    split at h <;> try simp only [reduceCtorEq] at h
    · obtain ⟨b1, h1, h2⟩ := Option.bind_eq_some.1 h
      obtain ⟨j, rfl, hj⟩ := joinThd_eq h1
      cases f with
      | none =>
        simp only [Option.some.injEq, Prod.mk.injEq] at h2
        obtain ⟨rfl, -⟩ := h2
        simpa using Moves.closeEnd none j ‹_› hj (.inr rfl)
      | some e =>
        cases htp : b.tp <;> simp only [htp, Option.some.injEq, Prod.mk.injEq] at h2
        · obtain ⟨rfl, -⟩ := h2
          simpa [htp] using Moves.closeEnd (some e) j ‹_› hj (.inl htp)
        · obtain ⟨b2, h3, h4⟩ := Option.map_eq_some'.1 h2
          cases h4
          exact .closeThrew e j ‹_› hj htp (by rw [htp]; exact h3)
    · obtain ⟨b1, h1, h2⟩ := Option.map_eq_some'.1 h
      cases h2
      obtain ⟨j, rfl, hj⟩ := joinThd_eq h1
      exact .destroyEnd f j ‹_› hj
  | send env buf mt =>
    simp only [Backend.step] at h
    split_ifs at h <;> simp only [Option.some.injEq, Prod.mk.injEq] at h <;> obtain ⟨rfl, -⟩ := h
    · exact .same _
    · rw [gcommSend_fst]
      split_ifs with he
      exacts [.same _, .send env buf mt (not_not.1 he)]
  | paramSet key value res =>
    simp only [Backend.step] at h
    split_ifs at h <;> simp only [Option.some.injEq, Prod.mk.injEq] at h <;> obtain ⟨rfl, -⟩ := h
    · exact .same _
    · rw [gcommParamSet_fst]
      split_ifs with he
      exacts [.same _, .paramSet key value res (not_not.1 he)]
  | msgSize mtu =>
    simp only [Backend.step] at h
    split_ifs at h <;> simp only [Option.some.injEq, Prod.mk.injEq] at h <;> obtain ⟨rfl, -⟩ := h <;>
      exact .same _
  | statusGet =>
    simp only [Backend.step] at h
    split_ifs at h <;> simp only [Option.some.injEq, Prod.mk.injEq] at h <;> obtain ⟨rfl, -⟩ := h <;>
      exact .same _
  | recv hd msg =>
    simp only [Backend.step] at h
    split_ifs at h with hd0
    · simp only [Option.some.injEq, Prod.mk.injEq] at h
      exact h.1 ▸ .same _
    · obtain ⟨⟨conn, msg', v⟩, h1, h2⟩ := Option.map_eq_some'.1 h
      cases h2
      exact .recv hd msg (by simpa using hd0) h1
  | run i =>
    obtain ⟨b1, h1, h2⟩ := Option.map_eq_some'.1 h
    cases h2
    unfold runStep at h1
    split at h1 <;> simp only [Option.some.injEq, reduceCtorEq] at h1 <;> subst h1
    exacts [.check i ‹_›, .loop i ‹_›]
  | event i ev =>
    obtain ⟨b1, h1, h2⟩ := Option.map_eq_some'.1 h
    cases h2
    unfold eventStep at h1
    split_ifs at h1 with hi
    cases ev with
    | up dg um => exact .up hi h1
    | done => cases h1; exact .done i hi
    | fail e =>
      obtain ⟨b2, h2, rfl⟩ := Option.map_eq_some'.1 h1
      exact .fail hi h2

end Backend

/-! ## Runs -/

namespace Backend

@[simp]
theorem exec_nil (b : Backend) : b.exec [] = some (b, []) := rfl

theorem exec_cons (b : Backend) (op : BackendOp) (ops : List BackendOp) :
    b.exec (op :: ops) = (b.step op).bind fun (b', r) =>
      (b'.exec ops).map fun (b'', outs) => (b'', (r.map (op, ·)).toList ++ outs) := rfl

/-- A property that every allowed step keeps holds at the end of every schedule of allowed steps,
and what each returning call gives satisfies `Q` when the calls satisfy `R`. -/
theorem exec_inv {P : Backend → Prop} {S : BackendOp → Prop} {R Q : BackendOp → CallResult → Prop}
    (hstep : ∀ {b b' op r}, P b → S op → b.step op = some (b', r) → (∀ v, r = some v → R op v) →
      P b' ∧ ∀ v, r = some v → Q op v) :
    ∀ {ops b b' outs}, P b → (∀ op ∈ ops, S op) → b.exec ops = some (b', outs) →
      (∀ x ∈ outs, R x.1 x.2) → P b' ∧ ∀ x ∈ outs, Q x.1 x.2
  | [], _, _, _, hp, _, h, _ => by
    obtain ⟨rfl, rfl⟩ := Prod.mk.inj (Option.some.inj h)
    exact ⟨hp, by simp⟩
  | op :: ops, b, b', outs, hp, hs, h, hr => by
    obtain ⟨⟨b1, r⟩, h1, h2⟩ := Option.bind_eq_some.1 h
    obtain ⟨⟨b2, outs2⟩, h3, h4⟩ := Option.map_eq_some'.1 h2
    cases h4
    have hr1 : ∀ v, r = some v → R op v := fun v hv => hr (op, v) (by simp [hv])
    obtain ⟨hp1, hq1⟩ := hstep hp (hs op (.head _)) h1 hr1
    obtain ⟨hp2, hq2⟩ := exec_inv hstep hp1 (fun o ho => hs o (.tail _ ho)) h3
      (fun x hx => hr x (by simp [hx]))
    refine ⟨hp2, fun x hx => ?_⟩
    simp only [List.mem_append, Option.mem_toList, Option.mem_def, Option.map_eq_some'] at hx
    rcases hx with ⟨v, hv, rfl⟩ | hx
    · exact hq1 v hv
    · exact hq2 x hx

end Backend

/-! ## Environments to run schedules on -/

/-- What `connect` calls outside this file all succeed, with the nil uuid. -/
def okEnv : ConnectEnv := ⟨0, none, none, Uuid.nil⟩

/-- A `gcomm_open` whose thread creation fails with `EAGAIN`. -/
def noThreadEnv : ConnectEnv := ⟨EAGAIN, none, none, Uuid.nil⟩

end GaleraStateTransfer
