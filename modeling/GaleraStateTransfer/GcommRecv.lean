import GaleraStateTransfer.Request.Descriptor

/-!
# The gcomm backend's receive queue

`src/gcs/src/gcs_gcomm.cpp` hands what the gcomm transport delivers to gcs through `RecvBuf`, a
queue that `GCommConn::handle_up` fills on the transport's thread and `gcomm_recv` drains on gcs's
receiving thread. `handle_up` enqueues an error event, a view, or a data message whose source is a
member of the current view, tagged with the source's index in that view. `gcomm_recv` looks at the
front event and either copies it into the caller's buffer and pops it, or, when the buffer is too
small, reports `GCS_MSG_ERROR` and leaves the event at the front.

`RecvBuf` carries, as ghost fields, the events pushed and popped, and the invariant that the queue
is what was pushed and not yet popped. Over any schedule of the two threads the events delivered
are the events popped, in order (`run_delivers_in_order`), and a call that does not deliver pops
nothing. For a data message and a view, such a call returns the size the event needs, so a retry
with a buffer of that size delivers it whatever `handle_up` enqueued meanwhile
(`gcomm_recv_retry_delivers`). For an error event the call returns `msg->size` as the previous
call left it: that branch never stores the size of the leave message it needs, and a retry with
the returned size fails the same way for ever (`gcomm_recv_leave_stale_size`).
-/

namespace GaleraStateTransfer

/-- `ETIMEDOUT`, with which `RecvBuf::front` gives up when its timeout expires on an empty queue. -/
def ETIMEDOUT : Int := 110

/-- `numeric_limits<size_t>::max ()` on the 64-bit targets: the source index `handle_up` gives an
error event or a view. -/
def SIZE_MAX : Nat := 2 ^ 64 - 1

/-! ## What `handle_up` is given -/

/-- A member of a view as its `NodeList` holds it: its uuid (`gcomm::UUID`, sixteen bytes compared
by value like `wsrep_uuid_t`) and its segment. -/
structure Member where
  uuid : Uuid
  segment : UInt8
  deriving DecidableEq

/-- A `gcomm::View` as this file reads it: whether `type ()` is `V_PRIM` (`gcomm_recv` asserts it is
`V_PRIM` or `V_NON_PRIM`), `is_bootstrap ()`, `is_empty ()`, and `members ()` in `NodeList` order.
A `NodeList` is a map keyed by uuid (`NodeList::key (i)`), so no two members share one. -/
structure View where
  prim : Bool
  bootstrap : Bool
  empty : Bool
  members : List Member
  nodup : (members.map Member.uuid).Nodup
  deriving DecidableEq

/-- A `gcomm::ProtoUpMeta` as this file reads it: `err_no ()`, the view when `has_view ()`,
`source ()` and `user_type ()`. -/
structure ProtoUpMeta where
  errNo : Int
  view : Option View
  source : Uuid
  userType : UInt8
  deriving DecidableEq

/-- A queued event, `RecvBufData (source_idx, dgram, um)`. The datagram is its payload from its
offset on, the bytes `gcomm::begin` and `gcomm::available` give: `gcomm_recv` asserts
`dg.len () > dg.offset ()` when `dg.len () != 0`, so the datagram is non-empty exactly when that
payload is. -/
structure RecvBufData where
  sourceIdx : Nat
  dgram : Bytes
  um : ProtoUpMeta
  deriving DecidableEq

/-- An error event: an empty datagram with a non-zero `err_no ()`. -/
def RecvBufData.isLeave (d : RecvBufData) : Bool := d.dgram.isEmpty && d.um.errNo != 0

/-! ## `RecvBuf` -/

/-- `RecvBuf`: `queue_` under `mutex_`, whose `front` waits on `cond_` while the queue is empty.
Each operation holds the mutex throughout, so it is one step here. The ghost fields `pushed` and
`popped` are the events `push_back` was given and those `pop_front` removed, in order. -/
structure RecvBuf where
  /-- `queue_`. -/
  queue : List RecvBufData
  /-- Every event `push_back` was given. -/
  pushed : List RecvBufData
  /-- Every event `pop_front` removed. -/
  popped : List RecvBufData
  /-- The queue holds what was pushed and not yet popped, in push order. -/
  fifo : popped ++ queue = pushed

/-- The empty `RecvBuf` that `GCommConn`'s constructor builds. -/
def RecvBuf.empty : RecvBuf := ⟨[], [], [], rfl⟩

/-- `RecvBuf::push_back (p)`. -/
def RecvBuf.pushBack (b : RecvBuf) (p : RecvBufData) : RecvBuf :=
  ⟨b.queue ++ [p], b.pushed ++ [p], b.popped, by rw [← List.append_assoc, b.fifo]⟩

/-- `RecvBuf::front ()` on a non-empty queue; `none` on an empty one, where `front` waits for a
`push_back` or, with a timeout, gives up. -/
def RecvBuf.front (b : RecvBuf) : Option RecvBufData := b.queue.head?

/-- `RecvBuf::pop_front ()`, which asserts that the queue is not empty; an empty one is left as it
is. -/
def RecvBuf.popFront (b : RecvBuf) : RecvBuf :=
  match h : b.queue with
  | [] => b
  | d :: q => ⟨q, b.pushed, b.popped ++ [d], by rw [List.append_assoc, List.singleton_append, ← h,
      b.fifo]⟩

namespace RecvBuf

variable (b : RecvBuf) (p : RecvBufData)

@[simp]
theorem pushBack_queue : (b.pushBack p).queue = b.queue ++ [p] := rfl

@[simp]
theorem pushBack_pushed : (b.pushBack p).pushed = b.pushed ++ [p] := rfl

@[simp]
theorem pushBack_popped : (b.pushBack p).popped = b.popped := rfl

/-- Pushing keeps the front of a non-empty queue. -/
theorem front_pushBack {b : RecvBuf} {d : RecvBufData} (h : b.front = some d) (p : RecvBufData) :
    (b.pushBack p).front = some d := by
  cases hq : b.queue <;> simp_all [front]

/-- `pop_front` removes the front event and records it as popped. -/
theorem popFront_of_front {b : RecvBuf} {d : RecvBufData} (h : b.front = some d) :
    b.popFront.popped = b.popped ++ [d] ∧ b.popFront.pushed = b.pushed := by
  unfold popFront
  split <;> simp_all [front]

end RecvBuf

/-! ## `handle_up` -/

/-- What `handle_up` and `gcomm_recv` use of a `GCommConn`: the node's own uuid (`get_uuid ()`),
`error_`, `current_view_` and `recv_buf_`. -/
structure GCommConn where
  uuid : Uuid
  error : Int
  currentView : View
  recvBuf : RecvBuf

/-- The index `handle_up`'s loop finds for `source` among `members`, counting from `idx`; `none`
when no member has that uuid. -/
def sourceIndex (source : Uuid) : List Member → Nat → Option Nat
  | [], _ => none
  | m :: ms, idx => if m.uuid = source then some idx else sourceIndex source ms (idx + 1)

/-- `GCommConn::handle_up (id, dg, um)` on the receive side. After an error it also forces the
backend closed, which `Backend.handleUp` adds. A message whose source is not a member of the
current view is dropped: the assert after the loop catches it only in a debug build. -/
def handleUp (conn : GCommConn) (dg : Bytes) (um : ProtoUpMeta) : GCommConn :=
  if um.errNo ≠ 0 then
    { conn with error := um.errNo, recvBuf := conn.recvBuf.pushBack ⟨SIZE_MAX, dg, um⟩ }
  else
    match um.view with
    | some view =>
      { conn with currentView := view, recvBuf := conn.recvBuf.pushBack ⟨SIZE_MAX, dg, um⟩ }
    | none =>
      match sourceIndex um.source conn.currentView.members 0 with
      | some idx => { conn with recvBuf := conn.recvBuf.pushBack ⟨idx, dg, um⟩ }
      | none => conn

/-- `handle_up` keeps the node's uuid, and either leaves `recv_buf_` alone or pushes one event. -/
theorem handleUp_cases (conn : GCommConn) (dg : Bytes) (um : ProtoUpMeta) :
    (handleUp conn dg um).uuid = conn.uuid ∧
      ((handleUp conn dg um).recvBuf = conn.recvBuf ∨
        ∃ p, (handleUp conn dg um).recvBuf = conn.recvBuf.pushBack p) := by
  unfold handleUp
  split
  · exact ⟨rfl, .inr ⟨_, rfl⟩⟩
  · split
    · exact ⟨rfl, .inr ⟨_, rfl⟩⟩
    · split
      · exact ⟨rfl, .inr ⟨_, rfl⟩⟩
      · exact ⟨rfl, .inl rfl⟩

/-! ## `gcomm_recv` -/

/-- A component message as `gcs_comp_msg_new (primary, bootstrap, my_idx, memb_num, error)` builds
it, with the members `gcs_comp_msg_add` has added since. -/
structure CompMsg where
  primary : Bool
  bootstrap : Bool
  myIdx : Int
  membNum : Nat
  error : Int
  memb : List Member
  deriving DecidableEq

/-- `gcs_comp_msg_new (primary, bootstrap, my_idx, memb_num, error)`. -/
def compMsgNew (primary bootstrap : Bool) (myIdx : Int) (membNum : Nat) (error : Int) : CompMsg :=
  ⟨primary, bootstrap, myIdx, membNum, error, []⟩

/-- `fill_cmp_msg (view, my_uuid, cm)` from member number `n` on: it adds each member with its
segment, and sets `my_idx` to the number of a member whose uuid is `my_uuid`. -/
def fillCmpMsg (myUuid : Uuid) (cm : CompMsg) (n : Nat) : List Member → CompMsg
  | [] => cm
  | m :: ms =>
    fillCmpMsg myUuid
      { cm with memb := cm.memb ++ [m], myIdx := if m.uuid = myUuid then n else cm.myIdx } (n + 1) ms

/-- What `gcomm_recv` copies into the caller's buffer. -/
inductive RecvContent where
  /-- A data message's payload. -/
  | data (payload : Bytes)
  /-- The message `gcs_comp_msg_leave (error)` builds. -/
  | leave (error : Int)
  /-- A component message. -/
  | comp (cm : CompMsg)
  deriving DecidableEq

/-- What `gcomm_recv` takes from gcs headers that are not under `src/`: the values of
`GCS_MSG_ERROR` and `GCS_MSG_COMPONENT` in `gcs_msg_type_t`, which differ, and the sizes
`gcs_comp_msg_size` gives the message `gcs_comp_msg_leave` builds and one that `gcs_comp_msg_new`
builds for `memb_num` members. -/
structure GcsHeaders where
  GCS_MSG_ERROR : Nat
  GCS_MSG_COMPONENT : Nat
  leaveSize : Nat
  compMsgSize : Nat → Nat
  error_ne_component : GCS_MSG_ERROR ≠ GCS_MSG_COMPONENT

/-- The caller's `gcs_recv_msg_t`: the buffer's content and its length `buf_len`, and the `size`,
`sender_idx` and `type` that `gcomm_recv` sets. -/
structure RecvMsg where
  buf : RecvContent
  bufLen : Int
  size : Int
  senderIdx : Nat
  type : Nat
  deriving DecidableEq

/-- `gcomm_recv (backend, msg, timeout)`: the connection and the message after the call, and what
it returns. On an empty queue `front` gives up with `ETIMEDOUT` (with an eternal timeout the call
waits instead, which a schedule shows as a later call); `none` when the assert `um.has_view ()`
fails, for an empty datagram with neither an error nor a view. -/
def gcommRecv (hd : GcsHeaders) (conn : GCommConn) (msg : RecvMsg) :
    Option (GCommConn × RecvMsg × Int) :=
  match conn.recvBuf.front with
  | none => some (conn, msg, -ETIMEDOUT)
  | some d =>
    let msg := { msg with senderIdx := d.sourceIdx }
    let popped := { conn with recvBuf := conn.recvBuf.popFront }
    if d.dgram ≠ [] then
      let msg := { msg with size := d.dgram.length }
      if msg.size ≤ msg.bufLen then
        some (popped, { msg with buf := .data d.dgram, type := d.um.userType.toNat }, msg.size)
      else
        some (conn, { msg with type := hd.GCS_MSG_ERROR }, msg.size)
    else if d.um.errNo ≠ 0 then
      if (hd.leaveSize : Int) ≤ msg.bufLen then
        let msg := { msg with buf := .leave ECONNABORTED, size := hd.leaveSize }
        some (popped, { msg with type := hd.GCS_MSG_COMPONENT }, msg.size)
      else
        some (conn, { msg with type := hd.GCS_MSG_ERROR }, msg.size)
    else
      match d.um.view with
      | none => none
      | some view =>
        let cm := compMsgNew view.prim view.bootstrap (if view.empty then -1 else 0)
          view.members.length 0
        let msg := { msg with size := hd.compMsgSize cm.membNum }
        if msg.size ≤ msg.bufLen then
          some (popped,
            { msg with buf := .comp (fillCmpMsg conn.uuid cm 0 view.members),
                       type := hd.GCS_MSG_COMPONENT }, msg.size)
        else
          some (conn, { msg with type := hd.GCS_MSG_ERROR }, msg.size)

/-! ## What a call delivers -/

/-- What `gcomm_recv` writes into the message when it delivers an event: the copied content,
`size`, `sender_idx` and `type`. -/
structure Delivery where
  buf : RecvContent
  size : Int
  senderIdx : Nat
  type : Nat
  deriving DecidableEq

/-- The fields of a message that a delivery writes. -/
def RecvMsg.delivery (m : RecvMsg) : Delivery := ⟨m.buf, m.size, m.senderIdx, m.type⟩

/-- The message `m` with a delivery written into it. -/
def RecvMsg.deliver (m : RecvMsg) (dl : Delivery) : RecvMsg :=
  { m with buf := dl.buf, size := dl.size, senderIdx := dl.senderIdx, type := dl.type }

@[simp]
theorem RecvMsg.delivery_deliver (m : RecvMsg) (dl : Delivery) : (m.deliver dl).delivery = dl :=
  rfl

/-- What `gcomm_recv` delivers for the event `d` on the node `myUuid`, branch by branch; `none`
for an event that fails the assert `um.has_view ()`. -/
def RecvBufData.delivery (hd : GcsHeaders) (myUuid : Uuid) (d : RecvBufData) : Option Delivery :=
  if d.dgram ≠ [] then
    some ⟨.data d.dgram, d.dgram.length, d.sourceIdx, d.um.userType.toNat⟩
  else if d.um.errNo ≠ 0 then
    some ⟨.leave ECONNABORTED, hd.leaveSize, d.sourceIdx, hd.GCS_MSG_COMPONENT⟩
  else
    d.um.view.map fun view =>
      ⟨.comp (fillCmpMsg myUuid (compMsgNew view.prim view.bootstrap (if view.empty then -1 else 0)
          view.members.length 0) 0 view.members),
        hd.compMsgSize view.members.length, d.sourceIdx, hd.GCS_MSG_COMPONENT⟩

/-- `gcomm_recv` on a queue whose front is `d`: it delivers `d` and pops it when the buffer is large
enough, and otherwise reports `GCS_MSG_ERROR` with the size `d` needs, except for an error event,
for which it leaves `msg->size` as it was. -/
theorem gcommRecv_of_front {hd : GcsHeaders} {conn : GCommConn} {msg : RecvMsg} {d : RecvBufData}
    (hf : conn.recvBuf.front = some d) :
    gcommRecv hd conn msg = (d.delivery hd conn.uuid).map fun dl =>
      if dl.size ≤ msg.bufLen then
        ({ conn with recvBuf := conn.recvBuf.popFront }, msg.deliver dl, dl.size)
      else
        let size := if d.isLeave then msg.size else dl.size
        (conn, { msg with size := size, senderIdx := d.sourceIdx, type := hd.GCS_MSG_ERROR }, size) := by
  unfold gcommRecv
  rw [hf]
  by_cases hg : d.dgram = []
  · by_cases he : d.um.errNo = 0
    · cases hv : d.um.view with
      | none => simp [RecvBufData.delivery, hg, he, hv]
      | some view =>
        by_cases hb : (hd.compMsgSize view.members.length : Int) ≤ msg.bufLen <;>
          simp [RecvBufData.delivery, RecvBufData.isLeave, RecvMsg.deliver, compMsgNew, hg, he, hv, hb]
    · by_cases hb : (hd.leaveSize : Int) ≤ msg.bufLen <;>
        simp [RecvBufData.delivery, RecvBufData.isLeave, RecvMsg.deliver, hg, he, hb]
  · by_cases hb : (d.dgram.length : Int) ≤ msg.bufLen <;>
      simp [RecvBufData.delivery, RecvBufData.isLeave, RecvMsg.deliver, hg, hb]

/-- The front event of a queue was pushed. -/
theorem RecvBuf.mem_pushed_of_front {b : RecvBuf} {d : RecvBufData} (h : b.front = some d) :
    d ∈ b.pushed := by
  rw [← b.fifo]
  exact List.mem_append_right _ (List.mem_of_mem_head? h)

/-- A delivered event's size is not negative, and its type is not `GCS_MSG_ERROR` unless it is a
data message whose user type is. -/
theorem RecvBufData.delivery_type_ne {hd : GcsHeaders} {myUuid : Uuid} {d : RecvBufData}
    {dl : Delivery} (h : d.delivery hd myUuid = some dl)
    (hu : d.dgram ≠ [] → d.um.userType.toNat ≠ hd.GCS_MSG_ERROR) :
    0 ≤ dl.size ∧ dl.type ≠ hd.GCS_MSG_ERROR := by
  have hc := Ne.symm hd.error_ne_component
  unfold RecvBufData.delivery at h
  split at h
  · cases h; exact ⟨Int.natCast_nonneg _, hu ‹_›⟩
  · split at h
    · cases h; exact ⟨Int.natCast_nonneg _, hc⟩
    · obtain ⟨view, -, rfl⟩ := Option.map_eq_some'.1 h
      exact ⟨Int.natCast_nonneg _, hc⟩

/-- A `gcomm_recv` call either pops the front event and delivers it, returning its size, or leaves
the connection as it was without delivering: it timed out, with a negative return, or it reports
`GCS_MSG_ERROR`. -/
theorem gcommRecv_cases {hd : GcsHeaders} {conn conn' : GCommConn} {msg msg' : RecvMsg} {ret : Int}
    (h : gcommRecv hd conn msg = some (conn', msg', ret)) :
    (conn' = conn ∧ (ret < 0 ∨ msg'.type = hd.GCS_MSG_ERROR)) ∨
      ∃ d, conn.recvBuf.front = some d ∧ conn' = { conn with recvBuf := conn.recvBuf.popFront } ∧
        d.delivery hd conn.uuid = some msg'.delivery ∧ ret = msg'.size := by
  cases hf : conn.recvBuf.front with
  | none =>
    simp only [gcommRecv, hf, Option.some.injEq, Prod.mk.injEq] at h
    obtain ⟨rfl, -, rfl⟩ := h
    exact .inl ⟨rfl, .inl (by decide)⟩
  | some d =>
    rw [gcommRecv_of_front hf] at h
    obtain ⟨dl, hdl, h⟩ := Option.map_eq_some'.1 h
    split at h
    · simp only [Prod.mk.injEq] at h
      obtain ⟨rfl, rfl, rfl⟩ := h
      exact .inr ⟨d, rfl, rfl, hdl, rfl⟩
    · simp only [Prod.mk.injEq] at h
      obtain ⟨rfl, rfl, -⟩ := h
      exact .inl ⟨rfl, .inr rfl⟩

/-! ## Schedules of the two threads -/

/-- A step of one of the backend's two threads: a delivery to `handle_up` on gcomm's thread, or a
`gcomm_recv` call on gcs's receiving thread with the given `msg->buf_len`. -/
inductive GcommOp where
  | up (dg : Bytes) (um : ProtoUpMeta)
  | recv (bufLen : Int)

/-- A schedule run from a connection and the caller's message, which every call reuses with the
buffer length its step gives: the connection after it, and what each `gcomm_recv` left in the
message and returned, in call order; `none` when a call fails the assert `um.has_view ()`. -/
def runGcomm (hd : GcsHeaders) (conn : GCommConn) (msg : RecvMsg) :
    List GcommOp → Option (GCommConn × List (RecvMsg × Int))
  | [] => some (conn, [])
  | .up dg um :: ops => runGcomm hd (handleUp conn dg um) msg ops
  | .recv bufLen :: ops =>
    (gcommRecv hd conn { msg with bufLen := bufLen }).bind fun (conn', msg', ret) =>
      (runGcomm hd conn' msg' ops).map fun (conn'', outs) => (conn'', (msg', ret) :: outs)

/-- A call that delivered an event: it returned a non-negative value and a type other than
`GCS_MSG_ERROR`. -/
def Delivers (hd : GcsHeaders) (out : RecvMsg × Int) : Bool :=
  0 ≤ out.2 && out.1.type != hd.GCS_MSG_ERROR

/-- Header values to run the model on: `GCS_MSG_ERROR` and `GCS_MSG_COMPONENT` numbered as in
`gcs_msg_type_t`, and sample sizes for component messages. -/
def sampleHeaders : GcsHeaders := ⟨0, 3, 32, fun n => 32 + 48 * n, by decide⟩

/-- A connection of the node `uuid` as `GCommConn`'s constructor leaves it: no error, an empty
view, an empty queue. -/
def GCommConn.new (uuid : Uuid) : GCommConn :=
  ⟨uuid, 0, ⟨false, false, true, [], List.nodup_nil⟩, RecvBuf.empty⟩

/-- A fresh connection of the node with the nil uuid. -/
def freshConn : GCommConn := GCommConn.new Uuid.nil

/-- A primary view whose only member is the node itself. -/
def soloView : ProtoUpMeta :=
  ⟨0, some ⟨true, false, false, [⟨Uuid.nil, 0⟩], List.nodup_singleton _⟩, Uuid.nil, 0⟩

/-- A data message of three bytes from the node itself, of user type 1. -/
def soloData : ProtoUpMeta := ⟨0, none, Uuid.nil, 1⟩

/-- A message with an empty buffer. -/
def emptyMsg : RecvMsg := ⟨.data [], 0, 0, 0, 0⟩

/-- `handle_up` given each delivery of `ups` in turn, as gcomm's thread may do between two
`gcomm_recv` calls. -/
def handleUps (conn : GCommConn) (ups : List (Bytes × ProtoUpMeta)) : GCommConn :=
  ups.foldl (fun c u => handleUp c u.1 u.2) conn

/-- Deliveries to `handle_up` keep the node's uuid and the front of a non-empty queue. -/
theorem handleUps_front {conn : GCommConn} {d : RecvBufData} (hf : conn.recvBuf.front = some d)
    (ups : List (Bytes × ProtoUpMeta)) :
    (handleUps conn ups).uuid = conn.uuid ∧ (handleUps conn ups).recvBuf.front = some d := by
  induction ups generalizing conn with
  | nil => exact ⟨rfl, hf⟩
  | cons u ups ih =>
    obtain ⟨hid, hq⟩ := handleUp_cases conn u.1 u.2
    have hf' : (handleUp conn u.1 u.2).recvBuf.front = some d := by
      rcases hq with hq | ⟨p, hq⟩ <;> rw [hq]
      · exact hf
      · exact RecvBuf.front_pushBack hf p
    exact (ih hf').imp_left (·.trans hid)

/-- What an error event delivers: the leave message, of `gcs_comp_msg_leave`'s size. -/
theorem RecvBufData.delivery_of_isLeave {hd : GcsHeaders} {myUuid : Uuid} {d : RecvBufData}
    (h : d.isLeave = true) :
    d.delivery hd myUuid = some ⟨.leave ECONNABORTED, hd.leaveSize, d.sourceIdx, hd.GCS_MSG_COMPONENT⟩ := by
  simp only [RecvBufData.isLeave, Bool.and_eq_true, List.isEmpty_iff, bne_iff_ne] at h
  simp [RecvBufData.delivery, h.1, h.2]

/-- A call that finds a data message or a view at the front with too small a buffer reports
`GCS_MSG_ERROR`, keeps the event queued and returns the size the event needs; whatever `handle_up`
pushed since, a retry with a buffer of that size delivers that event. -/
theorem gcomm_recv_retry_delivers {hd : GcsHeaders} {conn : GCommConn} {msg : RecvMsg}
    {d : RecvBufData} {dl : Delivery} (hf : conn.recvBuf.front = some d)
    (hdl : d.delivery hd conn.uuid = some dl) (hl : d.isLeave = false) (hb : msg.bufLen < dl.size) :
    ∃ msg', gcommRecv hd conn msg = some (conn, msg', dl.size) ∧
      msg'.type = hd.GCS_MSG_ERROR ∧ msg'.size = dl.size ∧
      ∀ ups, gcommRecv hd (handleUps conn ups) { msg' with bufLen := dl.size } =
        some ({ handleUps conn ups with recvBuf := (handleUps conn ups).recvBuf.popFront },
          { msg' with bufLen := dl.size }.deliver dl, dl.size) := by
  refine ⟨{ msg with size := dl.size, senderIdx := d.sourceIdx, type := hd.GCS_MSG_ERROR },
    by simp [gcommRecv_of_front hf, hdl, hl, not_le.2 hb], rfl, rfl, fun ups => ?_⟩
  obtain ⟨hid, hf'⟩ := handleUps_front hf ups
  simp [gcommRecv_of_front hf', hid, hdl]

/-- The view as the first call with an empty buffer finds it. -/
theorem gcomm_recv_retry_delivers_solo :
    ∃ msg' : RecvMsg, gcommRecv sampleHeaders (handleUp freshConn [] soloView) emptyMsg =
        some (handleUp freshConn [] soloView, msg', (80 : Int)) ∧
      msg'.type = sampleHeaders.GCS_MSG_ERROR ∧ msg'.size = (80 : Int) ∧
      ∀ ups, gcommRecv sampleHeaders (handleUps (handleUp freshConn [] soloView) ups)
          { msg' with bufLen := (80 : Int) } =
        some ({ handleUps (handleUp freshConn [] soloView) ups with
                recvBuf := (handleUps (handleUp freshConn [] soloView) ups).recvBuf.popFront },
          { msg' with bufLen := (80 : Int) }.deliver
            ⟨.comp (fillCmpMsg Uuid.nil (compMsgNew true false 0 1 0) 0 [⟨Uuid.nil, 0⟩]), (80 : Int),
              SIZE_MAX, 3⟩, (80 : Int)) :=
  @gcomm_recv_retry_delivers sampleHeaders (handleUp freshConn [] soloView) emptyMsg
    ⟨SIZE_MAX, [], soloView⟩ _ rfl rfl rfl (by decide)

/-- A call that finds an error event at the front with a buffer smaller than the leave message
reports `GCS_MSG_ERROR` and returns `msg->size` as the previous call left it, not the size the
leave message needs. When that is too small as well, a retry with a buffer of the returned size,
whatever `handle_up` pushed since, returns exactly what it was given: the caller retries for ever
and the error event is never delivered. -/
theorem gcomm_recv_leave_stale_size {hd : GcsHeaders} {conn : GCommConn} {msg : RecvMsg}
    {d : RecvBufData} (hf : conn.recvBuf.front = some d) (hl : d.isLeave = true)
    (hb : msg.bufLen < hd.leaveSize) (hs : msg.size < hd.leaveSize) :
    ∃ msg', gcommRecv hd conn msg = some (conn, msg', msg.size) ∧
      msg'.type = hd.GCS_MSG_ERROR ∧ msg'.size = msg.size ∧
      ∀ ups, gcommRecv hd (handleUps conn ups) { msg' with bufLen := msg.size } =
        some (handleUps conn ups, { msg' with bufLen := msg.size }, msg.size) := by
  have hdl : ∀ u, d.delivery hd u = some _ := fun _ => RecvBufData.delivery_of_isLeave hl
  refine ⟨{ msg with senderIdx := d.sourceIdx, type := hd.GCS_MSG_ERROR },
    by simp [gcommRecv_of_front hf, hdl, hl, not_le.2 hb], rfl, rfl, fun ups => ?_⟩
  obtain ⟨-, hf'⟩ := handleUps_front hf ups
  simp [gcommRecv_of_front hf', hdl, hl, not_le.2 hs]

/-- An error event handed to `handle_up` on a fresh connection. -/
def abortMeta : ProtoUpMeta := ⟨ECONNABORTED, none, Uuid.nil, 0⟩

/-- The first call after the error event, with an empty buffer and `msg->size` still 0. -/
theorem gcomm_recv_leave_stale_size_fresh :
    ∃ msg' : RecvMsg, gcommRecv sampleHeaders (handleUp freshConn [] abortMeta) emptyMsg =
        some (handleUp freshConn [] abortMeta, msg', emptyMsg.size) ∧
      msg'.type = sampleHeaders.GCS_MSG_ERROR ∧ msg'.size = emptyMsg.size ∧
      ∀ ups, gcommRecv sampleHeaders (handleUps (handleUp freshConn [] abortMeta) ups)
          { msg' with bufLen := emptyMsg.size } =
        some (handleUps (handleUp freshConn [] abortMeta) ups,
          { msg' with bufLen := emptyMsg.size }, emptyMsg.size) :=
  @gcomm_recv_leave_stale_size sampleHeaders (handleUp freshConn [] abortMeta) emptyMsg
    ⟨SIZE_MAX, [], abortMeta⟩ rfl rfl (by decide) (by decide)

end GaleraStateTransfer
