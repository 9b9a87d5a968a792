import GaleraStateTransfer.GcommConn

/-!
# gcs's receiving thread on the whole backend

gcs's receiving thread calls `gcomm_recv` while the control thread opens, closes and destroys the
backend and the gcomm threads hand events to `handle_up`. Only `handle_up` pushes onto `recv_buf_`,
from a gcomm thread or from `gcomm_close`'s handler, and only `gcomm_recv` pops from it. So between
two `gcomm_open` calls, the only calls that set the node's uuid, the receiving thread loses and
duplicates nothing, whatever the interleaving (`backend_recv_in_order`): what
`run_delivers_in_order` says of the receive side alone holds of the whole backend.
-/

namespace GaleraStateTransfer

/-! ## What a step hands the receiving thread -/

/-- A step that keeps the node's uuid, with gcs's receive calls built against the header constants
`hd`: anything but `gcomm_open`, the one call that sets `uuid_`. -/
def BackendOp.keepsNode (hd : GcsHeaders) : BackendOp → Prop
  | .open .. => False
  | .recv hd' _ => hd' = hd
  | _ => True

/-- What a receive call left in the caller's message and returned. -/
def BackendOp.received : BackendOp → CallResult → Option (RecvMsg × Int)
  | .recv .., .received msg v => some (msg, v)
  | _, _ => none

@[simp]
theorem BackendOp.received_recv (hd : GcsHeaders) (msg m : RecvMsg) (v : Int) :
    (BackendOp.recv hd msg).received (.received m v) = some (m, v) := rfl

/-- Only a receive call leaves a message. -/
theorem BackendOp.received_eq_none {op : BackendOp} (h : ∀ hd msg, op ≠ .recv hd msg) (v : CallResult) :
    op.received v = none := by
  unfold BackendOp.received
  split
  exacts [absurd rfl (h _ _), rfl]

/-- The receive calls among a schedule's returned calls, in order: each message `gcomm_recv` left
and what it returned. -/
def receivedCalls (outs : List (BackendOp × CallResult)) : List (RecvMsg × Int) :=
  outs.filterMap fun x => x.1.received x.2

namespace Backend

variable {b b' : Backend}

/-- `handle_up` on the thread `c` does the receive side's `handle_up` to `conn`. -/
theorem handleUp_conn {c : Option Nat} {dg : Bytes} {um : ProtoUpMeta} (h : b.handleUp c dg um = some b') :
    b'.conn = GaleraStateTransfer.handleUp b.conn dg um := by
  rcases handleUp_eq h with ⟨-, rfl⟩ | ⟨-, b1, -, rfl⟩ <;> rfl

/-- A move other than `gcomm_open` and `gcomm_recv` leaves the receive side alone or hands one
event to its `handle_up`. -/
theorem Moves.conn_eq {op : BackendOp} (hm : b.Moves op b') (ho : ∀ bs env, op ≠ .open bs env)
    (hr : ∀ hd msg, op ≠ .recv hd msg) :
    b'.conn = b.conn ∨ ∃ dg um, b'.conn = GaleraStateTransfer.handleUp b.conn dg um := by
  cases hm with
  | connect bs env _ => exact absurd rfl (ho bs env)
  | recv hd msg _ _ => exact absurd rfl (hr hd msg)
  | up _ hu => exact .inr ⟨_, _, handleUp_conn hu⟩
  | fail _ hu => have h1 := handleUp_conn hu; exact .inr ⟨_, _, h1⟩
  | closeThrew _ _ _ _ _ hu => have h1 := handleUp_conn hu; exact .inr ⟨_, _, h1⟩
  | _ => exact .inl rfl

/-- What one step does to the queue gcs's receiving thread reads, and what it delivers: the queue
gains at most an event at its back and the step delivers nothing, or a receive call pops the front
event and delivers it. -/
theorem step_recvBuf {hd : GcsHeaders} {op : BackendOp} {r : Option CallResult}
    (h : b.step op = some (b', r)) (hop : op.keepsNode hd) :
    b'.conn.uuid = b.conn.uuid ∧
      ((b.conn.recvBuf.pushed <+: b'.conn.recvBuf.pushed ∧ b'.conn.recvBuf.popped = b.conn.recvBuf.popped ∧
          ((r.map (op, ·)).toList.filterMap fun x => x.1.received x.2).filter (Delivers hd) = []) ∨
        ∃ d msg', b.conn.recvBuf.front = some d ∧ b'.conn.recvBuf = b.conn.recvBuf.popFront ∧
          d.delivery hd b.conn.uuid = some msg'.delivery ∧
          ((r.map (op, ·)).toList.filterMap fun x => x.1.received x.2) = [(msg', msg'.size)]) := by
  have hnone : ∀ {v : Int} {msg : RecvMsg}, (v < 0 ∨ msg.type = hd.GCS_MSG_ERROR) →
      Delivers hd (msg, v) = false := by
    rintro v msg (hv | hv) <;> simp [Delivers, hv]
  by_cases hrecv : ∃ hd' msg, op = .recv hd' msg
  · obtain ⟨hd', msg, rfl⟩ := hrecv
    obtain rfl : hd = hd' := hop.symm
    simp only [Backend.step] at h
    split_ifs at h with hd0
    · -- `backend->conn` is null: `-EBADFD`
      simp only [Option.some.injEq, Prod.mk.injEq] at h
      obtain ⟨rfl, rfl⟩ := h
      have hn : Delivers hd (msg, -EBADFD) = false := hnone (.inl (by decide))
      exact ⟨rfl, .inl ⟨List.prefix_refl _, rfl, by simp [hn]⟩⟩
    · obtain ⟨⟨conn, msg', v⟩, h1, h2⟩ := Option.map_eq_some'.1 h
      cases h2
      rcases gcommRecv_cases h1 with ⟨rfl, hv⟩ | ⟨d, hf, rfl, hdl, rfl⟩
      · exact ⟨rfl, .inl ⟨List.prefix_refl _, rfl, by simp [hnone hv]⟩⟩
      · exact ⟨rfl, .inr ⟨d, msg', hf, rfl, hdl, by simp⟩⟩
  · have hr : ∀ hd msg, op ≠ .recv hd msg := fun hd msg he => hrecv ⟨hd, msg, he⟩
    have ho : ∀ bs env, op ≠ .open bs env := by
      rintro bs env rfl
      exact hop
    -- the receive side is left alone, or given one event
    have hc : b'.conn.uuid = b.conn.uuid ∧ b.conn.recvBuf.pushed <+: b'.conn.recvBuf.pushed ∧
        b'.conn.recvBuf.popped = b.conn.recvBuf.popped := by
      rcases (step_moves h).conn_eq ho hr with he | ⟨dg, um, he⟩ <;> rw [he]
      · exact ⟨rfl, List.prefix_refl _, rfl⟩
      · obtain ⟨hid, hq | ⟨p, hq⟩⟩ := handleUp_cases b.conn dg um <;> rw [hq]
        · exact ⟨hid, List.prefix_refl _, rfl⟩
        · exact ⟨hid, List.prefix_append _ _, rfl⟩
    refine ⟨hc.1, .inl ⟨hc.2.1, hc.2.2, ?_⟩⟩
    cases r <;> simp [BackendOp.received_eq_none hr]

end Backend

/-- Whatever the control thread and the gcomm threads do between two `gcomm_open` calls (closes
and destroys included, with the events the gcomm threads and `gcomm_close`'s handler hand to
`handle_up`), gcs's receiving thread loses and duplicates nothing, provided no data message carries
the user type `GCS_MSG_ERROR`: the events pushed only grow, and the `gcomm_recv` calls that deliver
an event deliver the events popped, one each and in call order. -/
theorem backend_recv_in_order {hd : GcsHeaders} {b b' : Backend} {ops : List BackendOp}
    {outs : List (BackendOp × CallResult)} (h : b.exec ops = some (b', outs))
    (hops : ∀ op ∈ ops, op.keepsNode hd)
    (hu : ∀ d ∈ b'.conn.recvBuf.pushed, d.dgram ≠ [] → d.um.userType.toNat ≠ hd.GCS_MSG_ERROR) :
    b'.conn.uuid = b.conn.uuid ∧ b.conn.recvBuf.pushed <+: b'.conn.recvBuf.pushed ∧
      ∃ ds, b'.conn.recvBuf.popped = b.conn.recvBuf.popped ++ ds ∧
        List.Forall₂ (fun out d => d.delivery hd b.conn.uuid = some out.1.delivery ∧ out.2 = out.1.size)
          ((receivedCalls outs).filter (Delivers hd)) ds := by
  induction ops generalizing b outs with
  | nil =>
    obtain ⟨rfl, rfl⟩ := Prod.mk.inj (Option.some.inj h)
    exact ⟨rfl, List.prefix_refl _, [], by simp, by simp [receivedCalls]⟩
  | cons op ops ih =>
    obtain ⟨⟨b1, r⟩, h1, h2⟩ := Option.bind_eq_some.1 h
    obtain ⟨⟨b2, outs2⟩, h3, h4⟩ := Option.map_eq_some'.1 h2
    cases h4
    obtain ⟨hid', hp, ds, hds, hf⟩ := ih h3 (fun o ho => hops o (.tail _ ho))
    obtain ⟨hid, hq⟩ := Backend.step_recvBuf h1 (hops op (.head _))
    simp only [receivedCalls, List.filterMap_append, List.filter_append] at hf ⊢
    rcases hq with ⟨hpush, hpop, hr⟩ | ⟨d, msg', hfront, hq, hdl, hr⟩
    · -- the step delivers nothing
      rw [hr, List.nil_append]
      exact ⟨hid'.trans hid, hpush.trans hp, ds, by rw [hds, hpop], hid ▸ hf⟩
    · -- a receive call delivers the front event
      obtain ⟨hpop, hpush⟩ := RecvBuf.popFront_of_front hfront
      rw [hq] at hp hds
      have hmem : d ∈ b'.conn.recvBuf.pushed := hp.subset (hpush ▸ RecvBuf.mem_pushed_of_front hfront)
      obtain ⟨hsz, hty⟩ := RecvBufData.delivery_type_ne hdl (hu d hmem)
      have hy : Delivers hd (msg', msg'.size) = true := by
        simp [Delivers, show 0 ≤ msg'.size from hsz, show msg'.type ≠ hd.GCS_MSG_ERROR from hty]
      refine ⟨hid'.trans hid, hpush ▸ hp, d :: ds, by rw [hds, hpop, List.append_assoc, List.singleton_append], ?_⟩
      rw [hr, List.filter_singleton, hy, cond_true, List.singleton_append]
      exact .cons ⟨hdl, rfl⟩ (hid ▸ hf)

/-- The backend as `gcomm_open` left it, its thread about to check `error_`. -/
def openedBackend : Backend := (Backend.new.gcommOpen false okEnv).1

/-- The gcomm thread hands the node's own view and a data message to `handle_up`; a receive call
with an empty buffer reports `GCS_MSG_ERROR`; `gcomm_close` runs to its end while the receiving
thread takes the view, and then the data message. -/
def closeWhileReceiving : List BackendOp :=
  [.run 0, .run 0, .event 0 (.up [] soloView), .event 0 (.up [1, 2, 3] soloData),
    .recv sampleHeaders emptyMsg, .close, .recv sampleHeaders { emptyMsg with bufLen := 80 },
    .event 0 .done, .run 0, .resume none, .recv sampleHeaders { emptyMsg with bufLen := 3 }]

theorem backend_recv_in_order_close :
    ∃ b' outs, openedBackend.exec closeWhileReceiving = some (b', outs) ∧
      (∀ op ∈ closeWhileReceiving, op.keepsNode sampleHeaders) ∧
      (∀ d ∈ b'.conn.recvBuf.pushed, d.dgram ≠ [] → d.um.userType.toNat ≠ sampleHeaders.GCS_MSG_ERROR) ∧
      (b'.conn.uuid = openedBackend.conn.uuid ∧ openedBackend.conn.recvBuf.pushed <+: b'.conn.recvBuf.pushed ∧
        ∃ ds, b'.conn.recvBuf.popped = openedBackend.conn.recvBuf.popped ++ ds ∧
          List.Forall₂
            (fun out d => d.delivery sampleHeaders openedBackend.conn.uuid = some out.1.delivery ∧
              out.2 = out.1.size)
            ((receivedCalls outs).filter (Delivers sampleHeaders)) ds) :=
  have hk : ∀ op ∈ closeWhileReceiving, op.keepsNode sampleHeaders :=
    List.forall_iff_forall_mem.1 (by repeat' constructor)
  ⟨_, _, rfl, hk, by decide, @backend_recv_in_order sampleHeaders openedBackend _ closeWhileReceiving _ rfl hk
    (by decide)⟩

end GaleraStateTransfer
