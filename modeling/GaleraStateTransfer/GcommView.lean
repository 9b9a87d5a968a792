import GaleraStateTransfer.GcommRecv

/-!
# Member indices across views

gcs names the sender of a data message by `msg->sender_idx`, an index into the members of the
component message it received last. Two loops of `src/gcs/src/gcs_gcomm.cpp` produce the two
sides: `GCommConn::handle_up` tags a data message with the index of its source in `current_view_`,
and `fill_cmp_msg` numbers the members of a queued view when `gcomm_recv` turns it into a
component message.

`handle_up` installs each view it pushes, so the view it searches for a data message is the last
view event pushed before that message. The invariant `ViewIndexed` says so of the whole queue: every
data event names its source by the source's position in that view (`ViewIndexed.handleUps`).
`fill_cmp_msg` lists the members in the view's order and, since a `NodeList` has one member per
uuid, sets `my_idx` to the node's own position; the two numberings therefore agree
(`handle_up_tags_view_index`).
-/

namespace GaleraStateTransfer

/-! ## The two numberings -/

/-- `handle_up`'s loop finds the first member whose uuid is `source`, numbered from `idx`. -/
theorem sourceIndex_eq (source : Uuid) (ms : List Member) (idx : Nat) :
    sourceIndex source ms idx =
      if source ∈ ms.map Member.uuid then some (idx + (ms.map Member.uuid).indexOf source)
      else none := by
  induction ms generalizing idx with
  | nil => rfl
  | cons m ms ih =>
    by_cases hm : m.uuid = source
    · simp [sourceIndex, hm, List.indexOf_cons_self]
    · rw [sourceIndex, if_neg hm, ih, List.map_cons, List.indexOf_cons_ne _ hm]
      simp only [List.mem_cons, Ne.symm hm, false_or, Nat.succ_eq_add_one, Nat.add_assoc,
        Nat.add_comm 1]

/-- `fill_cmp_msg` appends the members in order. -/
theorem fillCmpMsg_memb (myUuid : Uuid) (cm : CompMsg) (n : Nat) (ms : List Member) :
    (fillCmpMsg myUuid cm n ms).memb = cm.memb ++ ms := by
  induction ms generalizing cm n with
  | nil => simp [fillCmpMsg]
  | cons m ms ih => simp [fillCmpMsg, ih]

/-- On members of distinct uuids, `fill_cmp_msg` sets `my_idx` to the number of the node's own
member, and leaves it alone when the node is not a member. -/
theorem fillCmpMsg_myIdx (myUuid : Uuid) (cm : CompMsg) (n : Nat) (ms : List Member)
    (hms : (ms.map Member.uuid).Nodup) :
    (fillCmpMsg myUuid cm n ms).myIdx =
      if myUuid ∈ ms.map Member.uuid then ((n + (ms.map Member.uuid).indexOf myUuid : Nat) : Int)
      else cm.myIdx := by
  induction ms generalizing cm n with
  | nil => rfl
  | cons m ms ih =>
    rw [List.map_cons, List.nodup_cons] at hms
    rw [fillCmpMsg, ih _ _ hms.2]
    by_cases hm : m.uuid = myUuid
    · subst hm
      simp [hms.1, List.indexOf_cons_self]
    · simp only [List.map_cons, List.mem_cons, Ne.symm hm, false_or, if_neg hm,
        List.indexOf_cons_ne _ hm]
      split <;> simp only [Nat.succ_eq_add_one]; omega

/-- The component message `gcomm_recv` builds from `view` on the node `myUuid`. -/
def viewCompMsg (myUuid : Uuid) (view : View) : CompMsg :=
  fillCmpMsg myUuid
    (compMsgNew view.prim view.bootstrap (if view.empty then -1 else 0) view.members.length 0) 0
    view.members

/-! ## The views `handle_up` installs -/

/-- The view `handle_up` installed when it pushed `d`: the event's view, unless it is an error
event. -/
def RecvBufData.installs (d : RecvBufData) : Option View :=
  if d.um.errNo = 0 then d.um.view else none

/-- A data event: `handle_up`'s last branch pushed it, with neither an error nor a view. -/
def RecvBufData.isData (d : RecvBufData) : Bool :=
  d.um.errNo == 0 && d.um.view.isNone

/-- The view of the last view event among `evs`. -/
def lastView (evs : List RecvBufData) : Option View :=
  (evs.filterMap RecvBufData.installs).getLast?

/-- The last view of one event is the view it installs. -/
theorem lastView_singleton (d : RecvBufData) : lastView [d] = d.installs := by
  cases h : d.installs <;> simp [lastView, h]

/-- Read from the front, an event's view is current until a later view event replaces it. -/
theorem lastView_cons_getD (d : RecvBufData) (evs : List RecvBufData) (v : View) :
    (lastView (d :: evs)).getD v = (lastView evs).getD (d.installs.getD v) := by
  cases h : d.installs <;> simp [lastView, List.filterMap_cons, h, List.getLast?_cons]

/-- The view current after `xs ++ ys` is the one current after `ys`, from the one after `xs`. -/
theorem lastView_append_getD (xs ys : List RecvBufData) (v : View) :
    (lastView (xs ++ ys)).getD v = (lastView ys).getD ((lastView xs).getD v) := by
  induction xs generalizing v with
  | nil => rfl
  | cons d xs ih => rw [List.cons_append, lastView_cons_getD, ih, lastView_cons_getD]

/-- What `handle_up` requires of a data event it pushes with the view `v` current: the event's
source is a member of `v`, and its index is the source's position there. -/
def IndexedIn (v : View) (d : RecvBufData) : Prop :=
  d.um.source ∈ v.members.map Member.uuid ∧
    d.sourceIdx = (v.members.map Member.uuid).indexOf d.um.source

/-- Every data event of `evs` is indexed in the view installed last before it, `v` standing for
the view current before `evs`. -/
def Indexed (v : View) : List RecvBufData → Prop
  | [] => True
  | d :: ds => (d.isData = true → IndexedIn v d) ∧ Indexed (d.installs.getD v) ds

/-- `Indexed` splits along a concatenation, the second part read from the view the first leaves. -/
theorem indexed_append (v : View) (xs ys : List RecvBufData) :
    Indexed v (xs ++ ys) ↔ Indexed v xs ∧ Indexed ((lastView xs).getD v) ys := by
  induction xs generalizing v with
  | nil => simp [Indexed, lastView]
  | cons d xs ih => simp [Indexed, ih, lastView_cons_getD, and_assoc]

/-- What `handle_up` keeps of a connection that started from the view `v0` with nothing pushed. -/
structure ViewIndexed (v0 : View) (conn : GCommConn) : Prop where
  /-- `current_view_` is the view of the last view event pushed. -/
  current : conn.currentView = (lastView conn.recvBuf.pushed).getD v0
  /-- Every data event pushed is indexed in the view installed last before it. -/
  indexed : Indexed v0 conn.recvBuf.pushed

/-- One `handle_up` keeps the invariant. -/
theorem ViewIndexed.handleUp {v0 : View} {conn : GCommConn} (hi : ViewIndexed v0 conn)
    (dg : Bytes) (um : ProtoUpMeta) : ViewIndexed v0 (handleUp conn dg um) := by
  -- what the pushed event `p` adds, with the view that was current
  have push : ∀ (c : GCommConn) (p : RecvBufData),
      c.currentView = p.installs.getD conn.currentView → (p.isData = true → IndexedIn conn.currentView p) →
      c.recvBuf = conn.recvBuf.pushBack p → ViewIndexed v0 c := by
    intro c p hc hp hb
    rw [hi.current] at hc hp
    refine ⟨?_, ?_⟩
    · rw [hb, RecvBuf.pushBack_pushed, lastView_append_getD, lastView_singleton, hc]
    · rw [hb, RecvBuf.pushBack_pushed, indexed_append]
      exact ⟨hi.indexed, hp, trivial⟩
  unfold GaleraStateTransfer.handleUp
  by_cases he : um.errNo = 0
  · rw [if_neg (not_not.2 he)]
    cases hv : um.view with
    | some view =>
      exact push _ _ (by simp [RecvBufData.installs, he, hv]) (by simp [RecvBufData.isData, hv]) rfl
    | none =>
      dsimp only
      rw [sourceIndex_eq]
      by_cases hs : um.source ∈ conn.currentView.members.map Member.uuid
      · rw [if_pos hs]
        exact push _ _ (by simp [RecvBufData.installs, hv]) (fun _ => ⟨hs, by simp⟩) rfl
      · rw [if_neg hs]
        exact hi
  · rw [if_pos he]
    exact push _ _ (by simp [RecvBufData.installs, he]) (by simp [RecvBufData.isData, he]) rfl

/-- Any sequence of `handle_up` calls keeps the invariant. -/
theorem ViewIndexed.handleUps {v0 : View} {conn : GCommConn} (hi : ViewIndexed v0 conn)
    (ups : List (Bytes × ProtoUpMeta)) : ViewIndexed v0 (handleUps conn ups) := by
  induction ups generalizing conn with
  | nil => exact hi
  | cons u ups ih => exact ih (hi.handleUp u.1 u.2)

/-- A new connection keeps it from its empty view. -/
theorem viewIndexed_new (uuid : Uuid) :
    ViewIndexed (GCommConn.new uuid).currentView (GCommConn.new uuid) :=
  ⟨rfl, trivial⟩

/-- For every sequence of deliveries to `handle_up` on a new connection, every data event pushed
follows a view event, and its source index is its source's position in the last view pushed before
it; so no data message is pushed whose source is not in that view. The component message
`gcomm_recv` builds from that view lists its members in that order, so the data event's index
names its source's slot there, and when the node is a member it has `my_idx` at its own
position. -/
theorem handle_up_tags_view_index (uuid : Uuid) (ups : List (Bytes × ProtoUpMeta))
    (pre post : List RecvBufData) (d : RecvBufData)
    (h : (handleUps (GCommConn.new uuid) ups).recvBuf.pushed = pre ++ d :: post)
    (hd : d.isData = true) :
    ∃ view, lastView pre = some view ∧
      d.um.source ∈ view.members.map Member.uuid ∧
      d.sourceIdx = (view.members.map Member.uuid).indexOf d.um.source ∧
      (viewCompMsg uuid view).memb = view.members ∧
      (uuid ∈ view.members.map Member.uuid →
        (viewCompMsg uuid view).myIdx = (view.members.map Member.uuid).indexOf uuid) := by
  have hx := ((viewIndexed_new uuid).handleUps ups).indexed
  rw [h, indexed_append] at hx
  obtain ⟨hm, hidx⟩ := hx.2.1 hd
  cases hl : lastView pre with
  | none => simp [hl, GCommConn.new] at hm
  | some view =>
    rw [hl] at hm hidx
    refine ⟨view, rfl, hm, hidx, by simp [viewCompMsg, fillCmpMsg_memb, compMsgNew], fun hu => ?_⟩
    simp [viewCompMsg, fillCmpMsg_myIdx _ _ _ _ view.nodup, hu]

/-- The view with the node alone, then a data message from the node: the message is tagged 0, the
node's slot in the component message, where the node's `my_idx` is 0 too. -/
theorem handle_up_tags_view_index_solo :
    ∃ view, lastView [⟨SIZE_MAX, [], soloView⟩] = some view ∧
      soloData.source ∈ view.members.map Member.uuid ∧
      0 = (view.members.map Member.uuid).indexOf soloData.source ∧
      (viewCompMsg Uuid.nil view).memb = view.members ∧
      (Uuid.nil ∈ view.members.map Member.uuid →
        (viewCompMsg Uuid.nil view).myIdx = (view.members.map Member.uuid).indexOf Uuid.nil) :=
  handle_up_tags_view_index Uuid.nil [([], soloView), ([1, 2, 3], soloData)]
    [⟨SIZE_MAX, [], soloView⟩] [] ⟨0, [1, 2, 3], soloData⟩ rfl rfl

end GaleraStateTransfer
