import GaleraStateTransfer.Bytes

/-!
# The state request envelope

`StateRequest_v0` and `StateRequest_v1` of `src/galera/src/replicator_str.cpp`, the v1 encoding
and decoding constructors, and `read_state_request`. A v1 request is the buffer

  `"STRv1" NUL | htogl (sst_len) | sst | htogl (ist_len) | ist`

and its accessors read the two length prefixes back from the buffer, as the C++ accessors do: the
decoded object is the buffer and its length, and nothing else.

The encoder's image is `layout NUL sst ist` (`encode_ok`). Every such buffer, with any byte in
place of the NUL, is accepted by `read_state_request` and yields the two parts
(`decode_layout`), and every buffer that the decoder accepts is such a layout (`decode_sound`).
The decoder compares only the five bytes of `MAGIC` and never reads the sixth.
-/

namespace GaleraStateTransfer

/-- `StateRequest_v1::MAGIC`. -/
def MAGIC : Bytes := ascii "STRv1"

@[simp]
theorem length_MAGIC : MAGIC.length = 5 := rfl

/-- A decoded or encoded v1 request: the buffer `req_` of length `len_`. -/
structure StateRequestV1 where
  /-- `len_`. -/
  len : Nat
  /-- `req_`. -/
  req : Bytes
  deriving DecidableEq, Repr

namespace StateRequestV1

/-- `sst_offset ()`: the SST part's length prefix follows the magic and its NUL. -/
def sstOffset : Nat := MAGIC.length + 1

/-- `len (offset)`: the length prefix at `offset`. -/
def lenAt (r : StateRequestV1) (offset : Nat) : Nat := gtohl r.req offset

/-- `req (offset)`: a pointer to the part after the prefix at `offset`, null when it is empty. -/
def reqAt (r : StateRequestV1) (offset : Nat) : Option Nat :=
  if r.lenAt offset > 0 then some (offset + 4) else none

/-- `sst_len ()`. -/
def sstLen (r : StateRequestV1) : Nat := r.lenAt sstOffset

/-- `sst_req ()`. -/
def sstReq (r : StateRequestV1) : Option Nat := r.reqAt sstOffset

/-- `ist_offset ()`: the IST part's length prefix follows the SST part. -/
def istOffset (r : StateRequestV1) : Nat := sstOffset + 4 + r.sstLen

/-- `ist_len ()`. -/
def istLen (r : StateRequestV1) : Nat := r.lenAt r.istOffset

/-- `ist_req ()`. -/
def istReq (r : StateRequestV1) : Option Nat := r.reqAt r.istOffset

/-- The bytes that `sst_req ()` points at, `sst_len ()` of them. -/
def sstSlice (r : StateRequestV1) : Bytes := deref r.req r.sstReq r.sstLen

/-- The bytes that `ist_req ()` points at, `ist_len ()` of them. -/
def istSlice (r : StateRequestV1) : Bytes := deref r.req r.istReq r.istLen

/-- A part read through `req (offset)` is the part after the prefix, also when it is empty. -/
theorem deref_reqAt (r : StateRequestV1) (offset : Nat) :
    deref r.req (r.reqAt offset) (r.lenAt offset) = deref r.req (some (offset + 4)) (r.lenAt offset) := by
  unfold reqAt
  split
  · rfl
  · have h0 : r.lenAt offset = 0 := by omega
    rw [h0]
    rfl

@[simp]
theorem length_sstSlice (r : StateRequestV1) : r.sstSlice.length = r.sstLen := by
  rw [sstSlice, sstReq, sstLen, deref_reqAt, length_deref_some]

@[simp]
theorem length_istSlice (r : StateRequestV1) : r.istSlice.length = r.istLen := by
  rw [istSlice, istReq, istLen, deref_reqAt, length_deref_some]

/-- The encoding constructor `StateRequest_v1 (sst_req, sst_req_len, ist_req, ist_req_len)`. A
length is never negative here, so of its two checks only the bound `INT32_MAX` can fail. -/
def encode (sst ist : Bytes) : Except Int StateRequestV1 :=
  let req := MAGIC ++ [NUL] ++ htogl sst.length ++ sst ++ htogl ist.length ++ ist
  if sst.length > INT32_MAX then .error EMSGSIZE
  else if ist.length > INT32_MAX then .error EMSGSIZE
  else .ok ⟨MAGIC.length + 1 + 4 + sst.length + 4 + ist.length, req⟩

/-- The decoding constructor `StateRequest_v1 (str, str_len)`, with its four checks in order. -/
def decode (str : Bytes) (str_len : Nat) : Except Int StateRequestV1 :=
  let r : StateRequestV1 := ⟨str_len, str⟩
  if sstOffset + 2 * 4 > str_len then .error EINVAL
  else if !strncmpEq MAGIC.length str MAGIC then .error EINVAL
  else if sstOffset + r.sstLen + 2 * 4 > str_len then .error EINVAL
  else if r.istOffset + r.istLen + 4 ≠ str_len then .error EINVAL
  else .ok r

end StateRequestV1

/-- `ReplicatorSMM::StateRequest`: a v0 request is its buffer and length, all of it the SST part. -/
inductive StateRequest where
  | v0 (req : Bytes) (len : Nat)
  | v1 (r : StateRequestV1)
  deriving DecidableEq, Repr

namespace StateRequest

/-- `req ()`: the buffer. -/
def req : StateRequest → Bytes
  | v0 req _ => req
  | v1 r => r.req

/-- `len ()`. -/
def len : StateRequest → Nat
  | v0 _ len => len
  | v1 r => r.len

/-- `sst_req ()`: a v0 request's SST part starts at its buffer. -/
def sstReq : StateRequest → Option Nat
  | v0 _ _ => some 0
  | v1 r => r.sstReq

/-- `sst_len ()`. -/
def sstLen : StateRequest → Nat
  | v0 _ len => len
  | v1 r => r.sstLen

/-- `ist_req ()`: a v0 request has no IST part. -/
def istReq : StateRequest → Option Nat
  | v0 _ _ => none
  | v1 r => r.istReq

/-- `ist_len ()`. -/
def istLen : StateRequest → Nat
  | v0 _ _ => 0
  | v1 r => r.istLen

/-- The bytes of the SST part. -/
def sstSlice (s : StateRequest) : Bytes := deref s.req s.sstReq s.sstLen

/-- The bytes of the IST part. -/
def istSlice (s : StateRequest) : Bytes := deref s.req s.istReq s.istLen

@[simp] theorem sstSlice_v1 (r : StateRequestV1) : (v1 r).sstSlice = r.sstSlice := rfl
@[simp] theorem istSlice_v1 (r : StateRequestV1) : (v1 r).istSlice = r.istSlice := rfl
@[simp] theorem sstLen_v1 (r : StateRequestV1) : (v1 r).sstLen = r.sstLen := rfl
@[simp] theorem istLen_v1 (r : StateRequestV1) : (v1 r).istLen = r.istLen := rfl
@[simp] theorem sstLen_v0 (b : Bytes) (n : Nat) : (v0 b n).sstLen = n := rfl
@[simp] theorem istLen_v0 (b : Bytes) (n : Nat) : (v0 b n).istLen = 0 := rfl

/-- A v0 request over a whole buffer has that buffer as its SST part. -/
@[simp]
theorem sstSlice_v0 (b : Bytes) : (v0 b b.length).sstSlice = b := by
  simpa [sstSlice, req, sstReq] using deref_append [] b []

end StateRequest

/-- `read_state_request (req, req_len)`: a buffer longer than the magic that starts with it is
decoded as v1, anything else is v0. -/
def readStateRequest (req : Bytes) (req_len : Nat) : Except Int StateRequest :=
  if req_len > MAGIC.length && strncmpEq MAGIC.length req MAGIC then
    StateRequest.v1 <$> StateRequestV1.decode req req_len
  else .ok (.v0 req req_len)

/-! ## The trivial sentinel -/

/-- `ReplicatorSMM::TRIVIAL_SST`. Modelled from the spec (§4.4): the constant is not under `src/`. -/
def TRIVIAL_SST : Bytes := ascii "trivial"

/-- `sst_is_trivial (req, len)`: the request starts with the C string `TRIVIAL_SST`, its NUL
included. -/
def sstIsTrivial (req : Bytes) (len : Nat) : Bool :=
  let trivial_len := TRIVIAL_SST.length + 1
  len ≥ trivial_len && memcmpEq req TRIVIAL_SST trivial_len

/-! ## The encoder's image -/

/-- The buffer of a v1 request with parts `sst` and `ist`, and the byte `x` after the magic. -/
def layout (x : UInt8) (sst ist : Bytes) : Bytes :=
  MAGIC ++ [x] ++ htogl sst.length ++ sst ++ htogl ist.length ++ ist

@[simp]
theorem length_layout (x : UInt8) (sst ist : Bytes) :
    (layout x sst ist).length = 14 + sst.length + ist.length := by
  simp [layout]
  omega

/-- The magic is not a prefix of a C string that ends early. -/
theorem NUL_not_mem_MAGIC : NUL ∉ MAGIC.take MAGIC.length := by decide

/-- `strncmp` against the magic compares the first five bytes. -/
theorem strncmpEq_MAGIC (m : Bytes) : strncmpEq 5 m MAGIC = true ↔ m.take 5 = MAGIC :=
  strncmpEq_iff MAGIC.length m MAGIC le_rfl NUL_not_mem_MAGIC

/-- Every layout starts with the magic, as `strncmp` sees it. -/
@[simp]
theorem strncmpEq_layout (x : UInt8) (sst ist : Bytes) :
    strncmpEq 5 (layout x sst ist) MAGIC = true := by
  rw [strncmpEq_MAGIC]
  simp [layout]

namespace StateRequestV1

variable (n : Nat) (x : UInt8) (sst ist : Bytes)

/-- The SST prefix of a layout reads back the SST part's length. -/
theorem sstLen_layout (hs : sst.length < 2^32) : (⟨n, layout x sst ist⟩ : StateRequestV1).sstLen = sst.length := by
  have h := gtohl_append_htogl (MAGIC ++ [x]) (sst ++ (htogl ist.length ++ ist)) sst.length
  simp only [List.append_assoc, List.singleton_append, List.length_append, length_MAGIC,
    List.length_singleton, Nat.mod_eq_of_lt hs] at h
  simpa [sstLen, lenAt, sstOffset, layout] using h

/-- The IST prefix of a layout reads back the IST part's length. -/
theorem istLen_layout (hs : sst.length < 2^32) (hi : ist.length < 2^32) :
    (⟨n, layout x sst ist⟩ : StateRequestV1).istLen = ist.length := by
  have h := gtohl_append_htogl (MAGIC ++ [x] ++ htogl sst.length ++ sst) ist ist.length
  simp only [List.append_assoc, List.singleton_append, List.length_append, length_MAGIC,
    List.length_singleton, length_htogl, List.append_nil, Nat.mod_eq_of_lt hi] at h
  simp only [istLen, lenAt, istOffset, sstLen_layout n x sst ist hs, sstOffset, length_MAGIC]
  simpa [layout, Nat.add_comm, Nat.add_left_comm] using h

/-- The decoder accepts every layout, whatever byte follows the magic. -/
theorem decode_layout (hs : sst.length < 2^32) (hi : ist.length < 2^32) :
    decode (layout x sst ist) (layout x sst ist).length =
      .ok ⟨(layout x sst ist).length, layout x sst ist⟩ := by
  have e1 := sstLen_layout (layout x sst ist).length x sst ist hs
  have e2 := istLen_layout (layout x sst ist).length x sst ist hs hi
  have hl := length_layout x sst ist
  simp only [decode, istOffset, e1, e2, sstOffset, length_MAGIC, strncmpEq_layout]
  rw [if_neg (by omega), if_neg (by decide), if_neg (by omega), if_neg (by omega)]

/-- The SST part of a decoded layout is its `sst`. -/
theorem sstSlice_layout (hs : sst.length < 2^32) : (⟨n, layout x sst ist⟩ : StateRequestV1).sstSlice = sst := by
  rw [sstSlice, sstReq, sstLen, deref_reqAt, ← sstLen, sstLen_layout n x sst ist hs]
  simpa [layout, sstOffset] using deref_append (MAGIC ++ [x] ++ htogl sst.length) sst (htogl ist.length ++ ist)

/-- The IST part of a decoded layout is its `ist`. -/
theorem istSlice_layout (hs : sst.length < 2^32) (hi : ist.length < 2^32) :
    (⟨n, layout x sst ist⟩ : StateRequestV1).istSlice = ist := by
  rw [istSlice, istReq, istLen, deref_reqAt, ← istLen, istLen_layout n x sst ist hs hi, istOffset,
    sstLen_layout n x sst ist hs]
  have h := deref_append (MAGIC ++ [x] ++ htogl sst.length ++ sst ++ htogl ist.length) ist []
  simp only [List.append_nil, List.length_append, length_MAGIC, List.length_singleton,
    length_htogl] at h
  simpa [layout, sstOffset, Nat.add_comm, Nat.add_left_comm] using h

/-- A part is null exactly when it is empty. -/
theorem reqAt_eq_none (r : StateRequestV1) (offset : Nat) : r.reqAt offset = none ↔ r.lenAt offset = 0 := by
  unfold reqAt
  split <;> simp <;> omega

/-- Under the bound, the encoding constructor builds the layout with a NUL after the magic. -/
theorem encode_ok (hs : sst.length ≤ INT32_MAX) (hi : ist.length ≤ INT32_MAX) :
    encode sst ist = .ok ⟨(layout NUL sst ist).length, layout NUL sst ist⟩ := by
  simp only [encode]
  rw [if_neg (by omega), if_neg (by omega), length_layout]
  simp only [length_MAGIC, layout, Except.ok.injEq, StateRequestV1.mk.injEq, and_true]
  omega

end StateRequestV1

/-- `read_state_request` reads every layout as the v1 request over it. -/
theorem read_state_request_layout (x : UInt8) (sst ist : Bytes) (hs : sst.length < 2^32)
    (hi : ist.length < 2^32) :
    readStateRequest (layout x sst ist) (layout x sst ist).length =
      .ok (.v1 ⟨(layout x sst ist).length, layout x sst ist⟩) := by
  have hl := length_layout x sst ist
  simp only [readStateRequest, StateRequestV1.decode_layout x sst ist hs hi, length_MAGIC,
    strncmpEq_layout, Bool.and_true, decide_eq_true_eq]
  rw [if_pos (by omega)]
  rfl

/-- What the encoding constructor builds is read back as itself, with the same two parts. -/
theorem read_state_request_of_encode {sst ist : Bytes} {e : StateRequestV1}
    (h : StateRequestV1.encode sst ist = .ok e) :
    readStateRequest e.req e.len = .ok (.v1 e) ∧ e.sstSlice = sst ∧ e.istSlice = ist := by
  have hs : sst.length ≤ INT32_MAX := by
    by_contra hs
    rw [StateRequestV1.encode, if_pos (not_le.1 hs)] at h
    cases h
  have hi : ist.length ≤ INT32_MAX := by
    by_contra hi
    rw [StateRequestV1.encode, if_neg (not_lt.2 hs), if_pos (not_le.1 hi)] at h
    cases h
  rw [StateRequestV1.encode_ok sst ist hs hi, Except.ok.injEq] at h
  subst h
  have hs' : sst.length < 2^32 := by unfold INT32_MAX at hs; omega
  have hi' : ist.length < 2^32 := by unfold INT32_MAX at hi; omega
  exact ⟨read_state_request_layout NUL sst ist hs' hi', StateRequestV1.sstSlice_layout _ _ _ _ hs',
    StateRequestV1.istSlice_layout _ _ _ _ hs' hi'⟩

/-- Decoding what the encoding constructor built gives back both parts: a v1 request of
`14 + |sst| + |ist|` bytes whose lengths and slices are those of `sst` and `ist`, with a null
pointer exactly for an empty part. -/
theorem read_state_request_encode (sst ist : Bytes) (hs : sst.length ≤ INT32_MAX)
    (hi : ist.length ≤ INT32_MAX) :
    ∃ e, StateRequestV1.encode sst ist = .ok e ∧ e.len = 14 + sst.length + ist.length ∧
      e.req.length = e.len ∧
      ∃ r, readStateRequest e.req e.len = .ok (.v1 r) ∧ r.sstLen = sst.length ∧
        r.istLen = ist.length ∧ r.sstSlice = sst ∧ r.istSlice = ist ∧
        (r.sstReq = none ↔ sst.length = 0) ∧ (r.istReq = none ↔ ist.length = 0) := by
  have hs' : sst.length < 2^32 := by unfold INT32_MAX at hs; omega
  have hi' : ist.length < 2^32 := by unfold INT32_MAX at hi; omega
  refine ⟨_, StateRequestV1.encode_ok sst ist hs hi, length_layout _ _ _, rfl, _,
    read_state_request_layout NUL sst ist hs' hi', StateRequestV1.sstLen_layout _ _ _ _ hs',
    StateRequestV1.istLen_layout _ _ _ _ hs' hi', StateRequestV1.sstSlice_layout _ _ _ _ hs',
    StateRequestV1.istSlice_layout _ _ _ _ hs' hi', ?_, ?_⟩
  · rw [StateRequestV1.sstReq, StateRequestV1.reqAt_eq_none, ← StateRequestV1.sstLen,
      StateRequestV1.sstLen_layout _ _ _ _ hs']
  · rw [StateRequestV1.istReq, StateRequestV1.reqAt_eq_none, ← StateRequestV1.istLen,
      StateRequestV1.istLen_layout _ _ _ _ hs' hi']

/-- The round trip at `sst = "xb"` and an empty IST part. -/
theorem read_state_request_encode_xb :
    (ascii "xb").length ≤ INT32_MAX ∧ ([] : Bytes).length ≤ INT32_MAX ∧
      ∃ e, StateRequestV1.encode (ascii "xb") [] = .ok e ∧ e.len = 14 + 2 + 0 ∧ e.req.length = e.len ∧
        ∃ r, readStateRequest e.req e.len = .ok (.v1 r) ∧ r.sstLen = 2 ∧ r.istLen = 0 ∧
          r.sstSlice = ascii "xb" ∧ r.istSlice = [] ∧ (r.sstReq = none ↔ 2 = 0) ∧
          (r.istReq = none ↔ 0 = 0) :=
  ⟨by decide, by decide, read_state_request_encode (ascii "xb") [] (by decide) (by decide)⟩

/-! ## What the decoder accepts -/

/-- A suffix of a buffer splits into its first `n` bytes and the rest. -/
theorem drop_eq_take_append_drop (m : Bytes) (p n : Nat) :
    m.drop p = (m.drop p).take n ++ m.drop (p + n) := by
  rw [← List.drop_drop, List.take_append_drop]

/-- Inside the buffer, a pointer and a length read the bytes there. -/
theorem deref_eq_take_drop (m : Bytes) (p n : Nat) (h : p + n ≤ m.length) :
    deref m (some p) n = (m.drop p).take n := by
  apply List.ext_getElem (by simp; omega)
  intro i h1 h2
  simp only [deref, List.getElem_map, List.getElem_range, List.getElem_take, List.getElem_drop]
  rw [List.getD_eq_getElem _ _ (by simp at h1; omega)]

/-- Four bytes read as a word and written back are the same four bytes. -/
theorem htogl_gtohl_append (a : Bytes) (b0 b1 b2 b3 : UInt8) (rest : Bytes) :
    htogl (gtohl (a ++ b0 :: b1 :: b2 :: b3 :: rest) a.length) = [b0, b1, b2, b3] := by
  have e0 : (a ++ b0 :: b1 :: b2 :: b3 :: rest).getD a.length 0 = b0 := by
    simpa using getD_append_length_add a (b0 :: b1 :: b2 :: b3 :: rest) 0 0
  have h0 := b0.toBitVec.isLt
  have h1 := b1.toBitVec.isLt
  have h2 := b2.toBitVec.isLt
  have h3 := b3.toBitVec.isLt
  simp only [gtohl, e0, getD_append_length_add, List.getD_cons_succ, List.getD_cons_zero, htogl,
    List.cons.injEq, and_true]
  refine ⟨?_, ?_, ?_, ?_⟩ <;> apply UInt8.toNat.inj <;>
    simp only [Nat.toUInt8, UInt8.toNat, UInt8.ofNat, BitVec.toNat_ofNat] at * <;> omega

/-- Inside the buffer, the word at `p` written back is the four bytes at `p`. -/
theorem htogl_gtohl (m : Bytes) (p : Nat) (h : p + 4 ≤ m.length) :
    htogl (gtohl m p) = (m.drop p).take 4 := by
  match hd : m.drop p with
  | b0 :: b1 :: b2 :: b3 :: rest =>
    have key := htogl_gtohl_append (m.take p) b0 b1 b2 b3 rest
    rw [← hd, List.take_append_drop, List.length_take_of_le (by omega)] at key
    rw [key]
    rfl
  | [] | [_] | [_, _] | [_, _, _] =>
    have := congrArg List.length hd
    simp at this
    omega

namespace StateRequestV1

/-- The decoder fails only with `EINVAL`. -/
theorem decode_error (m : Bytes) (L : Nat) (e : Int) (h : decode m L = .error e) : e = EINVAL := by
  simp only [decode] at h
  repeat' split at h
  all_goals first | exact (Except.error.inj h).symm | cases h

/-- What the decoder's four checks ask of a buffer that it accepts. -/
theorem decode_ok_iff (m : Bytes) (L : Nat) (r : StateRequestV1) :
    decode m L = .ok r ↔ r = ⟨L, m⟩ ∧ 14 ≤ L ∧ m.take 5 = MAGIC ∧ 14 + gtohl m 6 ≤ L ∧
      10 + gtohl m 6 + gtohl m (10 + gtohl m 6) + 4 = L := by
  rw [← strncmpEq_MAGIC]
  simp only [decode, istOffset, istLen, sstLen, lenAt, sstOffset, length_MAGIC, Nat.reduceAdd]
  split_ifs with h1 h2 h3 h4
  · simp only [reduceCtorEq, false_iff, not_and]; intros; omega
  · simp only [reduceCtorEq, false_iff, not_and]; intros; simp_all
  · simp only [reduceCtorEq, false_iff, not_and]; intros; omega
  · simp only [reduceCtorEq, false_iff, not_and]; intros; omega
  · simp only [Bool.not_eq_true', Bool.not_eq_false] at h2
    simp only [Except.ok.injEq, h2, true_and]
    constructor
    · rintro rfl; exact ⟨rfl, by omega, by omega, by omega⟩
    · rintro ⟨rfl, -⟩; rfl

/-- Every buffer that the decoder accepts is a layout of its two parts, with whatever byte it has
after the magic. -/
theorem decode_sound (m : Bytes) (r : StateRequestV1) (h : decode m m.length = .ok r) :
    r = ⟨m.length, m⟩ ∧ m = layout (m.getD 5 0) r.sstSlice r.istSlice := by
  obtain ⟨rfl, h14, hmagic, hS, hI⟩ := (decode_ok_iff m m.length r).1 h
  refine ⟨rfl, ?_⟩
  generalize hSd : gtohl m 6 = S at hS hI
  generalize hId : gtohl m (10 + S) = I at hI
  have e5 : m.drop 5 = [m.getD 5 0] ++ m.drop 6 := by
    rw [drop_eq_take_append_drop m 5 1, List.take_one, List.head?_drop,
      List.getElem?_eq_getElem (by omega), List.getD_eq_getElem _ _ (by omega)]
    rfl
  have e6 : m.drop 6 = htogl S ++ m.drop 10 := by
    rw [drop_eq_take_append_drop m 6 4, ← hSd, htogl_gtohl m 6 (by omega)]
  have e10 : m.drop 10 = deref m (some 10) S ++ m.drop (10 + S) := by
    rw [drop_eq_take_append_drop m 10 S, deref_eq_take_drop m 10 S (by omega)]
  have e10S : m.drop (10 + S) = htogl I ++ deref m (some (14 + S)) I := by
    rw [deref_eq_take_drop m (14 + S) I (by omega), List.take_of_length_le (by simp; omega),
      drop_eq_take_append_drop m (10 + S) 4, ← hId, htogl_gtohl m (10 + S) (by omega),
      show 10 + S + 4 = 14 + S by omega]
  have hsst : sstSlice ⟨m.length, m⟩ = deref m (some 10) S := by
    rw [sstSlice, sstReq, sstLen, deref_reqAt]; simp [lenAt, sstOffset, hSd]
  have hist : istSlice ⟨m.length, m⟩ = deref m (some (14 + S)) I := by
    rw [istSlice, istReq, istLen, deref_reqAt]
    simp only [lenAt, istOffset, sstLen, sstOffset, length_MAGIC, Nat.reduceAdd, hSd, hId,
      show 10 + S + 4 = 14 + S by omega]
  rw [hsst, hist]
  conv_lhs => rw [← List.take_append_drop 5 m, hmagic, e5, e6, e10, e10S]
  simp [layout]

end StateRequestV1

/-- `read_state_request` on a whole buffer: v0 unless the buffer is longer than the magic and starts
with its five bytes; otherwise `EINVAL` or a v1 request, and a v1 request exactly when the buffer is a
layout of two parts with any byte after the magic. When that byte is a NUL and the parts are within
`INT32_MAX`, the encoding constructor rebuilds the buffer from the decoded parts. -/
theorem read_state_request_cases (b : Bytes) :
    (¬ (MAGIC.length < b.length ∧ b.take 5 = MAGIC) →
      readStateRequest b b.length = .ok (.v0 b b.length)) ∧
    (MAGIC.length < b.length → b.take 5 = MAGIC →
      (readStateRequest b b.length = .error EINVAL ∨
        ∃ r, readStateRequest b b.length = .ok (.v1 r)) ∧
      (∀ r, readStateRequest b b.length = .ok (.v1 r) ↔
        r = ⟨b.length, b⟩ ∧ ∃ sst ist, sst.length < 2^32 ∧ ist.length < 2^32 ∧
          b = layout (b.getD 5 0) sst ist) ∧
      (∀ r, readStateRequest b b.length = .ok (.v1 r) → b.getD 5 0 = NUL →
        r.sstLen ≤ INT32_MAX → r.istLen ≤ INT32_MAX →
        StateRequestV1.encode r.sstSlice r.istSlice = .ok r)) := by
  refine ⟨fun hb => ?_, fun h5 hb => ?_⟩
  · -- no magic: v0
    rw [readStateRequest, if_neg]
    simp only [length_MAGIC, Bool.and_eq_true, decide_eq_true_eq, strncmpEq_MAGIC, not_and]
    exact fun h hs => hb ⟨h, hs⟩
  -- with the magic, `read_state_request` is the decoder
  have hread : readStateRequest b b.length = StateRequest.v1 <$> StateRequestV1.decode b b.length := by
    rw [readStateRequest, if_pos]
    simp only [length_MAGIC, Bool.and_eq_true, decide_eq_true_eq, strncmpEq_MAGIC]
    exact ⟨h5, hb⟩
  have hv1 (r : StateRequestV1) :
      readStateRequest b b.length = .ok (.v1 r) ↔ StateRequestV1.decode b b.length = .ok r := by
    rw [hread]
    cases StateRequestV1.decode b b.length <;> simp [Functor.map, Except.map]
  refine ⟨?_, fun r => ?_, fun r hr h0 hs hi => ?_⟩
  · -- the decoder's verdict
    cases hd : StateRequestV1.decode b b.length with
    | error e => exact .inl (by rw [hread, hd, StateRequestV1.decode_error _ _ _ hd]; rfl)
    | ok r => exact .inr ⟨r, (hv1 r).2 hd⟩
  · -- exactly the layouts
    rw [hv1 r]
    constructor
    · intro hd
      obtain ⟨rfl, hl⟩ := StateRequestV1.decode_sound b r hd
      refine ⟨rfl, _, _, ?_, ?_, hl⟩
      · simpa [StateRequestV1.sstLen, StateRequestV1.lenAt] using gtohl_lt b _
      · simpa [StateRequestV1.istLen, StateRequestV1.lenAt] using gtohl_lt b _
    · rintro ⟨rfl, sst, ist, hs, hi, hl⟩
      have := StateRequestV1.decode_layout (b.getD 5 0) sst ist hs hi
      rwa [← hl] at this
  · -- re-encoding reproduces `b`
    obtain ⟨rfl, hl⟩ := StateRequestV1.decode_sound b r ((hv1 r).1 hr)
    rw [← StateRequestV1.length_sstSlice] at hs
    rw [← StateRequestV1.length_istSlice] at hi
    rw [StateRequestV1.encode_ok _ _ hs hi, ← h0, ← hl]

/-- A buffer that starts with `"STRv1"` but has no NUL after it is still read as v1. -/
theorem read_state_request_v1_without_nul :
    (ascii "STRv1" ++ [1, 0, 0, 0, 0, 0, 0, 0, 0]).take 6 ≠ MAGIC ++ [NUL] ∧
      readStateRequest (ascii "STRv1" ++ [1, 0, 0, 0, 0, 0, 0, 0, 0]) 14 =
        .ok (.v1 ⟨14, ascii "STRv1" ++ [1, 0, 0, 0, 0, 0, 0, 0, 0]⟩) :=
  ⟨by decide, rfl⟩

end GaleraStateTransfer
