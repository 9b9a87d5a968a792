import GaleraStateTransfer.Request.Codec

/-!
# The bytes the envelope's readers read

`read_state_request`, the decoding constructor of `StateRequest_v1` and its accessors read the
request buffer through raw pointers: `strncmp` against the magic, and two 32-bit length prefixes,
the second at an offset computed from the first. `process_state_req` then reads the decoded parts
through `strndup`, `sst_is_trivial` and, in `get_ist_request`, the `std::string` that copies the IST
part. Each is given here by the indices of the buffer it reads, along the code's control flow: the
right side of `&&` only when the left holds, a check that throws ends the reads with those of its
message, and a part whose prefix is zero is a null pointer that no call reads through. A library
call is given every byte it may read; `strncmp`, `memcmp` and `strndup` may stop earlier, at a
difference or a NUL.

These are all the bytes `read_state_request` decides on: two buffers that agree on them are read
alike (`read_state_request_decided_by_reads`). With the 64-bit `size_t` and `ssize_t` of the
supported targets, none of the decoder's sums of a few constants and two 32-bit lengths wraps, so
the arithmetic is on `Nat`. For every buffer, every index read is below its length
(`state_request_reads_in_bounds`). For the IST prefix this rests on
the order of the checks: the third bounds `sst_len ()` before the fourth reads the word at
`ist_offset ()`, which is computed from it.
-/

namespace GaleraStateTransfer

/-- The `n` bytes from `p`. -/
def span (p n : Nat) : List Nat := List.range' p n

@[simp]
theorem mem_span {i p n : Nat} : i ∈ span p n ↔ p ≤ i ∧ i < p + n := List.mem_range'_1

/-- The bytes a call reads through a pointer that may be null: none through a null one. -/
def spanAt : Option Nat → Nat → List Nat
  | none, _ => []
  | some p, n => span p n

namespace StateRequestV1

/-- The bytes `len (offset)` reads: the word `gtohl` converts. `req (offset)` reads the same, for its
test `len (offset) > 0`. -/
def lenReads (offset : Nat) : List Nat := span offset 4

/-- The bytes `sst_len ()` and `sst_req ()` read: the SST prefix. -/
def sstLenReads : List Nat := lenReads sstOffset

/-- The bytes `ist_len ()` and `ist_req ()` read: `ist_offset ()` reads `sst_len ()`, then the IST
prefix at that offset. -/
def istLenReads (r : StateRequestV1) : List Nat := sstLenReads ++ lenReads r.istOffset

/-- The bytes the decoding constructor `StateRequest_v1 (str, str_len)` reads, check by check: the
first compares lengths only; `strncmp` may read the magic's five bytes; the third check reads
`sst_len ()`, and its message reads it again; the fourth reads `ist_offset ()` and `ist_len ()`, and
its message `sst_len ()`. -/
def decodeReads (str : Bytes) (str_len : Nat) : List Nat :=
  let r : StateRequestV1 := ⟨str_len, str⟩
  if sstOffset + 2 * 4 > str_len then []
  else span 0 MAGIC.length ++
    if !strncmpEq MAGIC.length str MAGIC then []
    else sstLenReads ++
      if sstOffset + r.sstLen + 2 * 4 > str_len then sstLenReads
      else sstLenReads ++ r.istLenReads ++
        if r.istOffset + r.istLen + 4 ≠ str_len then sstLenReads else []

end StateRequestV1

/-- The bytes `read_state_request (req, req_len)` reads: `strncmp` against the magic, only when the
buffer is longer than the magic, then the decoding constructor's when it starts with it. -/
def readStateRequestReads (req : Bytes) (req_len : Nat) : List Nat :=
  if req_len > MAGIC.length then
    span 0 MAGIC.length ++
      if strncmpEq MAGIC.length req MAGIC then StateRequestV1.decodeReads req req_len else []
  else []

namespace StateRequest

/-- The bytes the four accessors read: none for a v0 request, whose accessors return its fields; a v1
request's prefixes. -/
def accessorReads : StateRequest → List Nat
  | v0 _ _ => []
  | v1 r => StateRequestV1.sstLenReads ++ r.istLenReads

/-- The bytes `strndup (sst_req (), sst_len ())` may read: the SST part. -/
def strndupReads (s : StateRequest) : List Nat := spanAt s.sstReq s.sstLen

/-- The bytes `sst_is_trivial (sst_req (), sst_len ())` may read: `memcmp` of as many bytes as
`TRIVIAL_SST` has with its NUL, when the part is that long. -/
def sstIsTrivialReads (s : StateRequest) : List Nat :=
  if s.sstLen ≥ TRIVIAL_SST.length + 1 then spanAt s.sstReq (TRIVIAL_SST.length + 1) else []

/-- The bytes `get_ist_request` reads besides the accessors: the `ist_len ()` bytes at `ist_req ()`
that its `std::string` copies. -/
def getIstRequestReads (s : StateRequest) : List Nat := spanAt s.istReq s.istLen

end StateRequest

/-! ## What the reads decide

The reads are all `read_state_request` looks at: two buffers that agree on them are both refused, or
both read as requests whose parts have the same pointers and lengths. -/

theorem headD_eq_getD (l : Bytes) : l.headD 0 = l.getD 0 0 := by cases l <;> rfl

theorem getD_tail (l : Bytes) (i : Nat) : l.tail.getD i 0 = l.getD (i + 1) 0 := by
  cases l <;> simp

/-- `strncmp` against a string decides on the first `n` bytes of the buffer. -/
theorem strncmpEq_congr : ∀ (n : Nat) (s1 s1' s2 : Bytes), (∀ i < n, s1.getD i 0 = s1'.getD i 0) →
    strncmpEq n s1 s2 = strncmpEq n s1' s2
  | 0, _, _, _, _ => rfl
  | n + 1, s1, s1', s2, h => by
    simp only [strncmpEq, headD_eq_getD, h 0 (Nat.succ_pos n),
      strncmpEq_congr n s1.tail s1'.tail s2.tail fun i hi => by
        rw [getD_tail, getD_tail]; exact h (i + 1) (by omega)]

/-- A word is its four bytes. -/
theorem gtohl_congr (m m' : Bytes) (off : Nat)
    (h : ∀ i, off ≤ i → i < off + 4 → m.getD i 0 = m'.getD i 0) : gtohl m off = gtohl m' off := by
  simp only [gtohl, h off (by omega) (by omega), h (off + 1) (by omega) (by omega),
    h (off + 2) (by omega) (by omega), h (off + 3) (by omega) (by omega)]

/-- The pointers and lengths of a request's two parts, as the accessors return them. -/
def StateRequest.parts (s : StateRequest) : (Option Nat × Nat) × (Option Nat × Nat) :=
  ((s.sstReq, s.sstLen), (s.istReq, s.istLen))

/-- The decoding constructor decides on the bytes it reads. -/
theorem StateRequestV1.decode_congr (b b' : Bytes) (L : Nat)
    (h : ∀ i ∈ decodeReads b L, b.getD i 0 = b'.getD i 0) :
    (StateRequest.parts ∘ .v1) <$> decode b L = (StateRequest.parts ∘ .v1) <$> decode b' L := by
  simp only [decode, decodeReads, istLenReads, sstLenReads, lenReads, istLen, istOffset, sstLen,
    lenAt, sstOffset, length_MAGIC, Nat.reduceAdd, Nat.reduceMul] at h ⊢
  by_cases h1 : 14 > L
  · rw [if_pos h1, if_pos h1]
  simp only [if_neg h1, List.mem_append, mem_span] at h ⊢
  -- the magic
  have hm : strncmpEq 5 b' MAGIC = strncmpEq 5 b MAGIC :=
    (strncmpEq_congr 5 b b' MAGIC fun i hi => h i (.inl (by omega))).symm
  cases hmb : strncmpEq 5 b MAGIC
  · simp only [hm, hmb, Bool.not_false, ↓reduceIte]
  simp only [hm, hmb, Bool.not_true, Bool.false_eq_true, if_false, List.mem_append, mem_span] at h ⊢
  -- the SST prefix, which the third check bounds
  have hS : gtohl b' 6 = gtohl b 6 :=
    (gtohl_congr b b' 6 fun i hi hi' => h i (.inr (.inl (by omega)))).symm
  simp only [hS]
  by_cases h3 : 6 + gtohl b 6 + 8 > L
  · rw [if_pos h3, if_pos h3]
  simp only [if_neg h3, List.mem_append, mem_span] at h ⊢
  -- the IST prefix
  have hI : gtohl b' (10 + gtohl b 6) = gtohl b (10 + gtohl b 6) :=
    (gtohl_congr b b' _ fun i hi hi' => h i (.inr (.inr (.inl (.inr (by omega)))))).symm
  simp only [hI]
  split_ifs
  · rfl
  · simp only [Functor.map, Except.map, Function.comp, StateRequest.parts, StateRequest.sstReq,
      StateRequest.sstLen, StateRequest.istReq, StateRequest.istLen, sstReq, istReq, reqAt, sstLen,
      istLen, istOffset, lenAt, sstOffset, length_MAGIC, Nat.reduceAdd, hS, hI]

/-- `read_state_request` decides on the bytes it reads: two buffers of one length that agree there
are both refused, or both read as requests whose parts have the same pointers and lengths. -/
theorem read_state_request_decided_by_reads (b b' : Bytes) (L : Nat)
    (h : ∀ i ∈ readStateRequestReads b L, b.getD i 0 = b'.getD i 0) :
    StateRequest.parts <$> readStateRequest b L = StateRequest.parts <$> readStateRequest b' L := by
  unfold readStateRequest
  unfold readStateRequestReads at h
  by_cases h5 : L > MAGIC.length
  · rw [if_pos h5, List.forall_mem_append] at h
    have hm : strncmpEq MAGIC.length b' MAGIC = strncmpEq MAGIC.length b MAGIC :=
      (strncmpEq_congr _ b b' MAGIC fun i hi => h.1 i (mem_span.2 ⟨Nat.zero_le i, hi⟩)).symm
    simp only [h5, hm, decide_True, Bool.true_and]
    cases hmb : strncmpEq MAGIC.length b MAGIC
    · rfl
    · rw [hmb, if_pos rfl] at h
      simp only [↓reduceIte, ← comp_map]
      exact StateRequestV1.decode_congr b b' L h.2
  · simp only [h5, decide_False, Bool.false_and]
    rfl

/-- Two envelopes that differ only in the byte after the magic, which the decoder never reads, are
read alike. -/
theorem read_state_request_decided_by_reads_sixth :
    StateRequest.parts <$> readStateRequest (layout NUL (ascii "xb") []) 16 =
      StateRequest.parts <$> readStateRequest (layout 1 (ascii "xb") []) 16 :=
  read_state_request_decided_by_reads _ _ _ (by decide)

/-! ## Every read is inside the buffer -/

namespace StateRequestV1

/-- A part is read through its pointer when its prefix is not zero, from past the prefix on. -/
theorem mem_spanAt_reqAt {r : StateRequestV1} {offset n i : Nat} :
    i ∈ spanAt (r.reqAt offset) n ↔ 0 < r.lenAt offset ∧ offset + 4 ≤ i ∧ i < offset + 4 + n := by
  unfold reqAt
  split <;> simp [spanAt, *]

/-- Every byte the decoding constructor reads is inside the buffer: the first check keeps the magic
and the SST prefix inside, and the third keeps the IST prefix inside. -/
theorem decodeReads_lt (str : Bytes) (str_len : Nat) : ∀ i ∈ decodeReads str str_len, i < str_len := by
  intro i hi
  simp only [decodeReads, istLenReads, sstLenReads, lenReads, istOffset, sstOffset, length_MAGIC]
    at hi
  split_ifs at hi <;> simp only [List.mem_append, mem_span, List.not_mem_nil, or_false] at hi <;>
    omega

end StateRequestV1

/-- Every byte `read_state_request` reads is inside the buffer. -/
theorem readStateRequestReads_lt (req : Bytes) (req_len : Nat) :
    ∀ i ∈ readStateRequestReads req req_len, i < req_len := by
  intro i hi
  simp only [readStateRequestReads, length_MAGIC] at hi
  split_ifs at hi with h1 h2
  · simp only [List.mem_append, mem_span] at hi
    exact hi.elim (fun h => by omega) (StateRequestV1.decodeReads_lt req req_len i)
  · simp only [List.append_nil, mem_span] at hi
    omega
  · cases hi

/-- What `read_state_request` returns: the v0 request over the buffer, or the v1 request the
decoding constructor accepted. -/
theorem readStateRequest_ok {req : Bytes} {req_len : Nat} {streq : StateRequest}
    (h : readStateRequest req req_len = .ok streq) :
    streq = .v0 req req_len ∨ ∃ r, streq = .v1 r ∧ StateRequestV1.decode req req_len = .ok r := by
  unfold readStateRequest at h
  split at h
  · cases hd : StateRequestV1.decode req req_len with
    | error e => rw [hd] at h; cases h
    | ok r =>
      rw [hd] at h
      cases h
      exact .inr ⟨r, rfl, rfl⟩
  · cases h
    exact .inl rfl

/-- For every buffer, every byte read by `read_state_request` and the decoding constructor, its
error messages included, and, for a request it returns, by the four accessors and by
`process_state_req`'s `strndup`, `sst_is_trivial` and `get_ist_request` on the decoded parts, lies
inside the buffer. -/
theorem state_request_reads_in_bounds (b : Bytes) :
    (∀ i ∈ readStateRequestReads b b.length, i < b.length) ∧
      ∀ streq, readStateRequest b b.length = .ok streq →
        ∀ i ∈ streq.accessorReads ++ streq.strndupReads ++ streq.sstIsTrivialReads ++
          streq.getIstRequestReads, i < b.length := by
  refine ⟨readStateRequestReads_lt b b.length, fun streq h i hi => ?_⟩
  simp only [List.mem_append] at hi
  rcases readStateRequest_ok h with rfl | ⟨r, rfl, hd⟩
  · -- v0: the whole buffer is the SST part
    simp only [StateRequest.accessorReads, StateRequest.strndupReads, StateRequest.sstIsTrivialReads,
      StateRequest.getIstRequestReads, StateRequest.sstReq, StateRequest.sstLen, StateRequest.istReq,
      spanAt, mem_span, List.not_mem_nil, false_or, or_false] at hi
    split_ifs at hi <;> simp only [spanAt, mem_span, List.not_mem_nil, or_false] at hi <;> omega
  · -- v1: the decoder's checks bound both parts
    obtain ⟨rfl, h14, -, hS, hI⟩ := (StateRequestV1.decode_ok_iff b b.length r).1 hd
    simp only [StateRequest.accessorReads, StateRequest.strndupReads,
      StateRequest.sstIsTrivialReads, StateRequest.getIstRequestReads, StateRequest.sstReq,
      StateRequest.sstLen, StateRequest.istReq, StateRequest.istLen, StateRequestV1.sstReq,
      StateRequestV1.istReq, StateRequestV1.mem_spanAt_reqAt, StateRequestV1.istLenReads,
      StateRequestV1.sstLenReads, StateRequestV1.lenReads, StateRequestV1.istLen,
      StateRequestV1.sstLen, StateRequestV1.istOffset, StateRequestV1.lenAt,
      StateRequestV1.sstOffset, length_MAGIC, Nat.reduceAdd, List.mem_append, mem_span] at hi
    split_ifs at hi <;>
      simp only [StateRequestV1.mem_spanAt_reqAt, StateRequestV1.lenAt, List.not_mem_nil, or_false]
        at hi <;> omega

end GaleraStateTransfer
