import Mathlib.Data.List.GetD
import Mathlib.Data.Nat.Digits

/-!
# Byte strings, words, and C strings

The state-transfer code of `src/galera/src/replicator_str.cpp` reads and writes raw buffers: the
request envelope, its two length prefixes, and the NUL-terminated strings inside. A buffer is a list
of bytes, and a pointer is an index into it. Reading past the end of a list yields a zero byte, the
value a C string's terminator has; which reads stay inside their buffer is a property of the code
that uses these primitives, not of the primitives.

`htogl` and `gtohl` are galerautils macros that are not under `src/`; they are taken from §6 of the
spec (multi-byte integers on the wire are big-endian). `gtohl_append_htogl` is the only fact about
them that the envelope's proofs use.
-/

namespace GaleraStateTransfer

/-- A buffer: its bytes in order. -/
abbrev Bytes := List UInt8

/-- The byte of an ASCII character. -/
def ch (c : Char) : UInt8 := c.toNat.toUInt8

/-- The bytes of an ASCII text. -/
def ascii (s : String) : Bytes := s.toList.map ch

/-- The string terminator. -/
def NUL : UInt8 := 0

/-! ## Platform constants

The `errno` values of Linux, on which the code compares the codes it returns and receives. -/

/-- `EPERM`. -/
def EPERM : Int := 1
/-- `EAGAIN`. -/
def EAGAIN : Int := 11
/-- `ENOMEM`. -/
def ENOMEM : Int := 12
/-- `EINVAL`. -/
def EINVAL : Int := 22
/-- `EDEADLK`. -/
def EDEADLK : Int := 35
/-- `ENODATA`. -/
def ENODATA : Int := 61
/-- `EMSGSIZE`. -/
def EMSGSIZE : Int := 90
/-- `ECONNABORTED`. -/
def ECONNABORTED : Int := 103
/-- `ENOTCONN`. -/
def ENOTCONN : Int := 107
/-- `ECANCELED`. -/
def ECANCELED : Int := 125

/-- `INT32_MAX`, as `replicator_str.cpp` defines it when the platform does not. -/
def INT32_MAX : Nat := 0x7fffffff

/-! ## Reading memory -/

/-- Reading at an offset past a prefix reads the rest. -/
@[simp]
theorem getD_append_length_add (a b : Bytes) (i : Nat) (d : UInt8) :
    (a ++ b).getD (a.length + i) d = b.getD i d := by
  rw [List.getD_append_right _ _ _ _ (Nat.le_add_right _ _), Nat.add_sub_cancel_left]

/-- The `n` bytes that the pointer `p` into `mem` points at; the null pointer points at none. -/
def deref (mem : Bytes) : Option Nat → Nat → Bytes
  | none, _ => []
  | some p, n => (List.range n).map fun i => mem.getD (p + i) 0

@[simp]
theorem deref_none (mem : Bytes) (n : Nat) : deref mem none n = [] := rfl

@[simp]
theorem length_deref_some (mem : Bytes) (p n : Nat) : (deref mem (some p) n).length = n := by
  simp [deref]

/-- A pointer to the start of a part of a buffer, with the part's length, reads that part. -/
theorem deref_append (a s c : Bytes) : deref (a ++ (s ++ c)) (some a.length) s.length = s := by
  apply List.ext_getElem (by simp)
  intro i h1 h2
  simp only [deref, List.getElem_map, List.getElem_range, getD_append_length_add]
  rw [List.getD_append _ _ _ _ h2, List.getD_eq_getElem _ _ h2]

/-! ## Words in galera byte order -/

/-- `htogl`: the four bytes of a 32-bit word, most significant first. Modelled from the spec: the
macro is not under `src/`, and §6 says that multi-byte integers on the wire are big-endian. The
argument is truncated to 32 bits, as the conversion to `uint32_t` does. -/
def htogl (n : Nat) : Bytes :=
  [(n / 2^24).toUInt8, (n / 2^16).toUInt8, (n / 2^8).toUInt8, n.toUInt8]

@[simp]
theorem length_htogl (n : Nat) : (htogl n).length = 4 := rfl

/-- `gtohl (*(uint32_t*)(mem + off))`: the word at byte `off` of `mem`. Modelled from the spec, as
`htogl` is. -/
def gtohl (mem : Bytes) (off : Nat) : Nat :=
  (mem.getD off 0).toNat * 2^24 + (mem.getD (off + 1) 0).toNat * 2^16 +
    (mem.getD (off + 2) 0).toNat * 2^8 + (mem.getD (off + 3) 0).toNat

/-- A word read from memory fits in 32 bits. -/
theorem gtohl_lt (mem : Bytes) (off : Nat) : gtohl mem off < 2^32 := by
  have h0 := (mem.getD off 0).toBitVec.isLt
  have h1 := (mem.getD (off + 1) 0).toBitVec.isLt
  have h2 := (mem.getD (off + 2) 0).toBitVec.isLt
  have h3 := (mem.getD (off + 3) 0).toBitVec.isLt
  simp only [gtohl, UInt8.toNat]
  omega

/-- Reading back a word that `htogl` wrote gives it modulo `2^32`. -/
theorem gtohl_append_htogl (a c : Bytes) (n : Nat) :
    gtohl (a ++ (htogl n ++ c)) a.length = n % 2^32 := by
  have e0 : (a ++ (htogl n ++ c)).getD a.length 0 = (htogl n ++ c).getD 0 0 := by
    simpa using getD_append_length_add a (htogl n ++ c) 0 0
  simp only [gtohl, e0, getD_append_length_add]
  simp only [htogl, List.cons_append, List.getD_cons_zero, List.getD_cons_succ,
    Nat.toUInt8, UInt8.toNat, UInt8.ofNat, BitVec.toNat_ofNat]
  omega

/-! ## C strings -/

/-- `strncmp (s1, s2, n) == 0` on the C strings at `s1` and `s2`: the first `n` characters agree,
or they agree up to a NUL that ends both. -/
def strncmpEq : Nat → Bytes → Bytes → Bool
  | 0, _, _ => true
  | n + 1, s1, s2 =>
    s1.headD 0 == s2.headD 0 && (s1.headD 0 == NUL || strncmpEq n s1.tail s2.tail)

/-- Against a string with no NUL in its first `n` bytes, `strncmp` compares exactly `n` bytes. -/
theorem strncmpEq_iff : ∀ (n : Nat) (s1 s2 : Bytes), n ≤ s2.length → NUL ∉ s2.take n →
    (strncmpEq n s1 s2 = true ↔ s1.take n = s2.take n)
  | 0, _, _, _, _ => by simp [strncmpEq]
  | n + 1, s1, [], h, _ => by simp at h
  | n + 1, s1, b :: s2, h, hn => by
    simp only [List.take_succ_cons, List.mem_cons, not_or] at hn
    have ih := strncmpEq_iff n s1.tail s2 (by simpa using h) hn.2
    have hb : b ≠ 0 := Ne.symm hn.1
    cases s1 with
    | nil => simpa [strncmpEq, NUL] using hb.symm
    | cons a s1 =>
      simp only [strncmpEq, List.headD_cons, List.tail_cons, List.take_succ_cons, List.cons.injEq,
        Bool.and_eq_true, beq_iff_eq, Bool.or_eq_true, NUL] at ih ⊢
      constructor
      · rintro ⟨rfl, h0 | h1⟩
        · exact absurd h0 hb
        · exact ⟨rfl, ih.1 h1⟩
      · rintro ⟨rfl, h1⟩
        exact ⟨rfl, Or.inr (ih.2 h1)⟩

/-- `memcmp (a, b, n) == 0`: the first `n` bytes at `a` and `b` agree. -/
def memcmpEq (a b : Bytes) (n : Nat) : Bool :=
  (List.range n).all fun i => a.getD i 0 == b.getD i 0

/-- `strndup (s, n)`, as a string: the bytes of `s` up to its first NUL, and at most `n` of them. -/
def strndup (s : Bytes) (n : Nat) : Bytes := (s.take n).takeWhile (· != NUL)

end GaleraStateTransfer
