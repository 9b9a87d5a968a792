import GaleraStateTransfer.Request.Codec

/-!
# The IST descriptor

`IST_request` of `src/galera/src/replicator_str.cpp`, its inserter `operator<<`, its extractor
`operator>>`, and `get_ist_request`, which reads the IST part of a request through an
`std::istringstream`. The descriptor's text is

  `<uuid>:<last_applied>-<group_seqno>|<peer>`

The extractor reads the three separators into a `char` that it never checks, and the peer as a
whitespace-delimited token that runs to the end of the IST part.

An input stream is its unread bytes and whether its next sentry succeeds: after a failed extraction,
or one that reached the end of the input, every later extraction leaves its target unchanged. The
four extractions that `operator>>` uses are those of libstdc++ in the "C" locale: a `char`, a
`long long` (`num_get`), an `std::string`, and a `char` array of width 37 for the uuid. The uuid's
own inserter and extractor (`uuid.hpp`) are not under `src/`; they are modelled from the spec's
"canonical 36-character hyphenated form", with a malformed uuid throwing `EINVAL`.
-/

namespace GaleraStateTransfer

/-! ## Seqnos and uuids -/

/-- The least `wsrep_seqno_t`. -/
def INT64_MIN : Int := -2^63

/-- The greatest `wsrep_seqno_t`. -/
def INT64_MAX : Int := 2^63 - 1

/-- `wsrep_uuid_t`: sixteen bytes. -/
structure Uuid where
  /-- `data`. -/
  bytes : List UInt8
  length_bytes : bytes.length = 16
  deriving DecidableEq

/-- The value-initialised uuid, all zero bytes. -/
def Uuid.nil : Uuid := ⟨List.replicate 16 0, rfl⟩

/-- A hexadecimal digit, in lower case as `gu_uuid_print` writes it. -/
def hexDigit (d : Nat) : UInt8 := if d < 10 then (48 + d).toUInt8 else (87 + d).toUInt8

/-- The value of a hexadecimal digit of either case. -/
def hexVal (c : UInt8) : Option Nat :=
  if 48 ≤ c.toNat ∧ c.toNat ≤ 57 then some (c.toNat - 48)
  else if 97 ≤ c.toNat ∧ c.toNat ≤ 102 then some (c.toNat - 87)
  else if 65 ≤ c.toNat ∧ c.toNat ≤ 70 then some (c.toNat - 55)
  else none

/-- The two hexadecimal digits of a byte. -/
def hex2 (b : UInt8) : Bytes := [hexDigit (b.toNat / 16), hexDigit (b.toNat % 16)]

/-- The hexadecimal digits of some bytes. -/
def hexBytes (bs : Bytes) : Bytes := bs.flatMap hex2

/-- The uuid's text: its bytes in groups of 4, 2, 2, 2 and 6, in hexadecimal, joined by `-`.
Modelled from the spec: `operator<< (std::ostream&, const wsrep_uuid_t&)` is not under `src/`. -/
def uuidPrint (u : Uuid) : Bytes :=
  hexBytes (u.bytes.take 4) ++ [ch '-'] ++ hexBytes ((u.bytes.drop 4).take 2) ++ [ch '-'] ++
    hexBytes ((u.bytes.drop 6).take 2) ++ [ch '-'] ++ hexBytes ((u.bytes.drop 8).take 2) ++
    [ch '-'] ++ hexBytes (u.bytes.drop 10)

/-- `n` bytes written as `2 n` hexadecimal digits at the start of `s`, and the rest of `s`. -/
def scanHex : Nat → Bytes → Option (Bytes × Bytes)
  | 0, s => some ([], s)
  | n + 1, c1 :: c2 :: s => do
    let v1 ← hexVal c1
    let v2 ← hexVal c2
    let (bs, rest) ← scanHex n s
    pure ((v1 * 16 + v2).toUInt8 :: bs, rest)
  | _ + 1, _ => none

/-- The rest of `s` after a `-` that starts it. -/
def scanDash : Bytes → Option Bytes
  | c :: s => if c = ch '-' then some s else none
  | [] => none

/-- `gu_uuid_scan`: a uuid in the text form that `uuidPrint` writes, and nothing after it.
Modelled from the spec, as `uuidPrint` is. -/
def uuidScan (s : Bytes) : Option Uuid := do
  let (b0, s) ← scanHex 4 s
  let s ← scanDash s
  let (b1, s) ← scanHex 2 s
  let s ← scanDash s
  let (b2, s) ← scanHex 2 s
  let s ← scanDash s
  let (b3, s) ← scanHex 2 s
  let s ← scanDash s
  let (b4, s) ← scanHex 6 s
  if h : s = [] ∧ (b0 ++ b1 ++ b2 ++ b3 ++ b4).length = 16 then some ⟨_, h.2⟩ else none

/-! ## Decimal numbers -/

/-- The character of a decimal digit. -/
def digitChar (d : Nat) : UInt8 := (48 + d).toUInt8

/-- Whether a character is a decimal digit. -/
def isDigit (c : UInt8) : Bool := 48 ≤ c.toNat && c.toNat ≤ 57

/-- The decimal digits of `n`, most significant first. -/
def natText (n : Nat) : Bytes := if n = 0 then [ch '0'] else (Nat.digits 10 n).reverse.map digitChar

/-- `os << v` for a `long long`: a minus sign for a negative value, then its magnitude's digits. -/
def intText (v : Int) : Bytes := if v < 0 then ch '-' :: natText v.natAbs else natText v.toNat

/-- The value of a string of decimal digits, accumulated from the left as `num_get` does. -/
def digitsValue (ds : Bytes) : Nat := ds.foldl (fun acc c => acc * 10 + (c.toNat - 48)) 0

/-! ## Input streams -/

/-- `isspace` in the "C" locale: space, and tab through carriage return. -/
def isSpace (c : UInt8) : Bool := c.toNat == 32 || (9 ≤ c.toNat && c.toNat ≤ 13)

/-- An `std::istringstream`: its unread bytes, and whether its next sentry succeeds (neither
`failbit` nor `eofbit` is set). -/
structure IStream where
  rest : Bytes
  good : Bool
  deriving DecidableEq, Repr

/-- The sentry's `skipws`: leading whitespace is dropped. -/
def skipws (s : Bytes) : Bytes := s.dropWhile isSpace

/-- `is >> c` for a `char`: the next non-whitespace byte, or nothing and `failbit` at the end. -/
def readChar (is : IStream) : IStream × Option UInt8 :=
  if !is.good then (is, none)
  else match skipws is.rest with
    | [] => (⟨[], false⟩, none)
    | c :: s => (⟨s, true⟩, some c)

/-- `is >> v` for a `long long`: an optional sign and the longest run of digits. No digit stores `0`
and a value out of range stores the nearest bound, both with `failbit`; reaching the end of the input
sets `eofbit`. A failed sentry stores nothing. -/
def readInt64 (is : IStream) : IStream × Option Int :=
  if !is.good then (is, none)
  else match skipws is.rest with
    | [] => (⟨[], false⟩, none)
    | c :: s =>
      let (neg, s) :=
        if c = ch '-' then (true, s) else if c = ch '+' then (false, s) else (false, c :: s)
      let ds := s.takeWhile isDigit
      let rest := s.dropWhile isDigit
      let v : Int := if neg then -(digitsValue ds : Int) else digitsValue ds
      if ds = [] then (⟨rest, false⟩, some 0)
      else if v < INT64_MIN then (⟨rest, false⟩, some INT64_MIN)
      else if v > INT64_MAX then (⟨rest, false⟩, some INT64_MAX)
      else (⟨rest, rest ≠ []⟩, some v)

/-- `is >> str` for an `std::string`: the bytes up to the next whitespace or the end of the input,
which sets `eofbit`. NUL is not whitespace. -/
def readString (is : IStream) : IStream × Option Bytes :=
  if !is.good then (is, none)
  else match skipws is.rest with
    | [] => (⟨[], false⟩, none)
    | c :: s =>
      let rest := (c :: s).dropWhile (fun c => !isSpace c)
      (⟨rest, rest ≠ []⟩, some ((c :: s).takeWhile fun c => !isSpace c))

/-- `is.width (w + 1); is >> str` for a `char` array: at most `w` non-whitespace bytes, and reaching
the end of the input before `w` of them sets `eofbit`. A failed sentry stores nothing. -/
def readCharArray (w : Nat) (is : IStream) : IStream × Option Bytes :=
  if !is.good then (is, none)
  else match skipws is.rest with
    | [] => (⟨[], false⟩, none)
    | c :: s =>
      let tok := ((c :: s).takeWhile fun c => !isSpace c).take w
      let rest := (c :: s).drop tok.length
      (⟨rest, !(rest = [] ∧ tok.length < w)⟩, some tok)

/-- `is >> uuid`: `is.width (37); is >> str;` reads at most 36 non-whitespace bytes, then
`gu_uuid_scan` parses them and a malformed uuid throws `EINVAL`. When the sentry fails the array
is never written, and the scan of it is taken to fail. Modelled from the spec, as `uuidPrint`
is. -/
def readUuid (is : IStream) : Except Int (IStream × Uuid) :=
  let (is, str) := readCharArray 36 is
  match str.bind uuidScan with
  | some u => .ok (is, u)
  | none => .error EINVAL

/-! ## The descriptor -/

/-- `IST_request`. -/
structure IstRequest where
  /-- `peer_`. -/
  peer : Bytes
  /-- `uuid_`. -/
  uuid : Uuid
  /-- `last_applied_`. -/
  lastApplied : Int
  /-- `group_seqno_`. -/
  groupSeqno : Int
  deriving DecidableEq

/-- `IST_request ()`: every field value-initialised. -/
def IstRequest.empty : IstRequest := ⟨[], Uuid.nil, 0, 0⟩

/-- `operator<< (std::ostream&, const IST_request&)`. -/
def IstRequest.insert (istr : IstRequest) : Bytes :=
  uuidPrint istr.uuid ++ [ch ':'] ++ intText istr.lastApplied ++ [ch '-'] ++
    intText istr.groupSeqno ++ [ch '|'] ++ istr.peer

/-- `operator>> (std::istream&, IST_request&)`: the uuid, a separator, the last applied seqno, a
separator, the group seqno, a separator, and the peer; a field whose extraction stores nothing keeps
its value. -/
def IstRequest.extract (is : IStream) (istr : IstRequest) : Except Int (IStream × IstRequest) := do
  let (is, uuid) ← readUuid is
  let (is, _) := readChar is
  let (is, lastApplied) := readInt64 is
  let (is, _) := readChar is
  let (is, groupSeqno) := readInt64 is
  let (is, _) := readChar is
  let (is, peer) := readString is
  pure (is, { peer := peer.getD istr.peer, uuid := uuid,
              lastApplied := lastApplied.getD istr.lastApplied,
              groupSeqno := groupSeqno.getD istr.groupSeqno })

/-- `get_ist_request (str, &istr)` on a fresh `IST_request`: the IST part, as an `std::string` of
`ist_len ()` bytes, read through an `std::istringstream`. The stream's state is not looked at. -/
def getIstRequest (str : StateRequest) : Except Int IstRequest :=
  Prod.snd <$> IstRequest.extract ⟨str.istSlice, true⟩ IstRequest.empty

/-! ## Reading back what `operator<<` wrote -/


@[simp] theorem ch_dash : ch '-' = 45 := rfl
@[simp] theorem ch_colon : ch ':' = 58 := rfl
@[simp] theorem ch_bar : ch '|' = 124 := rfl

/-- Every hexadecimal digit reads back, and none is whitespace, a NUL, or a dash. -/
theorem hexDigit_facts :
    ∀ d < 16, hexVal (hexDigit d) = some d ∧ isSpace (hexDigit d) = false ∧ hexDigit d ≠ NUL := by
  decide

/-- `scanHex` reads back the bytes that `hexBytes` wrote. -/
theorem scanHex_hexBytes (n : Nat) (bs : Bytes) (h : bs.length = n) (rest : Bytes) :
    scanHex n (hexBytes bs ++ rest) = some (bs, rest) := by
  subst h
  induction bs generalizing rest with
  | nil => rfl
  | cons b bs ih =>
    have hb : b.toNat < 256 := b.toBitVec.isLt
    have h1 := (hexDigit_facts (b.toNat / 16) (by omega)).1
    have h2 := (hexDigit_facts (b.toNat % 16) (by omega)).1
    have hbyte : (b.toNat / 16 * 16 + b.toNat % 16).toUInt8 = b := by
      apply UInt8.toNat.inj
      simp only [Nat.toUInt8, UInt8.toNat, UInt8.ofNat, BitVec.toNat_ofNat] at hb ⊢
      omega
    rw [hexBytes, List.flatMap_cons, ← hexBytes, hex2, List.length_cons]
    simp [scanHex, h1, h2, ih, hbyte]

@[simp]
theorem length_hexBytes (bs : Bytes) : (hexBytes bs).length = 2 * bs.length := by
  induction bs with
  | nil => rfl
  | cons b bs ih => rw [hexBytes, List.flatMap_cons, ← hexBytes]; simp [hex2, ih]; omega

/-- No byte of a hexadecimal text is whitespace or a NUL. -/
theorem not_space_of_mem_hexBytes (bs : Bytes) : ∀ c ∈ hexBytes bs, isSpace c = false ∧ c ≠ NUL := by
  intro c hc
  obtain ⟨b, -, hc⟩ := List.mem_flatMap.1 hc
  have hb : b.toNat < 256 := b.toBitVec.isLt
  simp only [hex2, List.mem_cons, List.mem_singleton, List.not_mem_nil, or_false] at hc
  rcases hc with rfl | rfl
  · exact (hexDigit_facts _ (by omega)).2
  · exact (hexDigit_facts _ (by omega)).2

/-- The uuid's text is 36 bytes long. -/
@[simp]
theorem length_uuidPrint (u : Uuid) : (uuidPrint u).length = 36 := by
  simp [uuidPrint, u.length_bytes]

/-- No byte of the uuid's text is whitespace or a NUL. -/
theorem not_space_of_mem_uuidPrint (u : Uuid) : ∀ c ∈ uuidPrint u, isSpace c = false ∧ c ≠ NUL := by
  intro c hc
  simp only [uuidPrint, List.mem_append, List.mem_singleton] at hc
  repeat' rcases hc with hc | hc
  all_goals first
    | exact not_space_of_mem_hexBytes _ _ ‹_›
    | decide

/-- A dash reads as a dash. -/
theorem scanDash_dash (s : Bytes) : scanDash (ch '-' :: s) = some s := by
  rw [scanDash, if_pos rfl]

/-- `gu_uuid_scan` reads five groups of 4, 2, 2, 2 and 6 bytes in hexadecimal joined by dashes.
Each stage is rewritten in turn: `simp` through the scan's dependent `if` is slow. -/
theorem uuidScan_groups (b0 b1 b2 b3 b4 : Bytes) (h0 : b0.length = 4) (h1 : b1.length = 2)
    (h2 : b2.length = 2) (h3 : b3.length = 2) (h4 : b4.length = 6) :
    uuidScan (hexBytes b0 ++ [ch '-'] ++ hexBytes b1 ++ [ch '-'] ++ hexBytes b2 ++ [ch '-'] ++
      hexBytes b3 ++ [ch '-'] ++ hexBytes b4) = some ⟨b0 ++ b1 ++ b2 ++ b3 ++ b4, by simp [*]⟩ := by
  have e4 := scanHex_hexBytes 6 b4 h4 []
  rw [List.append_nil] at e4
  simp only [List.append_assoc, List.cons_append, List.nil_append]
  unfold uuidScan
  rw [scanHex_hexBytes _ _ h0]; dsimp only [Option.pure_def, Option.bind_eq_bind, Option.some_bind]
  rw [scanDash_dash, Option.some_bind, scanHex_hexBytes _ _ h1, Option.some_bind]; dsimp only
  rw [scanDash_dash, Option.some_bind, scanHex_hexBytes _ _ h2, Option.some_bind]; dsimp only
  rw [scanDash_dash, Option.some_bind, scanHex_hexBytes _ _ h3, Option.some_bind]; dsimp only
  rw [scanDash_dash, Option.some_bind, e4, Option.some_bind, dif_pos ⟨rfl, by simp [*]⟩]
  simp only [List.append_assoc]

/-- `gu_uuid_scan` reads back the uuid's text. -/
theorem uuidScan_uuidPrint (u : Uuid) : uuidScan (uuidPrint u) = some u := by
  obtain ⟨bs, hbs⟩ := u
  have split (m n : Nat) : (bs.drop m).take n ++ bs.drop (m + n) = bs.drop m := by
    rw [← List.drop_drop, List.take_append_drop]
  have hsplit : bs.take 4 ++ (bs.drop 4).take 2 ++ (bs.drop 6).take 2 ++ (bs.drop 8).take 2 ++
      bs.drop 10 = bs := by
    simp only [List.append_assoc]
    rw [split 8 2, split 6 2, split 4 2, List.take_append_drop]
  rw [uuidPrint, uuidScan_groups _ _ _ _ _ (by simp [hbs]) (by simp [hbs]) (by simp [hbs])
    (by simp [hbs]) (by simp [hbs])]
  simp only [hsplit]

/-- Every decimal digit reads back, and none is whitespace, a sign, or a NUL. -/
theorem digitChar_facts :
    ∀ d < 10, isDigit (digitChar d) = true ∧ (digitChar d).toNat - 48 = d ∧
      isSpace (digitChar d) = false ∧ digitChar d ≠ ch '-' ∧ digitChar d ≠ ch '+' ∧
      digitChar d ≠ NUL := by
  decide

/-- Appending a digit multiplies the accumulated value by ten and adds it. -/
theorem digitsValue_append_singleton (ds : Bytes) (c : UInt8) :
    digitsValue (ds ++ [c]) = digitsValue ds * 10 + (c.toNat - 48) := by
  simp [digitsValue, List.foldl_append]

/-- The digits of a list, written most significant first, accumulate to `Nat.ofDigits`. -/
theorem digitsValue_reverse (L : List Nat) (h : ∀ d ∈ L, d < 10) :
    digitsValue (L.reverse.map digitChar) = Nat.ofDigits 10 L := by
  induction L with
  | nil => rfl
  | cons d L ih =>
    rw [List.reverse_cons, List.map_append, List.map_singleton, digitsValue_append_singleton,
      ih (fun e he => h e (List.mem_cons_of_mem d he)), Nat.ofDigits_cons,
      (digitChar_facts d (h d (List.mem_cons_self d L))).2.1]
    ring

/-- The digits of a number are digit characters. -/
theorem mem_natText (n : Nat) (c : UInt8) (hc : c ∈ natText n) : ∃ d < 10, c = digitChar d := by
  unfold natText at hc
  split at hc
  · exact ⟨0, by omega, by simpa using hc⟩
  · obtain ⟨d, hd, rfl⟩ := List.mem_map.1 hc
    exact ⟨d, Nat.digits_lt_base (by omega) (List.mem_reverse.1 hd), rfl⟩

/-- The text of a number holds neither a NUL nor whitespace. -/
theorem mem_intText (v : Int) (c : UInt8) (hc : c ∈ intText v) : c ≠ NUL ∧ isSpace c = false := by
  have digit : ∀ n, c ∈ natText n → c ≠ NUL ∧ isSpace c = false := fun n h => by
    obtain ⟨d, hd, rfl⟩ := mem_natText n c h
    exact ⟨(digitChar_facts d hd).2.2.2.2.2, (digitChar_facts d hd).2.2.1⟩
  unfold intText at hc
  split at hc
  · rcases List.mem_cons.1 hc with rfl | hc
    · decide
    · exact digit _ hc
  · exact digit _ hc

/-- Apart from the peer, a descriptor's text holds neither a NUL nor whitespace. -/
theorem mem_insert (istr : IstRequest) (c : UInt8) (hc : c ∈ istr.insert) :
    c ∈ istr.peer ∨ (c ≠ NUL ∧ isSpace c = false) := by
  simp only [IstRequest.insert, List.mem_append, List.mem_singleton] at hc
  rcases hc with (((((hc | rfl) | hc) | rfl) | hc) | rfl) | hc
  · exact .inr (not_space_of_mem_uuidPrint _ c hc).symm
  · exact .inr (by decide)
  · exact .inr (mem_intText _ c hc)
  · exact .inr (by decide)
  · exact .inr (mem_intText _ c hc)
  · exact .inr (by decide)
  · exact .inl hc

theorem natText_ne_nil (n : Nat) : natText n ≠ [] := by
  unfold natText
  split
  · simp
  · simpa using Nat.digits_ne_nil_iff_ne_zero.2 ‹_›

/-- The digits of a number accumulate to it. -/
theorem digitsValue_natText (n : Nat) : digitsValue (natText n) = n := by
  unfold natText
  split
  · subst n; rfl
  · rw [digitsValue_reverse _ (fun d hd => Nat.digits_lt_base (by omega) hd), Nat.ofDigits_digits]

/-- A run of digits followed by a non-digit is read up to that byte. -/
theorem digits_run (n : Nat) (c : UInt8) (s : Bytes) (hc : isDigit c = false) :
    (natText n ++ c :: s).takeWhile isDigit = natText n ∧
      (natText n ++ c :: s).dropWhile isDigit = c :: s := by
  have hall : ∀ x ∈ natText n, isDigit x = true := fun x hx => by
    obtain ⟨d, hd, rfl⟩ := mem_natText n x hx
    exact (digitChar_facts d hd).1
  rw [List.takeWhile_append_of_pos hall, List.dropWhile_append_of_pos hall,
    List.takeWhile_cons_of_neg (by simp [hc]), List.dropWhile_cons_of_neg (by simp [hc]),
    List.append_nil]
  exact ⟨rfl, rfl⟩

/-- A number's text starts with a digit. -/
theorem natText_cons (n : Nat) : ∃ d < 10, ∃ ds, natText n = digitChar d :: ds := by
  obtain ⟨x, xs, hx⟩ := List.exists_cons_of_ne_nil (natText_ne_nil n)
  obtain ⟨d, hd, rfl⟩ := mem_natText n x (by rw [hx]; exact List.mem_cons_self _ _)
  exact ⟨d, hd, xs, hx⟩

theorem skipws_cons (c : UInt8) (s : Bytes) (h : isSpace c = false) : skipws (c :: s) = c :: s :=
  List.dropWhile_cons_of_neg (by simp [h])

/-- `is >> c` takes the next byte when it is not whitespace. -/
theorem readChar_cons (c : UInt8) (s : Bytes) (h : isSpace c = false) :
    readChar ⟨c :: s, true⟩ = (⟨s, true⟩, some c) := by
  simp [readChar, skipws_cons c s h]

/-- `is >> str` takes a whole input that has no whitespace, and reaches its end. -/
theorem readString_all (s : Bytes) (hne : s ≠ []) (h : ∀ c ∈ s, isSpace c = false) :
    readString ⟨s, true⟩ = (⟨[], false⟩, some s) := by
  obtain ⟨c, s', rfl⟩ := List.exists_cons_of_ne_nil hne
  have ht : (c :: s').takeWhile (fun c => !isSpace c) = c :: s' :=
    List.takeWhile_eq_self_iff.2 (by simpa using h)
  have hd : (c :: s').dropWhile (fun c => !isSpace c) = [] :=
    List.dropWhile_eq_nil_iff.2 (by simpa using h)
  simp only [readString, Bool.not_true, Bool.false_eq_true, if_false,
    skipws_cons c s' (h c (List.mem_cons_self c s')), ht, hd, ne_eq, not_true_eq_false,
    decide_False]

/-- `is >> v` reads back what `os << v` wrote, up to the non-digit after it. -/
theorem readInt64_intText (v : Int) (hv : INT64_MIN ≤ v ∧ v ≤ INT64_MAX) (c : UInt8) (s : Bytes)
    (hc : isDigit c = false) : readInt64 ⟨intText v ++ c :: s, true⟩ = (⟨c :: s, true⟩, some v) := by
  unfold INT64_MIN INT64_MAX at hv
  unfold intText
  split
  · -- a minus sign, then the magnitude's digits
    obtain ⟨tw, dw⟩ := digits_run v.natAbs c s hc
    have hval := digitsValue_natText v.natAbs
    simp only [readInt64, Bool.not_true, Bool.false_eq_true, if_false, List.cons_append,
      skipws_cons _ _ (by decide : isSpace (ch '-') = false), if_true, tw, dw, natText_ne_nil,
      hval, INT64_MIN, INT64_MAX, ne_eq, reduceCtorEq, not_false_eq_true, decide_True]
    rw [if_neg (by omega), if_neg (by omega)]
    congr
    omega
  · -- the digits alone
    obtain ⟨tw, dw⟩ := digits_run v.toNat c s hc
    have hval := digitsValue_natText v.toNat
    obtain ⟨d, hd, ds, hds⟩ := natText_cons v.toNat
    have hf := digitChar_facts d hd
    have hsk : skipws (natText v.toNat ++ c :: s) = natText v.toNat ++ c :: s := by
      rw [hds, List.cons_append, skipws_cons _ _ hf.2.2.1]
    simp only [readInt64, Bool.not_true, Bool.false_eq_true, if_false, hsk]
    rw [hds, List.cons_append]
    simp only [hf.2.2.2.1, hf.2.2.2.2.1, if_false, ← List.cons_append, ← hds, tw, dw,
      natText_ne_nil, hval, INT64_MIN, INT64_MAX, ne_eq, reduceCtorEq, not_false_eq_true,
      decide_True]
    rw [if_neg (by omega), if_neg (by omega)]
    congr
    omega

/-- `is >> str` with width 37 takes the uuid's text, and stops after its 36 bytes. -/
theorem readCharArray_uuidPrint (u : Uuid) (c : UInt8) (s : Bytes) :
    readCharArray 36 ⟨uuidPrint u ++ c :: s, true⟩ = (⟨c :: s, true⟩, some (uuidPrint u)) := by
  have hns := not_space_of_mem_uuidPrint u
  have hlen := length_uuidPrint u
  -- an opaque text keeps `whnf` from unfolding the uuid's digits
  generalize uuidPrint u = t at hns hlen ⊢
  obtain ⟨x, xs, rfl⟩ := List.exists_cons_of_ne_nil (show t ≠ [] from fun h => by simp [h] at hlen)
  have htok : ((x :: xs ++ c :: s).takeWhile fun c => !isSpace c).take 36 = x :: xs := by
    rw [List.takeWhile_append_of_pos (by simpa using fun c h => (hns c h).1)]
    exact List.take_left' hlen
  rw [readCharArray, List.cons_append, skipws_cons _ _ (hns x (List.mem_cons_self _ _)).1]
  simp only [Bool.not_true, Bool.false_eq_true, if_false]
  rw [← List.cons_append, htok, hlen, List.drop_left' hlen]
  simp

/-- `is >> uuid` reads back the uuid's text, and stops after its 36 bytes. -/
theorem readUuid_uuidPrint (u : Uuid) (c : UInt8) (s : Bytes) :
    readUuid ⟨uuidPrint u ++ c :: s, true⟩ = .ok (⟨c :: s, true⟩, u) := by
  simp [readUuid, readCharArray_uuidPrint, uuidScan_uuidPrint]

/-- `operator>>` reads a uuid's text, one byte, a seqno, one byte, a seqno, one byte, and the rest as
the peer. None of the three single bytes is compared with anything, and an input that ends after the
third leaves the peer as it was. -/
theorem extract_separated (u : Uuid) (l g : Int) (a b c : UInt8) (p : Bytes)
    (hl : INT64_MIN ≤ l ∧ l ≤ INT64_MAX) (hg : INT64_MIN ≤ g ∧ g ≤ INT64_MAX)
    (ha : isSpace a = false) (hb : isSpace b = false ∧ isDigit b = false)
    (hc : isSpace c = false ∧ isDigit c = false) (hp : ∀ x ∈ p, isSpace x = false)
    (any : IstRequest) :
    IstRequest.extract ⟨uuidPrint u ++ a :: intText l ++ b :: intText g ++ c :: p, true⟩ any =
      .ok (⟨[], false⟩, ⟨if p = [] then any.peer else p, u, l, g⟩) := by
  have hs : readString ⟨p, true⟩ = (⟨[], false⟩, if p = [] then none else some p) := by
    cases p with
    | nil => rfl
    | cons x xs => simpa using readString_all (x :: xs) (List.cons_ne_nil x xs) hp
  simp only [List.append_assoc, List.cons_append, IstRequest.extract, readUuid_uuidPrint, bind,
    Except.bind, readChar_cons _ _ ha, readInt64_intText l hl _ _ hb.2, readChar_cons _ _ hb.1,
    readInt64_intText g hg _ _ hc.2, readChar_cons _ _ hc.1, hs, pure, Except.pure]
  split <;> rfl

/-- `operator>>` reads back what `operator<<` wrote, whatever follows the peer up to the end of the
input: a peer and a tail with no whitespace are read together as the peer. -/
theorem extract_insert (istr : IstRequest) (t : Bytes)
    (hl : INT64_MIN ≤ istr.lastApplied ∧ istr.lastApplied ≤ INT64_MAX)
    (hg : INT64_MIN ≤ istr.groupSeqno ∧ istr.groupSeqno ≤ INT64_MAX) (hp : istr.peer ++ t ≠ [])
    (hs : ∀ c ∈ istr.peer ++ t, isSpace c = false) (any : IstRequest) :
    IstRequest.extract ⟨istr.insert ++ t, true⟩ any =
      .ok (⟨[], false⟩, { istr with peer := istr.peer ++ t }) := by
  have h := extract_separated istr.uuid istr.lastApplied istr.groupSeqno (ch ':') (ch '-') (ch '|')
    (istr.peer ++ t) hl hg (by decide) (by decide) (by decide) hs any
  simp only [if_neg hp] at h
  simpa [IstRequest.insert] using h

/-- `get_ist_request` on a request whose IST part is a descriptor's text followed by `t`: every
field is read back, and the peer runs on through `t`. -/
theorem getIstRequest_insert (str : StateRequest) (istr : IstRequest) (t : Bytes)
    (h : str.istSlice = istr.insert ++ t)
    (hl : INT64_MIN ≤ istr.lastApplied ∧ istr.lastApplied ≤ INT64_MAX)
    (hg : INT64_MIN ≤ istr.groupSeqno ∧ istr.groupSeqno ≤ INT64_MAX) (hp : istr.peer ++ t ≠ [])
    (hs : ∀ c ∈ istr.peer ++ t, isSpace c = false) :
    getIstRequest str = .ok { istr with peer := istr.peer ++ t } := by
  rw [getIstRequest, h, extract_insert istr t hl hg hp hs]
  rfl

/-- `get_ist_request` checks none of the three separators: a text made of a uuid's text, a byte that
is not whitespace, a seqno, a byte that is neither whitespace nor a digit, a seqno, another such
byte and a peer with no whitespace is read as that uuid, the two seqnos and that peer, as it is when
the separators are `:`, `-` and `|`. A text that ends right after the third separator gets the empty
peer of a fresh `IST_request`. -/
theorem get_ist_request_skips_separators (str : StateRequest) (u : Uuid) (l g : Int) (a b c : UInt8)
    (p : Bytes) (ht : str.istSlice = uuidPrint u ++ a :: intText l ++ b :: intText g ++ c :: p)
    (hl : INT64_MIN ≤ l ∧ l ≤ INT64_MAX) (hg : INT64_MIN ≤ g ∧ g ≤ INT64_MAX)
    (ha : isSpace a = false) (hb : isSpace b = false ∧ isDigit b = false)
    (hc : isSpace c = false ∧ isDigit c = false) (hp : ∀ x ∈ p, isSpace x = false) :
    getIstRequest str = .ok ⟨p, u, l, g⟩ := by
  rw [getIstRequest, ht, extract_separated u l g a b c p hl hg ha hb hc hp]
  by_cases h0 : p = [] <;> simp [h0, IstRequest.empty, Functor.map, Except.map]

/-- A request whose IST part is the nil uuid's text followed by `x5y6zp` is read as last applied
seqno 5, group seqno 6 and peer `p`. -/
theorem get_ist_request_skips_separators_xyz :
    getIstRequest (.v1 ⟨0, layout NUL [] (uuidPrint Uuid.nil ++ ch 'x' :: intText 5 ++
        ch 'y' :: intText 6 ++ ch 'z' :: [ch 'p'])⟩) = .ok ⟨[ch 'p'], Uuid.nil, 5, 6⟩ :=
  get_ist_request_skips_separators _ Uuid.nil 5 6 (ch 'x') (ch 'y') (ch 'z') [ch 'p']
    (StateRequestV1.istSlice_layout _ _ _ _ (by decide) (by simp [length_uuidPrint, intText, natText]))
    (by decide) (by decide) (by decide) (by decide) (by decide) (by decide)

/-- The IST part `00000000-0000-0000-0000-000000000000x5x6x`, whose separators are all `x` and which
ends where the peer should start, is not rejected: it is read as last applied seqno 5, group seqno 6
and the empty peer of a fresh `IST_request`, and that descriptor is written back, with its NUL, as
another text. -/
theorem get_ist_request_accepts_x5x6x :
    getIstRequest (.v1 ⟨0, layout NUL [] (uuidPrint Uuid.nil ++ ch 'x' :: intText 5 ++
        ch 'x' :: intText 6 ++ ch 'x' :: [])⟩) = .ok ⟨[], Uuid.nil, 5, 6⟩ ∧
      (IstRequest.insert ⟨[], Uuid.nil, 5, 6⟩) ++ [NUL] ≠
        (StateRequest.v1 ⟨0, layout NUL [] (uuidPrint Uuid.nil ++ ch 'x' :: intText 5 ++
          ch 'x' :: intText 6 ++ ch 'x' :: [])⟩).istSlice := by
  have hs := StateRequestV1.istSlice_layout 0 NUL [] (uuidPrint Uuid.nil ++ ch 'x' :: intText 5 ++
    ch 'x' :: intText 6 ++ ch 'x' :: []) (by decide) (by simp [length_uuidPrint, intText, natText])
  refine ⟨?_, fun h => ?_⟩
  · rw [getIstRequest, StateRequest.istSlice_v1, hs, extract_separated Uuid.nil 5 6 (ch 'x') (ch 'x')
      (ch 'x') [] (by decide) (by decide) (by decide) (by decide) (by decide) (by simp)]
    rfl
  · rw [StateRequest.istSlice_v1, hs] at h
    simpa [IstRequest.insert] using congrArg List.length h

end GaleraStateTransfer
