import Mathlib.Algebra.Order.Floor.Div
import Mime.Transfer.Decode

/-! The reads of a stream. Quoted-printable is read in pieces until one is empty, and every other
encoding at once, so the length of a body and the size of a read say how many reads there are. A
read that fails ends them (`feedAll_reads`, `readAll_reads`). If none does, what is decoded is what
the stream holds as a whole, whatever the size: `decode_reads`. -/

namespace Mime

namespace Stream

variable {s s' : Stream} {size : Int} {o : Octets} {reason : Text}

/-- The one of the next `n` reads that fails. -/
def failureWithin (s : Stream) (n : Nat) : Option (Nat × Text) :=
  s.failure.filter fun f => s.reads ≤ f.1 ∧ f.1 < s.reads + n

theorem failing?_eq_some_iff : s.failing? = some reason ↔ s.failure = some (s.reads, reason) := by
  unfold failing?
  cases s.failure with
  | none => simp
  | some f =>
    obtain ⟨k, r⟩ := f
    by_cases hk : k = s.reads <;> simp [Option.filter, hk]

theorem read_eq_error_iff :
    s.read size = .error reason ↔ s.failure = some (s.reads, reason) := by
  rw [← failing?_eq_some_iff, read]
  cases s.failing? with
  | none => simp
  | some r => simp

theorem read_eq_ok_iff :
    s.read size = .ok (o, s') ↔ (∀ reason, s.failure ≠ some (s.reads, reason)) ∧
      s.taken size = o ∧ { s with rest := s.remaining size, reads := s.reads + 1 } = s' := by
  simp only [ne_eq, ← failing?_eq_some_iff, read]
  cases s.failing? with
  | none => simp
  | some r => simp

theorem failureWithin_zero (s : Stream) : s.failureWithin 0 = none := by
  rw [failureWithin, Option.filter_eq_none_iff]
  intro f _ hf
  have := of_decide_eq_true hf
  omega

theorem failureWithin_of_error (h : s.read size = .error reason) (n : Nat) :
    s.failureWithin (n + 1) = some (s.reads, reason) := by
  rw [failureWithin, read_eq_error_iff.1 h]
  simp

/-- If a read succeeds, the one that fails is among those after it. -/
theorem failureWithin_of_ok (h : s.read size = .ok (o, s')) (n : Nat) :
    s.failureWithin (n + 1) = s'.failureWithin n := by
  obtain ⟨hnone, -, rfl⟩ := read_eq_ok_iff.1 h
  unfold failureWithin
  cases hf : s.failure with
  | none => rfl
  | some f =>
    have hne : f.1 ≠ s.reads := by
      rintro hk
      exact hnone f.2 (by rw [hf, ← hk])
    have hiff : (s.reads ≤ f.1 ∧ f.1 < s.reads + (n + 1)) ↔
        s.reads + 1 ≤ f.1 ∧ f.1 < s.reads + 1 + n := by omega
    simp only [Option.filter, hiff]

theorem failureWithin_eq_none {rest : Octets} {failure : Option (Nat × Text)} {n : Nat}
    (h : ∀ k reason, failure = some (k, reason) → n ≤ k) :
    failureWithin ⟨rest, 0, failure⟩ n = none := by
  rw [failureWithin, Option.filter_eq_none_iff]
  rintro ⟨k, reason⟩ hk hlt
  have hle := h k reason hk
  have hlt : k < 0 + n := (of_decide_eq_true hlt).2
  omega

/-- A read of some size is empty only at the end. -/
theorem rest_eq_nil_of_taken (hs : size ≠ 0) (h : s.taken size = []) : s.rest = [] := by
  unfold taken at h
  split at h
  · exact h
  · rcases List.take_eq_nil_iff.1 h with h0 | hr
    · omega
    · exact hr

end Stream

namespace Transfer

variable {s s' : Stream} {size : Int} {b : UInt8} {o : Octets}

/-- How many reads of that size take octets, if there are `n`. -/
def pieces (size : Int) (n : Nat) : Nat :=
  if 0 < size then n ⌈/⌉ size.toNat else if n = 0 then 0 else 1

theorem pieces_zero (size : Int) : pieces size 0 = 0 := by
  simp [pieces]

theorem ceilDiv_of_pos {n c : Nat} (hn : 0 < n) (hc : 0 < c) : n ⌈/⌉ c = (n - c) ⌈/⌉ c + 1 := by
  have hsub : n + c - 1 = n - 1 + c := by omega
  rw [Nat.ceilDiv_eq_add_pred_div, Nat.ceilDiv_eq_add_pred_div, hsub, Nat.add_div_right _ hc]
  rcases Nat.le_total c n with hle | hle
  · rw [show n - c + c - 1 = n - 1 by omega]
  · rw [Nat.div_eq_of_lt (by omega : n - 1 < c), Nat.div_eq_of_lt (by omega : n - c + c - 1 < c)]

/-- A piece with octets in it takes one read, and what is left is read as if it came first. -/
theorem pieces_of_read (hs : size ≠ 0) (h : s.read size = .ok (b :: o, s')) :
    pieces size s.rest.length = pieces size s'.rest.length + 1 := by
  obtain ⟨-, ht, rfl⟩ := Stream.read_eq_ok_iff.1 h
  have hlen : 0 < s.rest.length := by
    rw [← s.taken_append_remaining size, ht]
    simp
  unfold pieces Stream.remaining
  by_cases hpos : 0 < size
  · have hneg : ¬size < 0 := by omega
    rw [if_pos hpos, if_pos hpos, if_neg hneg, List.length_drop,
      ceilDiv_of_pos hlen (by omega : 0 < size.toNat)]
  · have hneg : size < 0 := by omega
    rw [if_neg hpos, if_neg hpos, if_pos hneg, if_neg (by omega)]
    rfl

/-- Reading to the end feeds the decoder everything there is, unless one of the reads fails. The
last of them is empty. -/
theorem feedAll_reads (hs : size ≠ 0) (s : Stream) (d : QuotedPrintable.Decoder) :
    ((feedAll size s d).1, (feedAll size s d).2.reads) =
      match s.failureWithin (pieces size s.rest.length + 1) with
      | some (k, reason) => (.error reason, k)
      | none => (.ok (d.feed s.rest), s.reads + (pieces size s.rest.length + 1)) := by
  fun_induction feedAll size s d with
  | case1 s d reason h => rw [Stream.failureWithin_of_error h]
  | case2 s d s' h =>
    have hend := Stream.rest_eq_nil_of_taken hs (Stream.read_eq_ok_iff.1 h).2.1
    rw [hend, List.length_nil, pieces_zero, Stream.failureWithin_of_ok h, Stream.failureWithin_zero]
    obtain ⟨-, -, rfl⟩ := Stream.read_eq_ok_iff.1 h
    rfl
  | case3 s d b o s' h hlt ih =>
    have hreads : s'.reads = s.reads + 1 := by
      obtain ⟨-, -, rfl⟩ := Stream.read_eq_ok_iff.1 h
      rfl
    rw [ih, Stream.failureWithin_of_ok h, pieces_of_read hs h,
      ← QuotedPrintable.Decoder.feed_append, Stream.rest_of_read h, hreads, Nat.add_assoc,
      Nat.add_comm 1]

/-- Reading everything at once is one read. -/
theorem readAll_reads (token : Text) (s : Stream) (f : Octets → Except Fault Octets) :
    ((readAll token s f).outcome, (readAll token s f).reads) =
      match s.failureWithin 1 with
      | some (k, reason) => (.error (.read token reason), k)
      | none => (f s.rest, s.reads + 1) := by
  unfold readAll
  cases h : s.read (-1) with
  | error reason => rw [Stream.failureWithin_of_error h]
  | ok p =>
    obtain ⟨o, s'⟩ := p
    rw [Stream.failureWithin_of_ok h, Stream.failureWithin_zero]
    obtain ⟨-, rfl, rfl⟩ := Stream.read_eq_ok_iff.1 h
    rfl

/-- How many reads it takes to decode `n` octets, for each token. -/
def readsFor (token : Text) (size : Int) (n : Nat) : Nat :=
  if token = "quoted-printable" then pieces size n + 1 else 1

/-- What a body decodes to as a whole, for each token. -/
def whole (token : Text) (body : Octets) : Except Fault Octets :=
  if token = "base64" then decodeBase64 body
  else if token = "quoted-printable" then .ok (QuotedPrintable.decode body)
  else .ok body

theorem decode_eq_of_quotedPrintable {name : Option Text} (hs : size ≠ 0)
    (ht : token name = "quoted-printable") (s : Stream) :
    ((decode name size s).outcome, (decode name size s).reads) =
      match s.failureWithin (pieces size s.rest.length + 1) with
      | some (k, reason) => (.error (.read "quoted-printable" reason), k)
      | none =>
        (.ok (QuotedPrintable.decode s.rest), s.reads + (pieces size s.rest.length + 1)) := by
  have he : Encoding.ofToken "quoted-printable" = .quotedPrintable := rfl
  have hfed := feedAll_reads hs s .fresh
  rw [decode]
  simp only [ht, he]
  generalize feedAll size s .fresh = fed at hfed ⊢
  obtain ⟨outcome, s'⟩ := fed
  cases hf : s.failureWithin (pieces size s.rest.length + 1) with
  | none =>
    rw [hf] at hfed
    obtain ⟨rfl, hreads⟩ := Prod.mk.inj hfed
    exact congrArg (Prod.mk _) hreads
  | some f =>
    rw [hf] at hfed
    obtain ⟨rfl, hreads⟩ := Prod.mk.inj hfed
    exact congrArg (Prod.mk _) hreads

theorem ofToken_of_ne {t : Text} (hb : t ≠ "base64") (hq : t ≠ "quoted-printable") :
    Encoding.ofToken t = .identity ∨ Encoding.ofToken t = .unknown t := by
  rw [Encoding.ofToken, if_neg hb, if_neg hq]
  split
  · exact .inl rfl
  · exact .inr rfl

/-- Under each token the reads and the outcome are those of the body as a whole, unless a read
fails. -/
theorem decode_eq_whole (hs : size ≠ 0) (name : Option Text) (s : Stream) :
    ((decode name size s).outcome, (decode name size s).reads) =
      match s.failureWithin (readsFor (token name) size s.rest.length) with
      | some (k, reason) => (.error (.read (token name) reason), k)
      | none =>
        (whole (token name) s.rest, s.reads + readsFor (token name) size s.rest.length) := by
  by_cases hq : token name = "quoted-printable"
  · rw [decode_eq_of_quotedPrintable hs hq, hq]
    rfl
  · rw [readsFor, if_neg hq, whole, decode]
    by_cases hb : token name = "base64"
    · have he : Encoding.ofToken "base64" = .base64 := rfl
      simp only [hb, he]
      exact readAll_reads "base64" s decodeBase64
    · rw [if_neg hb, if_neg hq]
      rcases ofToken_of_ne hb hq with he | he
      · simp only [he]
        exact readAll_reads (token name) s .ok
      · simp only [he]
        exact readAll_reads (token name) s .ok

/-- A read that fails ends the decoding, and is reported for the token of the encoding, if that is
not empty. If all the reads succeed that it takes, the body is decoded as a whole. The size of a
read has a part in how many there are, and in nothing else. -/
theorem decode_reads {asked : Option Int} {default : Int} (hs : readSize asked default ≠ 0)
    (name : Option Text) (body : Octets) (failure : Option (Nat × Text)) :
    (∀ k reason, failure = some (k, reason) →
      k < readsFor (token name) (readSize asked default) body.length →
      (decode name (readSize asked default) ⟨body, 0, failure⟩).outcome =
          .error (.read (token name) reason) ∧
        (Fault.read (token name) reason).encoding? =
          (if token name = [] then none else some (token name)) ∧
        (decode name (readSize asked default) ⟨body, 0, failure⟩).reads = k) ∧
    ((∀ k reason, failure = some (k, reason) →
        readsFor (token name) (readSize asked default) body.length ≤ k) →
      (decode name (readSize asked default) ⟨body, 0, failure⟩).outcome = whole (token name) body ∧
        (decode name (readSize asked default) ⟨body, 0, failure⟩).reads =
          readsFor (token name) (readSize asked default) body.length) := by
  have h := decode_eq_whole hs name ⟨body, 0, failure⟩
  constructor
  · rintro k reason rfl hk
    have hf : (⟨body, 0, some (k, reason)⟩ : Stream).failureWithin
        (readsFor (token name) (readSize asked default) body.length) = some (k, reason) := by
      simp [Stream.failureWithin, hk]
    rw [hf] at h
    obtain ⟨ho, hr⟩ := Prod.mk.inj h
    exact ⟨ho, rfl, hr⟩
  · intro hlate
    rw [Stream.failureWithin_eq_none hlate] at h
    obtain ⟨ho, hr⟩ := Prod.mk.inj h
    exact ⟨ho, hr.trans (Nat.zero_add _)⟩

/-- `=3D=` in reads of two, where the third, which is empty, fails, or a fourth would. -/
theorem decode_reads_twos :
    readSize (some 0) 2 ≠ 0 ∧
    readsFor (token (some " Quoted-Printable")) (readSize (some 0) 2) 4 = 3 ∧
    ((decode (some " Quoted-Printable") (readSize (some 0) 2)
        ⟨[0x3D, 0x33, 0x44, 0x3D], 0, some (2, "gone")⟩).outcome =
          .error (.read "quoted-printable" "gone") ∧
      (decode (some " Quoted-Printable") (readSize (some 0) 2)
        ⟨[0x3D, 0x33, 0x44, 0x3D], 0, some (2, "gone")⟩).reads = 2) ∧
    (decode (some " Quoted-Printable") (readSize (some 0) 2)
        ⟨[0x3D, 0x33, 0x44, 0x3D], 0, some (3, "gone")⟩).outcome = .ok [0x3D, 0x3D] ∧
      (decode (some " Quoted-Printable") (readSize (some 0) 2)
        ⟨[0x3D, 0x33, 0x44, 0x3D], 0, some (3, "gone")⟩).reads = 3 := by
  have hs : readSize (some 0) 2 ≠ 0 := by decide
  have ht : token (some " Quoted-Printable") = "quoted-printable" := by decide
  have hn : readsFor (token (some " Quoted-Printable")) (readSize (some 0) 2) 4 = 3 := by
    rw [ht]
    decide
  refine ⟨hs, hn, ?_, ?_⟩
  · obtain ⟨hfails, -⟩ := decode_reads hs (some " Quoted-Printable") [0x3D, 0x33, 0x44, 0x3D]
      (some (2, "gone"))
    obtain ⟨ho, -, hr⟩ := hfails 2 "gone" rfl (hn ▸ by decide)
    rw [ht] at ho
    exact ⟨ho, hr⟩
  · obtain ⟨-, hall⟩ := decode_reads hs (some " Quoted-Printable") [0x3D, 0x33, 0x44, 0x3D]
      (some (3, "gone"))
    obtain ⟨ho, hr⟩ := hall fun k reason h => by
      obtain ⟨rfl, -⟩ := Prod.mk.inj (Option.some.inj h)
      exact le_of_eq hn
    rw [ht] at ho
    exact ⟨ho.trans rfl, hr.trans hn⟩

end Transfer

end Mime
