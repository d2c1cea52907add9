import Mathlib.Data.List.Basic

/-!
# Reading from an async stream into a `BytesMut`

`read_n_into_bytes_mut` reads exactly `max_len` bytes with `read_exact` into a
buffer of its own and appends them. `read_into_bytes_mut` and
`BytesMutReader::read_from` mean to append whatever one `read` delivers, but
both first `split()` their buffer, which moves its bytes out and leaves it
empty, and then hand that empty buffer to `read` as the slice to fill. A read
fills at most the slice it is given, so neither ever takes in a byte.

A `BytesMut` is its bytes and the spare capacity after them, with `split`,
`clone` and `unsplit` as the `bytes` crate implements them: the front that
`split` returns has no spare capacity, nor has a clone, and `unsplit` of a
half with no capacity changes nothing. So `read_into_bytes_mut` puts back a
buffer without its spare capacity, and its `assert_eq!(orig_cap, buf.capacity())`
fails whenever there was some; `read_from` joins the two halves of one split
and keeps its capacity. `CookieData::constant_buffer_size()` is outside the
repository's files, so `readCookie` takes the cookie's size as a parameter.
-/

set_option autoImplicit false

namespace VrpnWire.AsyncStd

inductive IoOutcome (ε σ α : Type) where
  | ok (a : α) (s : σ)
  | err (e : ε) (s : σ)
  | panic
  deriving DecidableEq, Repr

/-- An `AsyncRead` stream with state `σ` and I/O errors `ε`. `read` is handed a
slice of some length and fills at most that many bytes; `read_exact` fills
all of it or fails. -/
structure AsyncStream (σ ε : Type) where
  read : Nat → σ → Except ε (List UInt8) × σ
  read_le : ∀ {k : Nat} {s : σ} {bytes : List UInt8} {s' : σ}, read k s = (.ok bytes, s') → bytes.length ≤ k
  readExact : Nat → σ → Except ε (List UInt8) × σ
  readExact_eq : ∀ {k : Nat} {s : σ} {bytes : List UInt8} {s' : σ},
    readExact k s = (.ok bytes, s') → bytes.length = k

def AsyncStream.ofBytes : AsyncStream (List UInt8) Unit where
  read k s := (.ok (s.take k), s.drop k)
  read_le h := by
    simp only [Prod.mk.injEq, Except.ok.injEq] at h
    exact h.1 ▸ List.length_take_le _ _
  readExact k s := if k ≤ s.length then (.ok (s.take k), s.drop k) else (.error (), [])
  readExact_eq {k s _ _} h := by
    dsimp only at h
    split_ifs at h with hk
    · simp only [Prod.mk.injEq, Except.ok.injEq] at h
      exact h.1 ▸ List.length_take_of_le hk
    · cases h

structure BytesMut where
  bytes : List UInt8
  spare : Nat
  deriving DecidableEq, Repr

namespace BytesMut

def len (b : BytesMut) : Nat := b.bytes.length

def capacity (b : BytesMut) : Nat := b.bytes.length + b.spare

def withCapacity (capacity : Nat) : BytesMut := ⟨[], capacity⟩

def split (b : BytesMut) : BytesMut × BytesMut := (⟨b.bytes, 0⟩, ⟨[], b.spare⟩)

def clone (b : BytesMut) : BytesMut := ⟨b.bytes, 0⟩

def setLen (b : BytesMut) (bytes : List UInt8) : BytesMut := ⟨bytes, b.capacity - bytes.length⟩

/-- `reserve` and `extend_from_slice` grow by the least the crate allows. -/
def reserve (b : BytesMut) (additional : Nat) : BytesMut := ⟨b.bytes, max b.spare additional⟩

def extendFromSlice (b : BytesMut) (xs : List UInt8) : BytesMut := ⟨b.bytes ++ xs, b.spare - xs.length⟩

/-- `unsplit(other)`; `contiguous` is whether `other` was split off the end of
`b` with neither reallocated since. -/
def unsplit (b other : BytesMut) (contiguous : Bool) : BytesMut :=
  if b.len = 0 then other
  else if other.capacity = 0 then b
  else if contiguous then ⟨b.bytes ++ other.bytes, b.spare + other.spare⟩
  else b.extendFromSlice other.bytes

def clear (b : BytesMut) : BytesMut := ⟨[], b.capacity⟩

end BytesMut

variable {σ ε : Type} (stream : AsyncStream σ ε)

def readIntoBytesMut (buf : BytesMut) (s : σ) : IoOutcome ε (BytesMut × σ) Nat :=
  let origCap := buf.capacity
  let origLen := buf.len
  let before := buf.split.1
  let buf := buf.split.2
  match stream.read buf.len s with
  | (.error e, s') => .err e (buf, s')
  | (.ok bytes, s') =>
    let n := bytes.length
    let buf := buf.setLen bytes
    let buf := before.unsplit buf.clone false
    if origCap ≠ buf.capacity then .panic
    else if origLen + n ≠ buf.len then .panic
    else .ok n (buf, s')

def readNIntoBytesMut (buf : BytesMut) (maxLen : Nat) (s : σ) : IoOutcome ε (BytesMut × σ) Nat :=
  let buf := buf.reserve maxLen
  let origCap := buf.capacity
  let origLen := buf.len
  match stream.readExact maxLen s with
  | (.error e, s') => .err e (buf, s')
  | (.ok localBuf, s') =>
    let buf := buf.extendFromSlice localBuf
    if origCap ≠ buf.capacity then .panic
    else if origLen + maxLen ≠ buf.len then .panic
    else .ok maxLen (buf, s')

def readCookie (cookieSize : Nat) (buf : BytesMut) (s : σ) : IoOutcome ε (BytesMut × σ) Unit :=
  match readNIntoBytesMut stream buf cookieSize s with
  | .ok _ t => .ok () t
  | .err e t => .err e t
  | .panic => .panic

structure BytesMutReader where
  contents : BytesMut
  deriving DecidableEq, Repr

namespace BytesMutReader

def withCapacity (capacity : Nat) : BytesMutReader := ⟨BytesMut.withCapacity capacity⟩

def readFrom (r : BytesMutReader) (s : σ) : IoOutcome ε σ BytesMutReader :=
  let buf := r.contents
  let origCap := buf.capacity
  let origLen := buf.len
  let existingBytes := buf.split.1
  let buf := buf.split.2
  match stream.read buf.len s with
  | (.error e, s') => .err e s'
  | (.ok bytes, s') =>
    let n := bytes.length
    let buf := buf.setLen bytes
    let existingBytes := existingBytes.unsplit buf true
    if origCap ≠ existingBytes.capacity then .panic
    else if origLen + n ≠ existingBytes.len then .panic
    else .ok ⟨existingBytes⟩ s'

def clear (r : BytesMutReader) : BytesMutReader := ⟨r.contents.clear⟩

def len (r : BytesMutReader) : Nat := r.contents.len

def takeContents (r : BytesMutReader) : BytesMut × BytesMutReader := (r.contents.split.1, ⟨r.contents.split.2⟩)

def giveBackContents (r : BytesMutReader) (contents : BytesMut) (contiguous : Bool) : BytesMutReader :=
  ⟨contents.unsplit r.contents contiguous⟩

end BytesMutReader

variable {stream}

theorem read_split_empty {s s' : σ} {bytes : List UInt8}
    (h : stream.read 0 s = (.ok bytes, s')) : bytes = [] :=
  List.eq_nil_of_length_eq_zero (Nat.le_zero.mp (stream.read_le h))

theorem readNIntoBytesMut_spec (buf : BytesMut) (maxLen : Nat) (s : σ) :
    (∀ n t, readNIntoBytesMut stream buf maxLen s = .ok n t →
      n = maxLen ∧ ∃ bytes, stream.readExact maxLen s = (.ok bytes, t.2) ∧ bytes.length = maxLen ∧
        t.1 = (buf.reserve maxLen).extendFromSlice bytes) ∧
    (∀ e t, readNIntoBytesMut stream buf maxLen s = .err e t → t.1 = buf.reserve maxLen) ∧
    readNIntoBytesMut stream buf maxLen s ≠ .panic := by
  rcases h : stream.readExact maxLen s with ⟨e | bytes, s'⟩
  · simp [readNIntoBytesMut, h]
  · have hl := stream.readExact_eq h
    have hr : readNIntoBytesMut stream buf maxLen s =
        .ok maxLen ((buf.reserve maxLen).extendFromSlice bytes, s') := by
      simp only [readNIntoBytesMut, h, BytesMut.capacity, BytesMut.len, BytesMut.reserve,
        BytesMut.extendFromSlice, List.length_append, hl]
      rw [if_neg (by omega), if_neg (by omega)]
    simp [hr, hl]

/-- `read_into_bytes_mut` never takes in a byte: when the read succeeds it
returns `Ok(0)` with the buffer as it was if that had no spare capacity, and
panics on its capacity assertion if it had some; on an I/O error the buffer is
left empty, the bytes it held dropped. -/
theorem readIntoBytesMut_reads_nothing (buf : BytesMut) (s : σ) :
    (∀ e s', stream.read 0 s = (.error e, s') → readIntoBytesMut stream buf s = .err e (⟨[], buf.spare⟩, s')) ∧
    (∀ bytes s', stream.read 0 s = (.ok bytes, s') →
      readIntoBytesMut stream buf s = if buf.len < buf.capacity then .panic else .ok 0 (buf, s')) := by
  refine ⟨fun e s' h => by simp [readIntoBytesMut, BytesMut.split, BytesMut.len, h], fun bytes s' h => ?_⟩
  obtain rfl := read_split_empty h
  obtain ⟨bytes, spare⟩ := buf
  by_cases hb : bytes = [] <;> by_cases hs : spare = 0 <;>
    simp [readIntoBytesMut, BytesMut.split, BytesMut.len, BytesMut.capacity, BytesMut.setLen,
      BytesMut.clone, BytesMut.unsplit, h, hb, hs, Nat.pos_iff_ne_zero]

example : readIntoBytesMut AsyncStream.ofBytes ⟨[1, 2], 6⟩ [5, 6, 7] = .panic := rfl

example : readIntoBytesMut AsyncStream.ofBytes ⟨[1, 2], 0⟩ [5, 6, 7] = .ok 0 (⟨[1, 2], 0⟩, [5, 6, 7]) := rfl

/-- `BytesMutReader::read_from` never takes in a byte: when the read succeeds
it returns the reader as it was, and its assertions always hold. -/
theorem readFrom_reads_nothing (r : BytesMutReader) (s : σ) :
    (∀ e s', stream.read 0 s = (.error e, s') → r.readFrom stream s = .err e s') ∧
    (∀ bytes s', stream.read 0 s = (.ok bytes, s') → r.readFrom stream s = .ok r s') := by
  refine ⟨fun e s' h => by simp [BytesMutReader.readFrom, BytesMut.split, BytesMut.len, h], fun bytes s' h => ?_⟩
  obtain rfl := read_split_empty h
  obtain ⟨⟨bytes, spare⟩⟩ := r
  by_cases hb : bytes = [] <;> by_cases hs : spare = 0 <;>
    simp [BytesMutReader.readFrom, BytesMut.split, BytesMut.len, BytesMut.capacity, BytesMut.setLen,
      BytesMut.unsplit, h, hb, hs]

end VrpnWire.AsyncStd
