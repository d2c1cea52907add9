import VrpnWire.Frame

/-!
# Reading one frame

How `unbufferRef` ends is fixed by the buffer's length and its length field.
With fewer than four bytes it needs `AtLeast` the rest of the length field and
consumes nothing. A length field below the padded header size makes the body
size underflow, a panic. A frame that is not all there yields `Exactly` the
shortfall, with the length field already consumed. A whole frame is decoded
and consumed with its padding.
-/

set_option autoImplicit false

namespace VrpnWire.FrameDecoder

open VrpnWire.Basic VrpnWire.ByteOrder VrpnWire.Buffers VrpnWire.Types VrpnWire.Padding
open VrpnWire.Frame MessageSize

def lengthFieldOf (b : Bytes) : Nat := (word 32 b 0).toNat

def bodySizeOf (b : Bytes) : Nat := lengthFieldOf b-24

def frameSizeOf (b : Bytes) : Nat := bodySizeOf b+computePadding (bodySizeOf b)+24

def frameMessage (b : Bytes) : SequencedGenericMessage :=
  SequencedMessage.new ⟨word 32 b 4, word 32 b 8⟩ ⟨word 32 b 16⟩ ⟨word 32 b 12⟩
    ⟨(b.drop 24).take (bodySizeOf b)⟩ ⟨word 32 b 20⟩

theorem lengthFieldOf_lt (b : Bytes) : lengthFieldOf b < 2^32 := (word 32 b 0).isLt

variable {b : Bytes}

theorem readLengthField (h4 : 4 ≤ b.length) :
    mapExactlyErrToAtLeast (unbufferBits 32) b = .ok (word 32 b 0) (b.drop 4) :=
  mapExactlyErrToAtLeast_ok (unbufferBits_of_le h4)

theorem unbufferRef_short (h : b.length < 4) :
    SequencedMessage.unbufferRef b = .err (.needMoreData (.atLeast (4-b.length))) b := by
  simp only [SequencedMessage.unbufferRef, Step.bind_apply, len_apply, Outcome.ok_bind, mapExactlyErrToAtLeast,
    unbufferBits_of_lt (w := 32) h, Nat.reduceDiv, Outcome.err_bind]

theorem unbufferRef_underflow (h4 : 4 ≤ b.length) (hf : lengthFieldOf b < 24) :
    SequencedMessage.unbufferRef b = .panic := by
  simp only [SequencedMessage.unbufferRef, Step.bind_apply, len_apply, Outcome.ok_bind, readLengthField h4,
    fromLengthField_of_lt (f := word 32 b 0) hf, Step.orPanic_none, Outcome.panic_bind]

theorem unbufferRef_incomplete (h4 : 4 ≤ b.length) (hf : 24 ≤ lengthFieldOf b)
    (hb : b.length < frameSizeOf b) :
    SequencedMessage.unbufferRef b =
      .err (.needMoreData (.exactly (frameSizeOf b-b.length))) (b.drop 4) := by
  have hl := lengthFieldOf_lt b
  simp only [frameSizeOf, bodySizeOf, lengthFieldOf] at hb hf hl ⊢
  simp only [SequencedMessage.unbufferRef, Step.bind_apply, len_apply, Outcome.ok_bind, readLengthField h4,
    fromLengthField_of_le hf, Step.orPanic_some,
    paddedMessageSize_of_le (show (word 32 b 0).toNat-24 ≤ usizeMax-31 by simp only [usizeMax]; omega),
    bodyPadding_fromUnpaddedBodySize,
    usizeSub_of_le (show 4 ≤ (word 32 b 0).toNat-24+computePadding ((word 32 b 0).toNat-24)+24 by omega),
    List.length_drop]
  rw [if_pos (by omega), Step.fail_apply]
  congr 3
  omega

theorem unbufferRef_complete (h4 : 4 ≤ b.length) (hf : 24 ≤ lengthFieldOf b)
    (hb : frameSizeOf b ≤ b.length) :
    SequencedMessage.unbufferRef b = .ok (frameMessage b) (b.drop (frameSizeOf b)) := by
  have hl := lengthFieldOf_lt b
  simp only [frameMessage, frameSizeOf, bodySizeOf, lengthFieldOf] at hb hf hl ⊢
  have ht : 8 ≤ (b.drop 4).length := by simp; omega
  have hs : 4 ≤ (b.drop 12).length := by simp; omega
  have hy : 4 ≤ (b.drop 16).length := by simp; omega
  have hq : 4 ≤ (b.drop 20).length := by simp; omega
  simp only [SequencedMessage.unbufferRef, SenderId.unbufferRef, TypeId.unbufferRef, SequenceNumber.unbufferRef,
    Step.bind_apply, len_apply, Outcome.ok_bind, readLengthField h4, fromLengthField_of_le hf, Step.orPanic_some,
    paddedMessageSize_of_le (show (word 32 b 0).toNat-24 ≤ usizeMax-31 by simp only [usizeMax]; omega),
    bodyPadding_fromUnpaddedBodySize,
    usizeSub_of_le (show 4 ≤ (word 32 b 0).toNat-24+computePadding ((word 32 b 0).toNat-24)+24 by omega),
    List.length_drop]
  rw [if_neg (by omega)]
  have hd : (word 32 b 0).toNat-24 ≤ (b.drop 24).length := by simp; omega
  have hp : computePadding ((word 32 b 0).toNat-24) ≤ (b.drop (24+((word 32 b 0).toNat-24))).length := by
    simp; omega
  simp only [align, fromUnpaddedBodySize, Step.bind_apply, TimeVal.unbufferRef_of_le ht, word_drop, add_zero,
    Nat.reduceAdd, List.drop_drop, Outcome.ok_bind, unbufferWrapped_of_le _ hs, unbufferWrapped_of_le _ hy,
    unbufferWrapped_of_le _ hq, len_apply, List.length_drop, usizeSub_of_le (show b.length-24 ≤ b.length by omega),
    Nat.sub_sub_self (show 24 ≤ b.length by omega), Step.orPanic_some, Nat.reduceMod, Step.assertEq_self,
    splitTo_of_le hd, runOn_unbufferRef, List.length_nil, splitTo_of_le hp, Step.pure_apply, Outcome.ok.injEq,
    true_and]
  congr 1
  omega

theorem unbufferRef_cases (b : Bytes) :
    (b.length < 4 ∧ SequencedMessage.unbufferRef b = .err (.needMoreData (.atLeast (4-b.length))) b) ∨
    (4 ≤ b.length ∧ lengthFieldOf b < 24 ∧ SequencedMessage.unbufferRef b = .panic) ∨
    (4 ≤ b.length ∧ 24 ≤ lengthFieldOf b ∧ b.length < frameSizeOf b ∧
      SequencedMessage.unbufferRef b = .err (.needMoreData (.exactly (frameSizeOf b-b.length))) (b.drop 4)) ∨
    (4 ≤ b.length ∧ 24 ≤ lengthFieldOf b ∧ frameSizeOf b ≤ b.length ∧
      SequencedMessage.unbufferRef b = .ok (frameMessage b) (b.drop (frameSizeOf b))) := by
  by_cases h4 : b.length < 4
  · exact .inl ⟨h4, unbufferRef_short h4⟩
  have h4 : 4 ≤ b.length := by omega
  by_cases hf : lengthFieldOf b < 24
  · exact .inr (.inl ⟨h4, hf, unbufferRef_underflow h4 hf⟩)
  have hf : 24 ≤ lengthFieldOf b := by omega
  by_cases hb : b.length < frameSizeOf b
  · exact .inr (.inr (.inl ⟨h4, hf, hb, unbufferRef_incomplete h4 hf hb⟩))
  · exact .inr (.inr (.inr ⟨h4, hf, by omega, unbufferRef_complete h4 hf (by omega)⟩))

/-- The decoder panics exactly on a length field below the padded header size. -/
theorem unbufferRef_panic_iff (b : Bytes) :
    SequencedMessage.unbufferRef b = .panic ↔ 4 ≤ b.length ∧ lengthFieldOf b < 24 := by
  rcases unbufferRef_cases b with ⟨h4, he⟩ | ⟨h4, hf, he⟩ | ⟨h4, hf, -, he⟩ | ⟨h4, hf, -, he⟩ <;>
    simp only [he, reduceCtorEq, false_iff, true_iff, not_and, not_lt] <;> omega

/-- A length field of 20 is read as a body of `20 - 24` bytes. -/
theorem unbufferRef_length_field_twenty :
    SequencedMessage.unbufferRef ([0,0,0,20] ++ List.replicate 20 0) = .panic :=
  unbufferRef_underflow (by decide) (by decide)

theorem lengthFieldOf_append (c : Bytes) (h4 : 4 ≤ b.length) : lengthFieldOf (b ++ c) = lengthFieldOf b := by
  simp [lengthFieldOf, word, List.take_append_of_le_length h4]

theorem frameSizeOf_append (c : Bytes) (h4 : 4 ≤ b.length) : frameSizeOf (b ++ c) = frameSizeOf b := by
  simp only [frameSizeOf, bodySizeOf, lengthFieldOf_append c h4]

theorem word_append (c : Bytes) {i : Nat} (h : i+4 ≤ b.length) : word 32 (b ++ c) i = word 32 b i := by
  simp [word, List.drop_append_of_le_length (show i ≤ b.length by omega),
    List.take_append_of_le_length (show 4 ≤ (b.drop i).length by simp; omega)]

theorem frameMessage_append (c : Bytes) (hb : frameSizeOf b ≤ b.length) :
    frameMessage (b ++ c) = frameMessage b := by
  have h4 : 4 ≤ b.length := by simp only [frameSizeOf] at hb; omega
  have hd : bodySizeOf b ≤ (b.drop 24).length := by simp only [frameSizeOf] at hb; simp; omega
  have hbs : bodySizeOf (b ++ c) = bodySizeOf b := by simp only [bodySizeOf, lengthFieldOf_append c h4]
  simp only [frameSizeOf] at hb
  simp only [frameMessage, hbs]
  rw [word_append c (by omega), word_append c (by omega), word_append c (by omega),
    word_append c (by omega), word_append c (by omega),
    List.drop_append_of_le_length (show 24 ≤ b.length by omega), List.take_append_of_le_length hd]

theorem unbufferRef_append_of_incomplete (c : Bytes) (h4 : 4 ≤ b.length) (hf : 24 ≤ lengthFieldOf b)
    (hb : b.length < frameSizeOf b) :
    (c.length < frameSizeOf b-b.length → SequencedMessage.unbufferRef (b ++ c) =
      .err (.needMoreData (.exactly (frameSizeOf b-b.length-c.length))) (b.drop 4 ++ c)) ∧
    (frameSizeOf b-b.length ≤ c.length → SequencedMessage.unbufferRef (b ++ c) =
      .ok (frameMessage (b ++ c)) (c.drop (frameSizeOf b-b.length))) := by
  have hl := lengthFieldOf_append c h4
  have hs := frameSizeOf_append c h4
  have h4' : 4 ≤ (b ++ c).length := by simp; omega
  constructor
  · intro hc
    rw [unbufferRef_incomplete h4' (hl ▸ hf) (by simp [hs]; omega), hs, List.length_append, Nat.sub_add_eq,
      List.drop_append_of_le_length h4]
  · intro hc
    rw [unbufferRef_complete h4' (hl ▸ hf) (by simp [hs]; omega), hs, List.drop_append_eq_append_drop,
      List.drop_eq_nil_of_le (by omega), List.nil_append]

/-- A failed decode has consumed at most the length field: with fewer than
four bytes nothing, and for an incomplete frame exactly the length field, in
which case the original bytes and the `k` missing ones decode a whole frame. -/
theorem unbufferRef_err_consumes_at_most_length_field (b : Bytes) :
    (b.length < 4 → SequencedMessage.unbufferRef b = .err (.needMoreData (.atLeast (4-b.length))) b) ∧
    (∀ e b', 4 ≤ b.length → SequencedMessage.unbufferRef b = .err e b' →
      b' = b.drop 4 ∧ ∃ k, 0 < k ∧ e = .needMoreData (.exactly k) ∧
        ∀ extra : Bytes, extra.length = k → ∃ m, SequencedMessage.unbufferRef (b ++ extra) = .ok m []) := by
  refine ⟨unbufferRef_short, fun e b' h4 h => ?_⟩
  rcases unbufferRef_cases b with ⟨h4', he⟩ | ⟨-, -, he⟩ | ⟨h4', hf, hb, he⟩ | ⟨-, -, -, he⟩ <;>
    rw [he] at h <;> cases h
  · omega
  · refine ⟨rfl, _, by omega, rfl, fun extra hx => ⟨frameMessage (b ++ extra), ?_⟩⟩
    rw [(unbufferRef_append_of_incomplete extra h4' hf hb).2 (by omega), ← hx, List.drop_length]

theorem unbufferRef_err_consumes_at_most_length_field_bare :
    SequencedMessage.unbufferRef [0,0] = .err (.needMoreData (.atLeast 2)) [0,0] ∧
    SequencedMessage.unbufferRef [0,0,0,24] = .err (.needMoreData (.exactly 20)) [] ∧
    ([] : Bytes) = [0,0,0,24].drop 4 ∧ ∃ k, 0 < k ∧ Error.needMoreData (.exactly 20) = .needMoreData (.exactly k) ∧
      ∀ extra : Bytes, extra.length = k → ∃ m, SequencedMessage.unbufferRef ([0,0,0,24] ++ extra) = .ok m [] := by
  have h : SequencedMessage.unbufferRef [0,0,0,24] = .err (.needMoreData (.exactly 20)) [] :=
    unbufferRef_incomplete (by decide) (by decide) (by decide)
  exact ⟨(unbufferRef_err_consumes_at_most_length_field [0,0]).1 (by decide), h,
    (unbufferRef_err_consumes_at_most_length_field [0,0,0,24]).2 _ _ (by decide) h⟩

/-- Decoding a frame does not look past it: what follows the frame in the
buffer is left after it, untouched. -/
theorem unbufferRef_ok_append (c b' : Bytes) (m : SequencedGenericMessage)
    (h : SequencedMessage.unbufferRef b = .ok m b') :
    SequencedMessage.unbufferRef (b ++ c) = .ok m (b' ++ c) := by
  rcases unbufferRef_cases b with ⟨-, he⟩ | ⟨-, -, he⟩ | ⟨-, -, -, he⟩ | ⟨h4, hf, hb, he⟩ <;>
    rw [he] at h <;> cases h
  rw [unbufferRef_complete (by simp; omega) (by rwa [lengthFieldOf_append c h4])
      (by simp [frameSizeOf_append c h4]; omega),
    frameMessage_append c hb, frameSizeOf_append c h4, List.drop_append_of_le_length hb]

theorem unbufferRef_ok_append_empty_body :
    SequencedMessage.unbufferRef ([0,0,0,24] ++ List.replicate 20 0) =
      .ok (frameMessage ([0,0,0,24] ++ List.replicate 20 0)) [] ∧
    SequencedMessage.unbufferRef ([0,0,0,24] ++ List.replicate 20 0 ++ [1]) =
      .ok (frameMessage ([0,0,0,24] ++ List.replicate 20 0)) ([] ++ [1]) := by
  have h : SequencedMessage.unbufferRef ([0,0,0,24] ++ List.replicate 20 0) =
      .ok (frameMessage ([0,0,0,24] ++ List.replicate 20 0)) [] :=
    unbufferRef_complete (by decide) (by decide) (by decide)
  exact ⟨h, unbufferRef_ok_append [1] [] _ h⟩

/-- Decoding resumes by retrying: after `Exactly k` more bytes were asked for,
fewer than `k` appended bytes leave a shortfall smaller by what came, and `k`
or more decode the frame and leave what came after it. -/
theorem unbufferRef_retry (c b' : Bytes) (k : Nat)
    (h : SequencedMessage.unbufferRef b = .err (.needMoreData (.exactly k)) b') :
    b' = b.drop 4 ∧
    (c.length < k → SequencedMessage.unbufferRef (b ++ c) = .err (.needMoreData (.exactly (k-c.length))) (b' ++ c)) ∧
    (k ≤ c.length → ∃ m, SequencedMessage.unbufferRef (b ++ c) = .ok m (c.drop k)) := by
  rcases unbufferRef_cases b with ⟨-, he⟩ | ⟨-, -, he⟩ | ⟨h4, hf, hb, he⟩ | ⟨-, -, -, he⟩ <;>
    rw [he] at h <;> cases h
  have hr := unbufferRef_append_of_incomplete c h4 hf hb
  exact ⟨rfl, hr.1, fun hc => ⟨_, hr.2 hc⟩⟩

theorem unbufferRef_retry_one_byte :
    SequencedMessage.unbufferRef [0,0,0,24] = .err (.needMoreData (.exactly 20)) [] ∧
    (([] : Bytes) = [0,0,0,24].drop 4 ∧
    ([5].length < 20 → SequencedMessage.unbufferRef ([0,0,0,24] ++ [5]) =
      .err (.needMoreData (.exactly (20-[5].length))) ([] ++ [5])) ∧
    (20 ≤ [5].length → ∃ m, SequencedMessage.unbufferRef ([0,0,0,24] ++ [5]) = .ok m ([5].drop 20))) := by
  have h : SequencedMessage.unbufferRef [0,0,0,24] = .err (.needMoreData (.exactly 20)) [] :=
    unbufferRef_incomplete (by decide) (by decide) (by decide)
  exact ⟨h, unbufferRef_retry [5] [] 20 h⟩

theorem unbufferRef_incomplete_drops_length_field :
    SequencedMessage.unbufferRef [0,0,0,24] = .err (.needMoreData (.exactly 20)) [] ∧
    ([] : Bytes) ≠ [0,0,0,24] :=
  ⟨unbufferRef_incomplete (by decide) (by decide) (by decide), by decide⟩

end VrpnWire.FrameDecoder
