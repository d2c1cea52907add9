import VrpnWire.PartialStreams

/-!
# A receiver over any chunking of the stream

The transport delivers a sender's stream in chunks of any size. The receive
loop is outside the repository's files; the spec describes it: append each
chunk to the bytes kept so far, decode whole frames from a copy of them, and
keep what is left for the next chunk. Driven so, the decoder delivers every
message of the stream exactly once and in order, whatever the chunking, and
between chunks the receiver keeps exactly the bytes of the frame in flight.
-/

set_option autoImplicit false

namespace VrpnWire.Receiver

open VrpnWire.Basic VrpnWire.Buffers VrpnWire.Padding VrpnWire.Frame VrpnWire.FrameEncoder
open VrpnWire.FrameDecoder VrpnWire.FrameStream VrpnWire.PartialStreams

/-- Modelled from the spec: decode frames from the kept bytes until the decoder
fails, each attempt on a copy, so that a failure leaves the kept bytes as they
were; `none` is a panic of the decoder. -/
def drain : Nat → Bytes → Option (List SequencedGenericMessage × Bytes)
  | 0, b => some ([], b)
  | fuel+1, b =>
    match SequencedMessage.unbufferRef b with
    | .ok m rest => (drain fuel rest).map fun (ms, r) => (m :: ms, r)
    | .err _ _ => some ([], b)
    | .panic => none

/-- Modelled from the spec: a chunk arrives and is appended to the kept bytes,
which are then drained, with fuel for a frame per byte. -/
def receive (st : List SequencedGenericMessage × Bytes) (chunk : Bytes) :
    Option (List SequencedGenericMessage × Bytes) :=
  (drain (st.2.length+chunk.length+1) (st.2 ++ chunk)).map fun (ms, r) => (st.1 ++ ms, r)

/-- Modelled from the spec: the chunks, in the order they arrive, into a
receiver that has delivered nothing and keeps nothing. -/
def receiveAll (chunks : List Bytes) : Option (List SequencedGenericMessage × Bytes) :=
  chunks.foldl (fun st c => st.bind (receive · c)) (some ([], []))

theorem drain_unbufferN {R : Bytes} (hR : ∃ e r, SequencedMessage.unbufferRef R = .err e r) (j : Nat)
    {fuel : Nat} {b : Bytes} {ms : List SequencedGenericMessage} (hj : j < fuel)
    (h : unbufferN j b = .ok ms R) : drain fuel b = some (ms, R) := by
  induction j generalizing fuel b ms with
  | zero =>
    obtain _ | fuel := fuel
    · omega
    obtain ⟨e, r, he⟩ := hR
    obtain ⟨rfl, rfl⟩ : [] = ms ∧ b = R := by simpa [unbufferN] using h
    simp [drain, he]
  | succ j ih =>
    obtain _ | fuel := fuel
    · omega
    rcases hb : SequencedMessage.unbufferRef b with ⟨m, rest⟩ | ⟨e, r⟩ | _
    · rcases hn : unbufferN j rest with ⟨ms', R'⟩ | ⟨e, r⟩ | _ <;> simp [unbufferN, hb, hn] at h
      obtain ⟨rfl, rfl⟩ := h
      simp [drain, hb, ih (show j < fuel by omega) hn]
    · simp [unbufferN, hb] at h
    · simp [unbufferN, hb] at h

theorem length_le_flatMap_frameBytes (l : List SequencedGenericMessage) :
    l.length ≤ (l.flatMap frameBytes).length := by
  induction l with
  | nil => exact Nat.zero_le _
  | cons m l ih =>
    rw [List.flatMap_cons, List.length_append, List.length_cons, length_frameBytes]
    omega

theorem stream_take_append_drop (ms : List SequencedGenericMessage) (j : Nat) :
    (ms.take j).flatMap frameBytes ++ (ms.drop j).flatMap frameBytes = ms.flatMap frameBytes := by
  rw [← List.flatMap_append, List.take_append_drop]

/-- What a receiver holds after taking in the bytes `Q` of the stream of `ms`:
the first `j` messages delivered, the rest of `Q` kept, and the kept bytes
shorter than the next frame, so that no whole frame is left undecoded. -/
structure Holds (ms : List SequencedGenericMessage) (Q : Bytes) (j : Nat)
    (st : List SequencedGenericMessage × Bytes) : Prop where
  le_length : j ≤ ms.length
  delivered : st.1 = ms.take j
  split : Q = (ms.take j).flatMap frameBytes ++ st.2
  short : j = ms.length ∧ st.2 = [] ∨ ∃ m, ms[j]? = some m ∧ st.2.length < (frameBytes m).length

theorem Holds.complete {ms : List SequencedGenericMessage} {j : Nat} {st : List SequencedGenericMessage × Bytes}
    (h : Holds ms (ms.flatMap frameBytes) j st) : st = (ms, []) := by
  have hR : st.2 = (ms.drop j).flatMap frameBytes :=
    List.append_cancel_left (h.split.symm.trans (stream_take_append_drop ms j).symm)
  rcases h.short with ⟨hj, h2⟩ | ⟨m, hm, hlt⟩
  · rw [Prod.ext_iff, h.delivered, hj, List.take_length, h2]
    exact ⟨rfl, rfl⟩
  · obtain ⟨hlen, heq⟩ := List.getElem?_eq_some_iff.mp hm
    rw [hR, List.drop_eq_getElem_cons hlen, heq, List.flatMap_cons, List.length_append] at hlt
    omega

section Stream

variable (ms : List SequencedGenericMessage) (hms : ∀ m ∈ ms, m.message.body.inner.length+24 ≤ u32Max)
include hms

theorem drain_take_stream (k fuel : Nat) (hf : ((ms.flatMap frameBytes).take k).length < fuel) :
    ∃ j R, drain fuel ((ms.flatMap frameBytes).take k) = some (ms.take j, R) ∧
      Holds ms ((ms.flatMap frameBytes).take k) j (ms.take j, R) := by
  obtain ⟨j, R, hd, hle, hs, hR⟩ := unbufferN_take_stream ms hms k
  have hstop : ∃ e r, SequencedMessage.unbufferRef R = .err e r := by
    rcases hR with ⟨-, rfl⟩ | ⟨m, hm, hp, hlt⟩
    · exact ⟨_, _, unbufferRef_short (by simp)⟩
    · rw [unbufferRef_cut_frame (hms m (List.getElem?_mem hm)) hp hlt]
      split_ifs <;> exact ⟨_, _, rfl⟩
  have hj : j < fuel := by
    have := length_le_flatMap_frameBytes (ms.take j)
    rw [List.length_take, min_eq_left hle] at this
    rw [hs, List.length_append] at hf
    omega
  exact ⟨j, R, drain_unbufferN hstop j hj hd, ⟨hle, rfl, hs, hR.imp_right fun ⟨m, hm, _, hlt⟩ => ⟨m, hm, hlt⟩⟩⟩

theorem receive_holds {Q c : Bytes} {j : Nat} {st : List SequencedGenericMessage × Bytes}
    (h : Holds ms Q j st) (hc : Q ++ c <+: ms.flatMap frameBytes) :
    ∃ j' st', receive st c = some st' ∧ Holds ms (Q ++ c) j' st' := by
  rw [h.split, ← stream_take_append_drop ms j, List.append_assoc] at hc
  have hk := List.prefix_iff_eq_take.mp ((List.prefix_append_right_inj _).mp hc)
  obtain ⟨j', R, hd, h'⟩ := drain_take_stream (ms.drop j) (fun x hx => hms x (List.mem_of_mem_drop hx))
    (st.2 ++ c).length (st.2.length+c.length+1) ((List.length_take_le _ _).trans_lt (by simp))
  rw [← hk] at hd h'
  have hj : j+j' ≤ ms.length := by
    have h1 := h'.le_length
    have h2 := h.le_length
    rw [List.length_drop] at h1
    omega
  refine ⟨j+j', (ms.take (j+j'), R), ?_, ⟨hj, rfl, ?_, ?_⟩⟩
  · simp only [receive, hd, Option.map_some', h.delivered, List.take_add]
  · rw [h.split, List.append_assoc, h'.split, List.take_add, List.flatMap_append, List.append_assoc]
  · rcases h'.short with ⟨hl, hR⟩ | ⟨m', hm', hR⟩
    · exact .inl ⟨by rw [List.length_drop] at hl; omega, hR⟩
    · exact .inr ⟨m', by simpa [List.getElem?_drop] using hm', hR⟩

theorem foldl_receive_holds (chunks : List Bytes) {Q : Bytes} {j : Nat}
    {st : List SequencedGenericMessage × Bytes} (h : Holds ms Q j st)
    (hc : Q ++ chunks.flatten <+: ms.flatMap frameBytes) :
    ∃ j' st', chunks.foldl (fun st c => st.bind (receive · c)) (some st) = some st' ∧
      Holds ms (Q ++ chunks.flatten) j' st' := by
  induction chunks generalizing Q j st with
  | nil => exact ⟨j, st, rfl, by rwa [List.flatten_nil, List.append_nil]⟩
  | cons c cs ih =>
    rw [List.flatten_cons, ← List.append_assoc] at hc ⊢
    obtain ⟨j1, st1, hr, h1⟩ := receive_holds ms hms h ((List.prefix_append _ _).trans hc)
    simp only [List.foldl_cons, Option.some_bind, hr]
    exact ih h1 hc

/-- However the sender's stream of frames is cut into chunks, a receiver that
appends each chunk to the bytes it kept and decodes whole frames from a copy
never panics; after any chunks so far it has delivered exactly the whole
frames they hold, in order and once each, and keeps exactly the bytes after
them, fewer than the next frame needs; and once the whole stream is in it has
delivered every message and keeps nothing. -/
theorem receiveAll_chunks (chunks : List Bytes) (hc : chunks.flatten <+: ms.flatMap frameBytes) :
    ∃ j st, receiveAll chunks = some st ∧ Holds ms chunks.flatten j st ∧
      (chunks.flatten = ms.flatMap frameBytes → st = (ms, [])) := by
  have h0 : Holds ms [] 0 ([], []) := by
    refine ⟨by simp, rfl, rfl, ?_⟩
    cases ms with
    | nil => exact .inl ⟨rfl, rfl⟩
    | cons m _ => exact .inr ⟨m, by simp, by rw [length_frameBytes]; simp⟩
  obtain ⟨j, st, hr, h⟩ := foldl_receive_holds ms hms chunks h0 (by simpa using hc)
  rw [List.nil_append] at h
  exact ⟨j, st, hr, h, fun he => (he ▸ h).complete⟩

end Stream

theorem receiveAll_chunks_control :
    (∀ m ∈ [controlMessage, controlMessage], m.message.body.inner.length+24 ≤ u32Max) ∧
    [((frameBytes controlMessage).take 30), ((frameBytes controlMessage).drop 30 ++ frameBytes controlMessage)].flatten
      <+: [controlMessage, controlMessage].flatMap frameBytes ∧
    ∃ j st, receiveAll [((frameBytes controlMessage).take 30),
        ((frameBytes controlMessage).drop 30 ++ frameBytes controlMessage)] = some st ∧
      Holds [controlMessage, controlMessage] [((frameBytes controlMessage).take 30),
        ((frameBytes controlMessage).drop 30 ++ frameBytes controlMessage)].flatten j st ∧
      ([((frameBytes controlMessage).take 30),
          ((frameBytes controlMessage).drop 30 ++ frameBytes controlMessage)].flatten =
        [controlMessage, controlMessage].flatMap frameBytes → st = ([controlMessage, controlMessage], [])) := by
  have hms : ∀ m ∈ [controlMessage, controlMessage], m.message.body.inner.length+24 ≤ u32Max := by decide
  have hc : [((frameBytes controlMessage).take 30),
      ((frameBytes controlMessage).drop 30 ++ frameBytes controlMessage)].flatten
        <+: [controlMessage, controlMessage].flatMap frameBytes := by
    simp [← List.append_assoc, List.take_append_drop]
  exact ⟨hms, hc, receiveAll_chunks _ hms _ hc⟩

end VrpnWire.Receiver
