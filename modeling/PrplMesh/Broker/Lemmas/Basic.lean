import PrplMesh.Lib.Framing
import PrplMesh.Broker.Impl.Client

/-!
This module contains the verification of the parser for messages.
-/

namespace PrplMesh

open List

namespace Message

def framing : Framing UInt8 where
  headerLength := Header.length
  frameLength bs := Header.length + (Header.ofBytes bs).len.toNat
  headerLength_pos := by decide
  headerLength_le _ := Nat.le_add_right _ _
  frameLength_append _ _ h := by rw [Header.ofBytes_append h]

variable (bs : List UInt8)

theorem frameLength_framing
    : framing.frameLength bs = Header.length + (Header.ofBytes bs).len.toNat := rfl

variable (msg : Message)

def Fits : Prop :=
  msg.frame.length ≤ kMaxFrameLength

structure Header.Valid (header : Header) : Prop where
  magic : header.magic = kMessageMagic
  len : header.len.toNat ≤ kMaxFrameLength

def encode (msgs : List Message) : List UInt8 :=
  (msgs.map toBytes).flatten

@[simp]
theorem encode_cons (msgs : List Message) : encode (msg :: msgs) = msg.toBytes ++ encode msgs := rfl

def decode : Message :=
  createTransportMessage (Header.ofBytes bs).type (bs.drop Header.length)

theorem ofBytes_toBytes_append : Header.ofBytes (msg.toBytes ++ bs) = msg.header := by
  unfold toBytes
  rw [append_assoc, Header.ofBytes_toBytes_append]

@[simp]
theorem decode_toBytes : decode msg.toBytes = msg := by
  have hhdr : Header.ofBytes msg.toBytes = msg.header := by
    unfold toBytes
    rw [Header.ofBytes_toBytes_append]
  have hframe : msg.toBytes.drop Header.length = msg.frame := by
    unfold toBytes
    rw [← Header.length_toBytes msg.header, drop_left]
  unfold decode
  rw [hhdr, hframe, createTransportMessage_header_type]

namespace Fits

variable {msg}

theorem header_len_toNat (h : msg.Fits) : msg.header.len.toNat = msg.frame.length := by
  apply Message.header_len_toNat
  unfold Fits kMaxFrameLength at h
  omega

theorem valid_header (h : msg.Fits) : msg.header.Valid := by
  constructor
  . rfl
  . rw [h.header_len_toNat]
    exact h

theorem isFrame_toBytes (h : msg.Fits) : framing.IsFrame msg.toBytes := by
  constructor
  . rw [length_toBytes]
    apply Nat.le_add_right
  . rw [← append_nil msg.toBytes, frameLength_framing, ofBytes_toBytes_append, h.header_len_toNat]
    simp

end Fits

variable {msgs : List Message}

theorem isFrame_of_mem_map_toBytes (h : ∀ msg ∈ msgs, msg.Fits)
    : ∀ f ∈ msgs.map toBytes, framing.IsFrame f := by
  intro f hf
  obtain ⟨msg, hmsg, rfl⟩ := mem_map.mp hf
  exact (h msg hmsg).isFrame_toBytes

theorem cut_encode (h : ∀ msg ∈ msgs, msg.Fits)
    : framing.cut (encode msgs) = (msgs.map toBytes, []) :=
  Framing.cut_flatten (isFrame_of_mem_map_toBytes h)

def Stream : Prop :=
  ∃ ys msgs, (∀ msg ∈ msgs, msg.Fits) ∧ bs ++ ys = encode msgs

namespace Stream

variable {bs}

theorem exists_cons (h : Stream bs) (hlen : Header.length ≤ bs.length)
    : ∃ (ys : List UInt8) (msg : Message) (msgs : List Message), (∀ msg ∈ msgs, msg.Fits)
        ∧ msg.Fits
        ∧ bs ++ ys = msg.toBytes ++ encode msgs
        ∧ Header.ofBytes bs = msg.header := by
  obtain ⟨ys, msgs, hmsgs, heq⟩ := h
  cases msgs with
  | nil =>
    have := congrArg List.length heq
    simp only [encode, map_nil, flatten_nil, length_append, length_nil] at this
    have : 0 < Header.length := by decide
    omega
  | cons msg msgs =>
    refine ⟨ys, msg, msgs, fun msg h => hmsgs msg (by simp [h]), hmsgs msg (by simp), heq, ?_⟩
    rw [← Header.ofBytes_append hlen ys, heq, encode_cons, ofBytes_toBytes_append]

theorem valid_header (h : Stream bs) (hlen : Header.length ≤ bs.length)
    : (Header.ofBytes bs).Valid := by
  obtain ⟨ys, msg, msgs, -, hmsg, -, hhdr⟩ := h.exists_cons hlen
  rw [hhdr]
  exact hmsg.valid_header

theorem drop_frameLength (h : Stream bs) (hready : framing.Ready bs)
    : Stream (bs.drop (framing.frameLength bs)) := by
  obtain ⟨ys, msg, msgs, hmsgs, hmsg, heq, hhdr⟩ := h.exists_cons hready.1
  have hlen : framing.frameLength bs = msg.toBytes.length := by
    rw [frameLength_framing, hhdr, hmsg.header_len_toNat, length_toBytes]
  refine ⟨ys, msgs, hmsgs, ?_⟩
  have := congrArg (List.drop msg.toBytes.length) heq
  rw [drop_left, drop_append_of_le_length (by rw [← hlen]; exact hready.2)] at this
  rw [hlen, this]

theorem cut_append (hmsgs : ∀ msg ∈ msgs, msg.Fits) {bs cs ys : List UInt8}
    (h : bs ++ (cs ++ ys) = encode msgs)
    : Stream ((framing.cut bs).2 ++ cs) := by
  obtain ⟨gs, hgs, hrest, -, -⟩ :=
    Framing.cut_of_append_eq_flatten (isFrame_of_mem_map_toBytes hmsgs) h
  obtain ⟨msgs1, msgs2, hsplit, -, hmsgs2⟩ := map_eq_append_iff.mp hgs
  refine ⟨ys, msgs2, ?_, ?_⟩
  . intro msg hmsg
    apply hmsgs
    simp [hsplit, hmsg]
  . rw [append_assoc, hrest, ← hmsgs2]
    rfl

end Stream

end Message

open Message

theorem decode_take_frameLength {bs : List UInt8} (h : framing.Ready bs)
    : decode (bs.take (framing.frameLength bs))
        =
      createTransportMessage (Header.ofBytes bs).type
        ((bs.drop Header.length).take (Header.ofBytes bs).len.toNat) := by
  have hhdr := Header.ofBytes_append h.isFrame_take.1 (bs.drop (framing.frameLength bs))
  rw [take_append_drop] at hhdr
  unfold decode
  rw [← hhdr, drop_take, frameLength_framing, Nat.add_sub_cancel_left]

inductive ParsesMessage (bs : List UInt8) : Option Message → List UInt8 → Prop where
  | invalid (hlen : Header.length ≤ bs.length) (h : ¬(Header.ofBytes bs).Valid)
      : ParsesMessage bs none (bs.drop Header.length)
  | incomplete (hvalid : Header.length ≤ bs.length → (Header.ofBytes bs).Valid)
      (h : ¬framing.Ready bs)
      : ParsesMessage bs none bs
  | complete (hvalid : (Header.ofBytes bs).Valid) (h : framing.Ready bs)
      : ParsesMessage bs (some (decode (bs.take (framing.frameLength bs))))
          (bs.drop (framing.frameLength bs))

variable {size : Nat}

theorem parseMessage_spec (buf : BufferImpl size)
    : ParsesMessage buf.data (parseMessage buf).1 (parseMessage buf).2.data := by
  unfold parseMessage
  dsimp only
  split
  next hlen =>
    apply ParsesMessage.incomplete
    . intro hle
      exact absurd hlen (Nat.not_lt.mpr hle)
    . intro hready
      exact absurd hlen (Nat.not_lt.mpr hready.1)
  next hlen =>
  have hlen : Header.length ≤ buf.data.length := Nat.le_of_not_lt hlen
  split
  next hmagic =>
    rw [BufferImpl.data_shift hlen]
    apply ParsesMessage.invalid hlen
    intro hvalid
    exact hmagic hvalid.magic.symm
  next hmagic =>
  split
  next hpay =>
    rw [BufferImpl.data_shift hlen]
    apply ParsesMessage.invalid hlen
    intro hvalid
    exact absurd hpay (Nat.not_lt.mpr hvalid.len)
  next hpay =>
  have hvalid : (Header.ofBytes buf.data).Valid :=
    ⟨(Classical.not_not.mp hmagic).symm, Nat.le_of_not_lt hpay⟩
  split
  next hmsg =>
    apply ParsesMessage.incomplete (fun _ => hvalid)
    intro hready
    exact absurd hmsg (Nat.not_lt.mpr hready.2)
  next hmsg =>
  have hready : framing.Ready buf.data := ⟨hlen, Nat.le_of_not_lt hmsg⟩
  have hshift := BufferImpl.data_shift (show framing.frameLength _ ≤ buf.length from
    hready.2)
  rw [frameLength_framing] at hshift
  rw [← decode_take_frameLength hready, hshift]
  exact ParsesMessage.complete hvalid hready

variable {buf : BufferImpl size}

theorem parseMessage_of_ready (hvalid : (Header.ofBytes buf.data).Valid)
    (hready : framing.Ready buf.data)
    : (parseMessage buf).1 = some (decode (buf.data.take (framing.frameLength buf.data)))
        ∧ (parseMessage buf).2.data = buf.data.drop (framing.frameLength buf.data) := by
  have hspec := parseMessage_spec buf
  generalize (parseMessage buf).1 = res at hspec ⊢
  generalize (parseMessage buf).2.data = rest at hspec ⊢
  cases hspec with
  | invalid _ h => exact absurd hvalid h
  | incomplete _ h => exact absurd hready h
  | complete => exact ⟨rfl, rfl⟩

theorem parseMessage_of_not_ready
    (hvalid : Header.length ≤ buf.data.length → (Header.ofBytes buf.data).Valid)
    (hready : ¬framing.Ready buf.data)
    : (parseMessage buf).1 = none ∧ (parseMessage buf).2.data = buf.data := by
  have hspec := parseMessage_spec buf
  generalize (parseMessage buf).1 = res at hspec ⊢
  generalize (parseMessage buf).2.data = rest at hspec ⊢
  cases hspec with
  | invalid hlen h => exact absurd (hvalid hlen) h
  | incomplete => exact ⟨rfl, rfl⟩
  | complete _ h => exact absurd h hready

theorem handleRead.go_of_stream (h : Stream buf.data)
    : (go buf).1 = (framing.cut buf.data).1.map decode
        ∧ (go buf).2.data = (framing.cut buf.data).2 := by
  fun_induction go buf with
  | case1 buf hlen msg hparse res ih =>
    by_cases hready : framing.Ready buf.data
    . obtain ⟨hmsg, hdata⟩ := parseMessage_of_ready (h.valid_header hready.1) hready
      rw [hparse, Option.some.injEq] at hmsg
      obtain ⟨ih1, ih2⟩ := ih (by rw [hdata]; exact h.drop_frameLength hready)
      rw [Framing.cut_of_ready hready]
      constructor
      . rw [map_cons, hmsg, ih1, hdata]
      . rw [ih2, hdata]
    . obtain ⟨hmsg, -⟩ := parseMessage_of_not_ready h.valid_header hready
      rw [hparse] at hmsg
      simp at hmsg
  | case2 buf hlen hparse =>
    by_cases hready : framing.Ready buf.data
    . obtain ⟨hmsg, -⟩ := parseMessage_of_ready (h.valid_header hready.1) hready
      rw [hparse] at hmsg
      simp at hmsg
    . obtain ⟨-, hdata⟩ := parseMessage_of_not_ready h.valid_header hready
      rw [Framing.cut_of_not_ready hready]
      exact ⟨rfl, hdata⟩
  | case3 buf hlen =>
    have hnil : buf.data = [] := by
      apply eq_nil_of_length_eq_zero
      exact Nat.eq_zero_of_not_pos hlen
    rw [hnil]
    simp

end PrplMesh
