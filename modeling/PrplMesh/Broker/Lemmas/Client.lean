import PrplMesh.Lib.Machine
import PrplMesh.Broker.Lemmas.Basic

/-!
This module contains the verification of the client side of the local bus.
-/

namespace PrplMesh

open Message SocketConnectionImpl List

theorem serializeMessage_of_fits {msg : Message} (h : msg.Fits)
    : (serializeMessage msg (BufferImpl.empty : BufferImpl brokerBufferSize)).1
        ∧ (serializeMessage msg (BufferImpl.empty : BufferImpl brokerBufferSize)).2.data
            =
          msg.toBytes := by
  have hsize : Header.length + msg.frame.length ≤ brokerBufferSize := by
    unfold Fits at h
    unfold brokerBufferSize
    omega
  have hlen : Header.length + msg.header.len.toNat ≤ brokerBufferSize := by
    rw [h.header_len_toNat]
    exact hsize
  have hemp : (BufferImpl.empty : BufferImpl brokerBufferSize).length = 0 := rfl
  obtain ⟨hhdr, hhdr'⟩ := BufferImpl.append_of_le
    (show (BufferImpl.empty : BufferImpl brokerBufferSize).length + msg.header.toBytes.length
      ≤ brokerBufferSize by rw [hemp, Header.length_toBytes]; omega)
  unfold serializeMessage
  simp only [hemp, hhdr, Nat.lt_irrefl, Nat.not_lt.mpr hlen, ↓reduceIte, Bool.not_true,
    Bool.false_eq_true, gt_iff_lt]
  generalize (BufferImpl.append msg.header.toBytes BufferImpl.empty).2 = buffer at hhdr'
  rw [BufferImpl.data_empty, nil_append] at hhdr'
  have hframe : msg.frame.take msg.header.len.toNat = msg.frame := by
    rw [h.header_len_toNat, take_length]
  rw [hframe]
  have happend := BufferImpl.append_of_le (show buffer.length + msg.frame.length ≤ brokerBufferSize
    by unfold BufferImpl.length; rw [hhdr', Header.length_toBytes]; exact hsize)
  rw [hhdr'] at happend
  exact happend

def serializeMessages (msgs : List Message) : List UInt8 :=
  msgs.flatMap (fun msg =>
    (serializeMessage msg (BufferImpl.empty : BufferImpl brokerBufferSize)).2.data)

variable {msgs : List Message}

theorem serializeMessages_eq (h : ∀ msg ∈ msgs, msg.Fits)
    : serializeMessages msgs = encode msgs := by
  unfold serializeMessages encode
  rw [flatMap_def]
  congr 1
  apply map_congr_left
  intro msg hmsg
  exact (serializeMessage_of_fits (h msg hmsg)).2

def clientMachine : Machine BrokerClient Nat (List Message) where
  step client count := handleRead count client

def handledMessages (hist : List (Machine.Step BrokerClient Nat (List Message))) : List Message :=
  hist.flatMap Machine.Step.output

structure BrokerClient.Received (msgs : List Message) (bs : List UInt8) (handled : List Message)
    (client : BrokerClient) : Prop where
  stream : bs ++ client.socket = encode msgs
  handled : handled = (framing.cut bs).1.map decode
  buffer : client.buffer.data = (framing.cut bs).2

namespace BrokerClient.Received

variable {bs : List UInt8} {handled : List Message} {client : BrokerClient}
  (h : Received msgs bs handled client)

include h

variable (hmsgs : ∀ msg ∈ msgs, msg.Fits)

include hmsgs

theorem length_buffer_lt : client.buffer.length < brokerBufferSize := by
  obtain ⟨gs, hgs, -, hhead, hnil⟩ :=
    Framing.cut_of_append_eq_flatten (isFrame_of_mem_map_toBytes hmsgs) h.stream
  unfold BufferImpl.length
  rw [h.buffer]
  cases gs with
  | nil =>
    rw [hnil rfl]
    decide
  | cons g gs =>
    have hlt := hhead g (by simp)
    have hmem : g ∈ msgs.map toBytes := by simp [hgs]
    obtain ⟨msg, hmsg, rfl⟩ := mem_map.mp hmem
    have hfits : msg.frame.length ≤ kMaxFrameLength := hmsgs msg hmsg
    rw [length_toBytes] at hlt
    unfold brokerBufferSize
    omega

theorem stream_buffer (count : Nat)
    : Stream (client.buffer.data ++ received count client.socket client.buffer) := by
  rw [h.buffer]
  apply Stream.cut_append hmsgs
  rw [received_append_socket_receive]
  exact h.stream

theorem handleRead (count : Nat)
    : Received msgs (bs ++ received count client.socket client.buffer)
        (handled ++ (handleRead count client).1) (PrplMesh.handleRead count client).2 := by
  have hstr := h.stream_buffer hmsgs count
  have hsock : bs ++ received count client.socket client.buffer
      ++ (receive count client.socket client.buffer).2.1 = encode msgs := by
    rw [append_assoc, received_append_socket_receive, h.stream]
  have hcut := Framing.cut_append (F := framing) bs (received count client.socket client.buffer)
  rw [← h.buffer] at hcut
  unfold PrplMesh.handleRead
  dsimp only
  split
  next hle =>
    have hnil := received_eq_nil_of_nonpos hle
    rw [receive_of_received_eq_nil hnil, hnil, append_nil, append_nil]
    exact h
  next hle =>
  rw [← data_receive] at hstr hcut
  obtain ⟨hgo1, hgo2⟩ := handleRead.go_of_stream hstr
  constructor
  . exact hsock
  . rw [hcut, map_append, hgo1, h.handled]
  . rw [hcut]
    exact hgo2

theorem length_socket_lt {count : Nat} (hcnt : 0 < count) (hsock : client.socket ≠ [])
    : (PrplMesh.handleRead count client).2.socket.length < client.socket.length := by
  have hroom := h.length_buffer_lt hmsgs
  have hstr := (h.handleRead hmsgs count).stream
  rw [← h.stream, append_assoc] at hstr
  have hlen := congrArg List.length (append_cancel_left hstr)
  have hpos := length_pos_iff.mpr hsock
  simp only [length_append, received, length_take] at hlen
  omega

end BrokerClient.Received

theorem received_of_run (hmsgs : ∀ msg ∈ msgs, msg.Fits) (counts : List Nat)
    : ∃ bs, BrokerClient.Received msgs bs
        (handledMessages (clientMachine.trace ⟨encode msgs, .empty⟩ counts))
        (clientMachine.run ⟨encode msgs, .empty⟩ counts) := by
  apply Machine.invariant (I := fun hist client =>
    ∃ bs, BrokerClient.Received msgs bs (handledMessages hist) client)
  . refine ⟨[], rfl, ?_, ?_⟩
    . simp [handledMessages]
    . simp
  . intro hist client count _ ih
    obtain ⟨bs, hrecv⟩ := ih
    refine ⟨bs ++ received count client.socket client.buffer, ?_⟩
    unfold handledMessages
    rw [flatMap_append, flatMap_singleton]
    exact hrecv.handleRead hmsgs count

theorem socket_run_eq_nil (hmsgs : ∀ msg ∈ msgs, msg.Fits) {counts : List Nat}
    (hcounts : ∀ count ∈ counts, 0 < count) (hlen : (encode msgs).length ≤ counts.length)
    : (clientMachine.run ⟨encode msgs, .empty⟩ counts).socket = [] := by
  have hle : (clientMachine.run ⟨encode msgs, .empty⟩ counts).socket.length
      ≤ (encode msgs).length - counts.length := by
    clear hlen
    induction counts using List.reverseRecOn with
    | nil => exact Nat.le_refl _
    | append_singleton counts count ih =>
      specialize ih (fun count h => hcounts count (by simp [h]))
      obtain ⟨bs, hrecv⟩ := received_of_run hmsgs counts
      rw [Machine.run_append]
      generalize clientMachine.run ⟨encode msgs, .empty⟩ counts = client at hrecv ih
      change (handleRead count client).2.socket.length ≤ _
      rw [length_append, length_singleton]
      by_cases hsock : client.socket = []
      . have hstr := (hrecv.handleRead hmsgs count).stream
        rw [← hrecv.stream, append_assoc] at hstr
        have hnil := append_cancel_left hstr
        rw [hsock, append_eq_nil_iff] at hnil
        simp [hnil.2]
      . have := hrecv.length_socket_lt hmsgs (hcounts count (by simp)) hsock
        omega
  apply eq_nil_of_length_eq_zero
  omega

theorem clientMachine_handles {msgs : List Message}
    (hmsgs : ∀ msg ∈ msgs, msg.frame.length ≤ kMaxFrameLength) (counts : List Nat)
    : let client : BrokerClient := ⟨serializeMessages msgs, .empty⟩
      handledMessages (clientMachine.trace client counts) <+: msgs
        ∧ (clientMachine.run client counts).buffer.length < brokerBufferSize
        ∧ ((clientMachine.run client counts).socket = []
          → handledMessages (clientMachine.trace client counts) = msgs
            ∧ (clientMachine.run client counts).buffer.length = 0)
        ∧ ((∀ count ∈ counts, 0 < count) → (serializeMessages msgs).length ≤ counts.length
          → (clientMachine.run client counts).socket = []) := by
  rw [serializeMessages_eq hmsgs]
  intro client
  obtain ⟨bs, hrecv⟩ := received_of_run hmsgs counts
  refine ⟨?_, hrecv.length_buffer_lt hmsgs, ?_, ?_⟩
  . obtain ⟨gs, hgs, -⟩ :=
      Framing.cut_of_append_eq_flatten (isFrame_of_mem_map_toBytes hmsgs) hrecv.stream
    refine ⟨gs.map decode, ?_⟩
    rw [hrecv.handled, ← map_append, ← hgs, map_map]
    simp [Function.comp_def]
  . intro hsock
    have hstr := hrecv.stream
    rw [hsock, append_nil] at hstr
    have hhdl := hrecv.handled
    have hbuf := hrecv.buffer
    rw [hstr, cut_encode hmsgs] at hhdl hbuf
    refine ⟨?_, by unfold BufferImpl.length; rw [hbuf]; rfl⟩
    rw [hhdl, map_map]
    simp [Function.comp_def]
  . intro hcounts hlen
    exact socket_run_eq_nil hmsgs hcounts hlen

def Message.vlanConfigurationRequest : Message where
  type := .vlanConfigurationRequestMessage
  frame := [0, 0, 5, 0, 1, 0]
  hframe := by decide

theorem clientMachine_handles_vlanConfigurationRequests
    : let msgs := [vlanConfigurationRequest, vlanConfigurationRequest]
      handledMessages (clientMachine.trace ⟨serializeMessages msgs, .empty⟩ [7, 7, 7, 7, 7, 7])
        = msgs := by
  intro msgs
  have hmsgs : ∀ msg ∈ msgs, msg.frame.length ≤ kMaxFrameLength := by decide
  exact ((clientMachine_handles hmsgs [7, 7, 7, 7, 7, 7]).2.2.1 (by decide +kernel)).1

end PrplMesh
