import PrplMesh.Broker.Impl.Server
import PrplMesh.Broker.Lemmas.Client

/-!
This module contains the verification of the server side of the local bus.
-/

namespace PrplMesh

open Message List

theorem handleMsg_of_ready {pending : List UInt8} (hvalid : (Header.ofBytes pending).Valid)
    (hready : framing.Ready pending)
    : handleMsg pending
        =
      (.message (decode (pending.take (framing.frameLength pending))),
        pending.drop (framing.frameLength pending)) := by
  have hlen := hready.1
  have hframe := hready.2
  rw [frameLength_framing] at hframe
  change Header.length ≤ pending.length at hlen
  have htake : (pending.take Header.length).length = Header.length := by
    rw [length_take]
    omega
  have hpos : 0 < Header.length := by decide
  unfold handleMsg readTransportMessage
  simp only [Nat.not_lt.mpr hlen, htake, hvalid.magic, ne_eq, not_true_eq_false, ↓reduceIte,
    show ¬(Header.ofBytes pending).len.toNat ≥ pending.length by omega, Nat.not_lt.mpr hvalid.len]
  rw [decode_take_frameLength hready, frameLength_framing]
  split
  next hzero => simp [hzero]
  next hzero =>
  have hlength : 0 < (Header.ofBytes pending).len.toNat := by
    apply Nat.pos_of_ne_zero
    intro h
    apply hzero
    apply UInt32.toNat_inj.mp h
  have hbody : (pending.drop Header.length).length ≥ (Header.ofBytes pending).len.toNat := by
    rw [length_drop]
    omega
  have hne : pending.drop Header.length ≠ [] := by
    apply ne_nil_of_length_pos
    omega
  unfold readTransportMessage.readBody
  simp only [hne, ↓reduceIte, length_take, Nat.min_eq_left hbody, ne_eq, not_true_eq_false,
    drop_drop]

namespace serve

variable {pending : List UInt8}

theorem go_of_lt (h : pending.length < Header.length)
    : go pending = (⟨[], []⟩, ⟨pending, none⟩) := by
  rw [go]
  simp only [h, ↓reduceIte]

theorem go_of_ready (h : Stream pending) (hready : framing.Ready pending)
    : go pending
        =
      let served := go (pending.drop (framing.frameLength pending))
      (⟨(pending, pending.drop (framing.frameLength pending)) :: served.1.calls,
          decode (pending.take (framing.frameLength pending)) :: served.1.messages⟩,
        served.2) := by
  have hlen : ¬pending.length < Header.length := Nat.not_lt.mpr hready.1
  rw [go]
  simp only [hlen, ↓reduceIte, handleMsg_of_ready (h.valid_header hready.1) hready]
  rfl

theorem exists_mem_calls_go (h : Header.length ≤ pending.length)
    : ∃ after, (pending, after) ∈ (go pending).1.calls ∧ after ≠ pending := by
  have hlen : ¬pending.length < Header.length := Nat.not_lt.mpr h
  have hlt := length_handleMsg_lt hlen
  refine ⟨(handleMsg pending).2, ?_, ?_⟩
  . rw [go]
    simp only [hlen, ↓reduceIte]
    split
    all_goals simp
  . intro heq
    rw [heq] at hlt
    exact Nat.lt_irrefl _ hlt

theorem go_of_stream (h : Stream pending) (hleft : (framing.cut pending).2.length < Header.length)
    : (go pending).1.messages = (framing.cut pending).1.map decode
        ∧ (go pending).2 = ⟨(framing.cut pending).2, none⟩
        ∧ ∀ call ∈ (go pending).1.calls, framing.Ready call.1 := by
  fun_induction Framing.cut framing pending with
  | case1 pending hready rest ih =>
    obtain ⟨ih1, ih2, ih3⟩ := ih (h.drop_frameLength hready) hleft
    rw [go_of_ready h hready]
    refine ⟨?_, ih2, ?_⟩
    . rw [map_cons, ← ih1]
    . intro call hcall
      cases mem_cons.mp hcall with
      | inl heq =>
        rw [heq]
        exact hready
      | inr hmem => exact ih3 call hmem
  | case2 pending hready =>
    rw [go_of_lt hleft]
    simp

theorem exists_call_of_stream (h : Stream pending)
    (hleft : Header.length ≤ (framing.cut pending).2.length)
    : ∃ call ∈ (go pending).1.calls, ¬framing.Ready call.1 ∧ call.2 ≠ call.1 := by
  fun_induction Framing.cut framing pending with
  | case1 pending hready rest ih =>
    obtain ⟨call, hcall, hcall'⟩ := ih (h.drop_frameLength hready) hleft
    rw [go_of_ready h hready]
    exact ⟨call, mem_cons_of_mem _ hcall, hcall'⟩
  | case2 pending hready =>
    obtain ⟨after, hmem, hafter⟩ := exists_mem_calls_go hleft
    exact ⟨(pending, after), hmem, hready, hafter⟩

end serve

def serverMachine : Machine BrokerConnection (List UInt8) Served where
  step connection arrival := serve arrival connection

abbrev ServerStep := Machine.Step BrokerConnection (List UInt8) Served

def readMessages (hist : List ServerStep) : List Message :=
  hist.flatMap (fun step => step.output.messages)

def WaitsForMessages (hist : List ServerStep) : Prop :=
  ∀ step ∈ hist, ∀ call ∈ step.output.calls, ¬framing.Ready call.1 → call.2 = call.1

def SplitsBody (bs : List UInt8) : Prop :=
  Header.length ≤ (framing.cut bs).2.length

instance (bs : List UInt8) : Decidable (SplitsBody bs) :=
  inferInstanceAs (Decidable (_ ≤ _))

structure BrokerConnection.Serves (bs : List UInt8) (hist : List ServerStep)
    (connection : BrokerConnection) : Prop where
  connection : connection = ⟨(framing.cut bs).2, none⟩
  messages : readMessages hist = (framing.cut bs).1.map decode
  waits : WaitsForMessages hist

theorem readMessages_append (hist hist' : List ServerStep)
    : readMessages (hist ++ hist') = readMessages hist ++ readMessages hist' := by
  simp [readMessages]

theorem WaitsForMessages.append {hist hist' : List ServerStep}
    : WaitsForMessages (hist ++ hist') ↔ WaitsForMessages hist ∧ WaitsForMessages hist' := by
  unfold WaitsForMessages
  rw [forall_mem_append]

namespace BrokerConnection.Serves

variable {bs arrival : List UInt8} {hist : List ServerStep} {connection : BrokerConnection}

theorem serve_eq (h : Serves bs hist connection) (harrival : arrival ≠ [])
    : serve arrival connection = serve.go ((framing.cut bs).2 ++ arrival) := by
  unfold PrplMesh.serve
  rw [h.connection]
  simp only [harrival, ↓reduceIte]

theorem splitsBody_iff
    : SplitsBody (bs ++ arrival)
        ↔
      Header.length ≤ (framing.cut ((framing.cut bs).2 ++ arrival)).2.length := by
  unfold SplitsBody
  rw [Framing.cut_append]

theorem serve (h : Serves bs hist connection) (hstr : Stream ((framing.cut bs).2 ++ arrival))
    (hsplit : ¬SplitsBody (bs ++ arrival))
    : Serves (bs ++ arrival)
        (hist ++ [⟨connection, arrival, (PrplMesh.serve arrival connection).1⟩])
        (PrplMesh.serve arrival connection).2 := by
  by_cases harrival : arrival = []
  . have hserve : PrplMesh.serve arrival connection = (⟨[], []⟩, connection) := by
      unfold PrplMesh.serve
      simp only [harrival, ↓reduceIte]
    rw [hserve, harrival, append_nil]
    constructor
    . exact h.connection
    . rw [readMessages_append, h.messages]
      simp [readMessages]
    . rw [WaitsForMessages.append]
      exact ⟨h.waits, by simp [WaitsForMessages]⟩
  rw [splitsBody_iff, Nat.not_le] at hsplit
  obtain ⟨hmessages, hconnection, hcalls⟩ := serve.go_of_stream hstr hsplit
  rw [h.serve_eq harrival]
  constructor
  . rw [hconnection, Framing.cut_append bs arrival]
  . rw [readMessages_append, h.messages, Framing.cut_append bs arrival, map_append, ← hmessages]
    simp [readMessages]
  . rw [WaitsForMessages.append]
    refine ⟨h.waits, ?_⟩
    intro step hstep call hcall hready
    rw [mem_singleton.mp hstep] at hcall
    exact absurd (hcalls call hcall) hready

end BrokerConnection.Serves

variable {arrivals : List (List UInt8)} {msgs : List Message} {ys : List UInt8}

section

variable (hmsgs : ∀ msg ∈ msgs, msg.Fits) (h : arrivals.flatten ++ ys = encode msgs)

include hmsgs h

theorem serves_of_run (hsplit : ∀ pre, pre <+: arrivals → ¬SplitsBody pre.flatten)
    : BrokerConnection.Serves arrivals.flatten (serverMachine.trace ⟨[], none⟩ arrivals)
        (serverMachine.run ⟨[], none⟩ arrivals) := by
  have hserves : BrokerConnection.Serves
      ((serverMachine.trace ⟨[], none⟩ arrivals).map Machine.Step.input).flatten
      (serverMachine.trace ⟨[], none⟩ arrivals) (serverMachine.run ⟨[], none⟩ arrivals) := by
    apply Machine.invariant_of_split (I := fun hist connection =>
      BrokerConnection.Serves (hist.map Machine.Step.input).flatten hist connection)
    . constructor
      . simp
      . simp [readMessages]
      . simp [WaitsForMessages]
    intro pre arrival post harrivals ih
    rw [map_append, flatten_append]
    rw [Machine.map_input_trace] at ih ⊢
    have hpre : arrivals = pre ++ [arrival] ++ post := by simp [harrivals]
    have hsplit' := hsplit (pre ++ [arrival]) ⟨post, hpre.symm⟩
    simp only [map_cons, map_nil, flatten_append, flatten_cons,
      flatten_nil, append_nil] at hsplit' ⊢
    have hstr : pre.flatten ++ (arrival ++ (post.flatten ++ ys)) = encode msgs := by
      rw [← h, harrivals]
      simp
    exact ih.serve (Stream.cut_append hmsgs hstr) hsplit'
  rw [Machine.map_input_trace] at hserves
  exact hserves

theorem not_splitsBody_of_waits
    (hwaits : WaitsForMessages (serverMachine.trace ⟨[], none⟩ arrivals))
    : ∀ pre, pre <+: arrivals → ¬SplitsBody pre.flatten := by
  -- as long as nothing was split, the queue of the connection is known exactly
  induction arrivals using List.reverseRecOn generalizing ys with
  | nil =>
    intro pre hpre
    rw [prefix_nil.mp hpre]
    simp [SplitsBody, Header.length]
  | append_singleton arrivals arrival ih =>
    have hstr : arrivals.flatten ++ (arrival ++ ys) = encode msgs := by
      rw [← h]
      simp
    rw [Machine.trace_append, WaitsForMessages.append] at hwaits
    specialize ih hstr hwaits.1
    have hserves := serves_of_run hmsgs hstr ih
    intro pre hpre
    rw [prefix_concat_iff] at hpre
    cases hpre with
    | inr hpre => exact ih pre hpre
    | inl hpre =>
      intro hsplit
      rw [hpre, flatten_append, flatten_singleton] at hsplit
      by_cases harrival : arrival = []
      . rw [harrival, append_nil] at hsplit
        exact ih arrivals prefix_rfl hsplit
      rw [BrokerConnection.Serves.splitsBody_iff] at hsplit
      obtain ⟨call, hcall, hready, hne⟩ :=
        serve.exists_call_of_stream (Stream.cut_append hmsgs hstr) hsplit
      apply hne
      apply hwaits.2 _ (mem_singleton.mpr rfl) call _ hready
      change call ∈ (serve arrival _).1.calls
      rw [hserves.serve_eq harrival]
      exact hcall

end

theorem serverMachine_reads_iff {msgs : List Message}
    (hmsgs : ∀ msg ∈ msgs, msg.frame.length ≤ kMaxFrameLength) {arrivals : List (List UInt8)}
    (h : arrivals.flatten = serializeMessages msgs)
    : (readMessages (serverMachine.trace ⟨[], none⟩ arrivals)
            = (handleRead.go (BufferImpl.full arrivals.flatten)).1
          ∧ WaitsForMessages (serverMachine.trace ⟨[], none⟩ arrivals))
        ↔
      ∀ pre, pre <+: arrivals → ¬SplitsBody pre.flatten := by
  rw [serializeMessages_eq hmsgs] at h
  have hstr : arrivals.flatten ++ [] = encode msgs := by rw [append_nil, h]
  constructor
  . intro hreads
    exact not_splitsBody_of_waits hmsgs hstr hreads.2
  . intro hsplit
    have hserves := serves_of_run hmsgs hstr hsplit
    refine ⟨?_, hserves.waits⟩
    rw [hserves.messages]
    have hgo := handleRead.go_of_stream
      (show Stream (BufferImpl.full arrivals.flatten).data from ⟨[], msgs, hmsgs, hstr⟩)
    rw [hgo.1, BufferImpl.data_full]

theorem serverMachine_reads_vlanConfigurationRequests
    : let msgs := [vlanConfigurationRequest, vlanConfigurationRequest]
      let arrivals := [(serializeMessages msgs).take 25, (serializeMessages msgs).drop 25]
      readMessages (serverMachine.trace ⟨[], none⟩ arrivals)
          = (handleRead.go (BufferImpl.full arrivals.flatten)).1
        ∧ WaitsForMessages (serverMachine.trace ⟨[], none⟩ arrivals) := by
  intro msgs arrivals
  have hmsgs : ∀ msg ∈ msgs, msg.frame.length ≤ kMaxFrameLength := by decide
  have harrivals : arrivals.flatten = serializeMessages msgs := by decide +kernel
  apply (serverMachine_reads_iff hmsgs harrivals).mpr
  intro pre hpre
  have hinits : ∀ pre ∈ arrivals.inits, ¬SplitsBody pre.flatten := by decide +kernel
  exact hinits pre (mem_inits pre arrivals |>.mpr hpre)

theorem serverMachine_loses_message : let arrivals := [vlanConfigurationRequest.toBytes.take 15,
        vlanConfigurationRequest.toBytes.drop 15]
      arrivals.flatten = serializeMessages [vlanConfigurationRequest]
        ∧ readMessages (serverMachine.trace ⟨[], none⟩ arrivals) = []
        ∧ (handleRead.go (BufferImpl.full arrivals.flatten)).1 = [vlanConfigurationRequest] := by
  decide +kernel

end PrplMesh
