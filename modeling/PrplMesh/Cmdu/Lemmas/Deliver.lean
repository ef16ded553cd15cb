import PrplMesh.Cmdu.Lemmas.Basic
import PrplMesh.Cmdu.Lemmas.Verify

/-!
This module contains the verification of the delivery of CMDUs.
-/

namespace PrplMesh

open List UdsHeader BufferImpl

open UdsHeader (framing)
open SocketConnectionImpl

variable {β : Type u} {parse : List UInt8 → Option β × List UInt8} (frame : List UInt8)

def verifies : Bool :=
  -- there are only zeros behind the frame here
  match verifyCmdu (fun i => frame.getD i 0) UdsHeader.size (frame.length - UdsHeader.size) with
  | some (verified, _) => verified
  | none => false

variable (parse) in
def cmduOf : Option (ReceivedCmdu β) :=
  if verifies frame then
    let header := ofBytes frame
    (parse (frame.drop UdsHeader.size)).1.map (fun cmdu =>
      ⟨header.ifIndex, header.dstBridgeMac, header.srcBridgeMac, cmdu⟩)
  else
    none

variable (parse) in
/--
It depends on the frame alone whether it is valid, and its verification does not change what is
behind it.
-/
structure SelfContained (frame : List UInt8) : Prop where
  verify (mem : Memory) (h : ∀ i < frame.length, mem i = frame.getD i 0)
    : ∃ mem', verifyCmdu mem UdsHeader.size (frame.length - UdsHeader.size)
          = some (verifies frame, mem')
        ∧ ∀ i ≥ frame.length, mem' i = mem i
  parse (h : verifies frame) (stale : List UInt8)
    : (parse (frame.drop UdsHeader.size ++ stale)).1 = (parse (frame.drop UdsHeader.size)).1

variable (parse) in
structure IsUdsFrame (frame : List UInt8) : Prop where
  isFrame : framing.IsFrame frame
  length_le : frame.length ≤ messageBufferLength
  selfContained : SelfContained parse frame

theorem map_range_getD (bs : List UInt8)
    : (List.range bs.length).map (fun i => bs.getD i 0) = bs := by
  apply ext_getElem
  . simp
  . intro i h1 h2
    simp [h2]

section Frame

variable {size : Nat} {buffer : BufferImpl size} {rest : List UInt8} {frame} (behind : Memory)

theorem memory_of_append (hdata : buffer.data = frame ++ rest)
    : ∀ i < frame.length, buffer.memory behind i = frame.getD i 0 := by
  intro i hi
  have hsize := buffer.length_le
  rw [hdata, length_append] at hsize
  unfold memory
  simp only [show i < size by omega, ↓reduceIte, hdata]
  rw [getD_eq_getElem?_getD, getD_eq_getElem?_getD, List.getElem?_append_left hi]

theorem drop_update {behind mem : Memory} (hdata : buffer.data = frame ++ rest)
    (hmem : ∀ i ≥ frame.length, mem i = buffer.memory behind i)
    : (buffer.update mem).data.drop frame.length = rest := by
  have hsize := buffer.length_le
  have hrest : buffer.data.drop frame.length = rest := by rw [hdata, drop_left]
  rw [← hrest]
  apply ext_getElem
  . simp [update, BufferImpl.length]
  intro i h1 h2
  rw [length_drop] at h2
  simp only [update, getElem_drop, getElem_map, getElem_range]
  rw [hmem _ (Nat.le_add_right _ _)]
  unfold memory
  have hsize' : frame.length + i < size := by omega
  have hlen : frame.length + i < buffer.data.length := by omega
  simp [hsize', hlen]

theorem update_memory : (buffer.update (buffer.memory behind)).data = buffer.data := by
  have hsize := buffer.length_le
  conv => rhs; rw [← map_range_getD buffer.data]
  apply map_congr_left
  intro i hi
  rw [mem_range] at hi
  unfold BufferImpl.length at hi
  unfold memory
  simp [show i < size by omega]

theorem parseCmdu_of_isUdsFrame (cmduRx : List UInt8) (hframe : IsUdsFrame parse frame)
    (hdata : buffer.data = frame ++ rest)
    : ∃ cmduRx' buffer', parseCmdu parse behind cmduRx buffer
          = some ⟨cmduOf parse frame, cmduRx', buffer'⟩
        ∧ buffer'.data = rest := by
  have hready : framing.Ready buffer.data := by
    rw [hdata]
    exact hframe.isFrame.ready_append
  have hframeLength : framing.frameLength buffer.data = frame.length := by
    rw [hdata]
    exact hframe.isFrame.frameLength_append
  have hhdr : ofBytes buffer.data = ofBytes frame := by
    rw [hdata]
    exact ofBytes_append hframe.isFrame.1 rest
  have hlen : (ofBytes frame).length.toNat = frame.length - UdsHeader.size := by
    have := hframe.isFrame.2
    rw [frameLength_framing] at this
    omega
  have hle := hframe.length_le
  have hbuf : frame.length ≤ buffer.length := by
    unfold BufferImpl.length
    rw [hdata, length_append]
    omega
  obtain ⟨mem, hver, hmem⟩ := hframe.selfContained.verify (buffer.memory behind)
    (memory_of_append behind hdata)
  have hrest : ((buffer.update mem).shift frame.length).2.data = rest := by
    rw [data_shift (by rw [length_update]; exact hbuf)]
    exact drop_update hdata hmem
  rw [parseCmdu_of_ready hready, hframeLength, hhdr, hlen, hver]
  unfold cmduOf
  cases hverifies : verifies frame with
  | false => exact ⟨_, _, rfl, hrest⟩
  | true =>
    rw [hverifies] at hver
    have hupd : (buffer.update mem).data = buffer.data := by
      rw [eq_of_verifyCmdu hver, update_memory]
    have hfield : Bytes.field UdsHeader.size (frame.length - UdsHeader.size) buffer.data
        = frame.drop UdsHeader.size := by
      have hsize : UdsHeader.size ≤ frame.length := hframe.isFrame.1
      unfold Bytes.field
      rw [hdata, drop_append_of_le_length hsize, take_left' (by simp)]
    have hnot : ¬frame.length - UdsHeader.size > messageBufferLength := by omega
    simp only [hnot, decide_false, Bool.not_true, Bool.or_false, Bool.false_eq_true, ↓reduceIte,
      hupd, hhdr, hfield, hframe.selfContained.parse hverifies]
    exact ⟨_, _, rfl, hrest⟩

end Frame

variable (parse) in
def isValid : Bool :=
  (cmduOf parse frame).isSome

variable (parse) in
def leftFrames (frames : List (List UInt8)) : List (List UInt8) :=
  (frames.dropWhile (isValid parse)).tail

variable {frames : List (List UInt8)} {rest : List UInt8}

theorem receiveCmdus.go_of_frames {size : Nat} (hfrs : ∀ frame ∈ frames, IsUdsFrame parse frame)
    (hrest : ¬framing.Ready rest) (behind : Memory) (cmduRx : List UInt8) {buffer : BufferImpl size}
    (hdata : buffer.data = frames.flatten ++ rest)
    : (go parse (fun _ => true) behind cmduRx buffer).1
          = (frames.takeWhile (isValid parse)).filterMap (cmduOf parse)
        ∧ ∃ buffer', (go parse (fun _ => true) behind cmduRx buffer).2 = some buffer'
          ∧ buffer'.data = (leftFrames parse frames).flatten ++ rest := by
  induction frames generalizing cmduRx buffer with
  | nil =>
    rw [flatten_nil, nil_append] at hdata
    rw [go_of_not_ready (by rw [hdata]; exact hrest)]
    exact ⟨rfl, buffer, rfl, by simp [hdata, leftFrames]⟩
  | cons frame frames ih =>
    have hframe := hfrs frame (by simp)
    rw [flatten_cons, append_assoc] at hdata
    have hready : framing.Ready buffer.data := by
      rw [hdata]
      exact hframe.isFrame.ready_append
    obtain ⟨cmduRx', buffer', hparse, hdata'⟩ :=
      parseCmdu_of_isUdsFrame behind cmduRx hframe hdata
    rw [go_of_ready hready, hparse]
    cases hcmdu : cmduOf parse frame with
    | none =>
      -- the frame is consumed, but it ends the loop
      have hvalid : isValid parse frame = false := by simp [isValid, hcmdu]
      simp only [leftFrames, takeWhile_cons, dropWhile_cons, hvalid, Bool.false_eq_true,
        ↓reduceIte, filterMap_nil, tail_cons]
      exact ⟨trivial, buffer', rfl, hdata'⟩
    | some received =>
      have hvalid : isValid parse frame := by simp [isValid, hcmdu]
      obtain ⟨ih1, ih2⟩ := ih (fun frame h => hfrs frame (by simp [h])) cmduRx' hdata'
      simp only [leftFrames, takeWhile_cons, dropWhile_cons, hvalid, ↓reduceIte,
        filterMap_cons, hcmdu, Bool.not_true, Bool.false_eq_true]
      exact ⟨by rw [ih1], ih2⟩

variable (parse) in
section

variable (frames)

def consumedFrames : List (List UInt8) :=
  frames.takeWhile (isValid parse) ++ (frames.dropWhile (isValid parse)).take 1

theorem consumedFrames_append_leftFrames
    : consumedFrames parse frames ++ leftFrames parse frames = frames := by
  unfold consumedFrames leftFrames
  rw [append_assoc, ← drop_one, take_append_drop, takeWhile_append_dropWhile]

theorem filterMap_consumedFrames
    : (consumedFrames parse frames).filterMap (cmduOf parse)
        =
      (frames.takeWhile (isValid parse)).filterMap (cmduOf parse) := by
  have hnil : ((frames.dropWhile (isValid parse)).take 1).filterMap (cmduOf parse) = [] := by
    cases h : frames.dropWhile (isValid parse) with
    | nil => rfl
    | cons frame rest =>
      have hinv := List.head?_dropWhile_not (isValid parse) frames
      rw [h] at hinv
      simpa [isValid] using hinv
  unfold consumedFrames
  rw [filterMap_append, hnil, append_nil]

end

variable (parse) in
def ValidFirst (frames : List (List UInt8)) : Prop :=
  frames.Pairwise (fun frame frame' => cmduOf parse frame = none → cmduOf parse frame' = none)

theorem filterMap_leftFrames_eq_nil_iff
    : (leftFrames parse frames).filterMap (cmduOf parse) = [] ↔ ValidFirst parse frames := by
  unfold ValidFirst leftFrames
  induction frames with
  | nil => simp
  | cons frame frames ih =>
    rw [pairwise_cons]
    cases hcmdu : cmduOf parse frame with
    | none =>
      have hvalid : isValid parse frame = false := by simp [isValid, hcmdu]
      simp only [dropWhile_cons, hvalid, Bool.false_eq_true, ↓reduceIte, tail_cons,
        filterMap_eq_nil_iff, true_imp_iff]
      constructor
      . intro hnone
        refine ⟨hnone, ?_⟩
        apply pairwise_of_forall_mem_list
        intro _ _ frame' hframe' _
        exact hnone frame' hframe'
      . intro h
        exact h.1
    | some received =>
      have hvalid : isValid parse frame := by simp [isValid, hcmdu]
      simp [hvalid, ih]

def deliveredCmdus (hist : List (Machine.Step CmduConnection Readable (List (ReceivedCmdu β))))
    : List (ReceivedCmdu β) :=
  hist.flatMap Machine.Step.output

def CmduConnection.receivedOf (stream : List UInt8) (conn : CmduConnection) : List UInt8 :=
  stream.take (stream.length - conn.socket.length)

variable (parse) in
structure CmduConnection.Consumed (frames consumed left : List (List UInt8))
    (buffer : BufferImpl messageBufferLength) (delivered : List (ReceivedCmdu β))
    (conn : CmduConnection) : Prop where
  frames_eq : frames = consumed ++ left
  buffer_eq : conn.buffer = some buffer
  left_eq : buffer.data ++ conn.socket = left.flatten
  delivered_eq : delivered = consumed.filterMap (cmduOf parse)

namespace CmduConnection.Consumed

variable {consumed left : List (List UInt8)} {buffer : BufferImpl messageBufferLength}
  {delivered : List (ReceivedCmdu β)} {conn : CmduConnection}
  (h : Consumed parse frames consumed left buffer delivered conn)

include h

theorem receivedOf_eq : conn.receivedOf frames.flatten = consumed.flatten ++ buffer.data := by
  have hflat : frames.flatten = consumed.flatten ++ buffer.data ++ conn.socket := by
    rw [h.frames_eq, flatten_append, ← h.left_eq, append_assoc]
  unfold CmduConnection.receivedOf
  rw [hflat, length_append, Nat.add_sub_cancel, take_left]

theorem delivered_eq_iff (hfrs : ∀ frame ∈ frames, IsUdsFrame parse frame)
    : delivered
          = (framing.cut (conn.receivedOf frames.flatten)).1.filterMap (cmduOf parse)
        ↔
      (framing.cut buffer.data).1.filterMap (cmduOf parse) = [] := by
  have hconsumed : ∀ frame ∈ consumed, framing.IsFrame frame := by
    intro frame hframe
    exact (hfrs frame (by simp [h.frames_eq, hframe])).isFrame
  rw [h.receivedOf_eq, Framing.cut_flatten_append hconsumed, filterMap_append, h.delivered_eq]
  simp

variable {readable : Readable}

theorem receiveCmdus_of_nil (hnil : received readable.count conn.socket buffer = [])
    : receiveCmdus parse (fun _ => true) readable conn = ([], conn) := by
  unfold receiveCmdus
  simp only [h.buffer_eq, receive_of_received_eq_nil hnil]
  rw [← h.buffer_eq]
  rfl

theorem receiveCmdus_of_ne_nil (hfrs : ∀ frame ∈ frames, IsUdsFrame parse frame)
    (hne : received readable.count conn.socket buffer ≠ [])
    : let complete := (framing.cut (buffer.data ++ received readable.count conn.socket buffer)).1
      ∃ consumed' left' buffer', Consumed parse frames consumed' left' buffer'
            (delivered ++ (receiveCmdus parse (fun _ => true) readable conn).1)
            (receiveCmdus parse (fun _ => true) readable conn).2
          ∧ (framing.cut buffer'.data).1 = leftFrames parse complete := by
  intro complete
  have hleft : ∀ frame ∈ left, IsUdsFrame parse frame := by
    intro frame hframe
    apply hfrs
    simp [h.frames_eq, hframe]
  have hstr : buffer.data ++ received readable.count conn.socket buffer
      ++ (receive readable.count conn.socket buffer).2.1 = left.flatten := by
    rw [append_assoc, received_append_socket_receive, h.left_eq]
  obtain ⟨later, hlater, hrest, -, -⟩ :=
    Framing.cut_of_append_eq_flatten (fun frame hframe => (hleft frame hframe).isFrame) hstr
  have hcompl : ∀ frame ∈ complete, IsUdsFrame parse frame := by
    intro frame hframe
    apply hleft
    simp [hlater, complete, hframe]
  have hdata := data_receive readable.count conn.socket buffer
  rw [← Framing.flatten_cut_append (F := framing)
    (buffer.data ++ received readable.count conn.socket buffer)] at hdata
  have hnot := Framing.not_ready_cut (F := framing)
    (buffer.data ++ received readable.count conn.socket buffer)
  generalize (framing.cut (buffer.data
    ++ received readable.count conn.socket buffer)).2 = rest at hdata hnot hrest
  obtain ⟨hdelivered, buffer', hbuf', hdata'⟩ := receiveCmdus.go_of_frames hcompl hnot
    readable.behind readable.cmduRxBuffer hdata
  have hrcv : receiveCmdus parse (fun _ => true) readable conn
      = ((complete.takeWhile (isValid parse)).filterMap (cmduOf parse),
        ⟨(receive readable.count conn.socket buffer).2.1, some buffer'⟩) := by
    have hpos := Int.not_le.mpr (receive_pos_iff.mpr hne)
    unfold receiveCmdus
    simp only [h.buffer_eq, hpos, ↓reduceIte, hdelivered, hbuf']
  have hsplit := @consumedFrames_append_leftFrames _ parse complete
  rw [hrcv]
  refine ⟨consumed ++ consumedFrames parse complete, leftFrames parse complete ++ later, buffer',
    ?_, ?_⟩
  . constructor
    . calc frames
          = consumed ++ (complete ++ later) := by rw [h.frames_eq, hlater]
        _ = consumed ++ (consumedFrames parse complete ++ leftFrames parse complete ++ later) := by
          rw [hsplit]
        _ = _ := by simp only [append_assoc]
    . rfl
    . rw [hdata', flatten_append, append_assoc, hrest]
    . rw [filterMap_append, filterMap_consumedFrames, h.delivered_eq]
  . have hfrs' : ∀ frame ∈ leftFrames parse complete, framing.IsFrame frame := by
      intro frame hframe
      exact (hcompl frame (by rw [← hsplit]; simp [hframe])).isFrame
    rw [hdata', Framing.cut_flatten_append hfrs', Framing.cut_of_not_ready hnot]
    simp

end CmduConnection.Consumed

section Run

theorem deliveredCmdus_concat
    (hist : List (Machine.Step CmduConnection Readable (List (ReceivedCmdu β))))
    (conn : CmduConnection) (readable : Readable) (output : List (ReceivedCmdu β))
    : deliveredCmdus (hist ++ [⟨conn, readable, output⟩]) = deliveredCmdus hist ++ output := by
  simp [deliveredCmdus]

theorem consumed_of_run (hfrs : ∀ frame ∈ frames, IsUdsFrame parse frame)
    (readables : List Readable)
    : ∃ consumed left buffer, CmduConnection.Consumed parse frames consumed left buffer
          (deliveredCmdus ((peerMachine parse (fun _ => true)).trace
            ⟨frames.flatten, some .empty⟩ readables))
          ((peerMachine parse (fun _ => true)).run ⟨frames.flatten, some .empty⟩ readables) := by
  apply Machine.invariant (I := fun hist conn =>
    ∃ consumed left buffer,
      CmduConnection.Consumed parse frames consumed left buffer (deliveredCmdus hist) conn)
  . exact ⟨[], frames, .empty, rfl, rfl, rfl, rfl⟩
  intro hist conn readable _ ih
  obtain ⟨consumed, left, buffer, h⟩ := ih
  rw [deliveredCmdus_concat]
  change ∃ consumed left buffer, CmduConnection.Consumed parse frames consumed left buffer
    (deliveredCmdus hist ++ (receiveCmdus parse (fun _ => true) readable conn).1)
    (receiveCmdus parse (fun _ => true) readable conn).2
  by_cases hnil : received readable.count conn.socket buffer = []
  . rw [h.receiveCmdus_of_nil hnil, append_nil]
    exact ⟨consumed, left, buffer, h⟩
  . obtain ⟨consumed', left', buffer', h', -⟩ := h.receiveCmdus_of_ne_nil hfrs hnil
    exact ⟨consumed', left', buffer', h'⟩

variable (parse) in
def DeliversReceived (frames : List (List UInt8))
    (hist : List (Machine.Step CmduConnection Readable (List (ReceivedCmdu β))))
    (conn : CmduConnection) : Prop :=
  deliveredCmdus hist
    =
  (framing.cut (conn.receivedOf frames.flatten)).1.filterMap (cmduOf parse)

variable (parse) in
def CmduConnection.ReceivesValidFirst (readable : Readable) (conn : CmduConnection) : Prop :=
  ∀ buffer ∈ conn.buffer, ValidFirst parse
      (framing.cut (buffer.data ++ received readable.count conn.socket buffer)).1

theorem deliversReceived_receiveCmdus_iff (hfrs : ∀ frame ∈ frames, IsUdsFrame parse frame)
    {hist : List (Machine.Step CmduConnection Readable (List (ReceivedCmdu β)))}
    {conn : CmduConnection} {consumed left : List (List UInt8)}
    {buffer : BufferImpl messageBufferLength}
    (h : CmduConnection.Consumed parse frames consumed left buffer (deliveredCmdus hist) conn)
    (hdel : DeliversReceived parse frames hist conn) (readable : Readable)
    : DeliversReceived parse frames (hist ++ [⟨conn, readable,
            (receiveCmdus parse (fun _ => true) readable conn).1⟩])
          (receiveCmdus parse (fun _ => true) readable conn).2
        ↔
      conn.ReceivesValidFirst parse readable := by
  unfold DeliversReceived CmduConnection.ReceivesValidFirst at *
  rw [deliveredCmdus_concat]
  simp only [h.buffer_eq, Option.mem_def, Option.some.injEq, forall_eq']
  by_cases hnil : received readable.count conn.socket buffer = []
  . rw [h.receiveCmdus_of_nil hnil, hnil, append_nil, append_nil]
    rw [h.delivered_eq_iff hfrs, filterMap_eq_nil_iff] at hdel
    rw [h.delivered_eq_iff hfrs, filterMap_eq_nil_iff]
    refine iff_of_true hdel ?_
    apply pairwise_of_forall_mem_list
    intro _ _ frame' hframe' _
    exact hdel frame' hframe'
  . obtain ⟨consumed', left', buffer', h', hleft⟩ := h.receiveCmdus_of_ne_nil hfrs hnil
    rw [h'.delivered_eq_iff hfrs, hleft, filterMap_leftFrames_eq_nil_iff]

theorem peerMachine_delivers_iff (hframes : ∀ frame ∈ frames, IsUdsFrame parse frame)
    (readables : List Readable)
    : let machine := peerMachine parse (fun _ => true)
      let conn : CmduConnection := ⟨frames.flatten, some .empty⟩
      (∀ pre, pre <+: readables
          → DeliversReceived parse frames (machine.trace conn pre) (machine.run conn pre))
        ↔
      ∀ pre readable, pre ++ [readable] <+: readables
        → (machine.run conn pre).ReceivesValidFirst parse readable := by
  intro machine conn
  apply Machine.forall_run_iff (M := machine) (s := conn)
    (G := fun hist conn => DeliversReceived parse frames hist conn)
    (A := fun conn readable => conn.ReceivesValidFirst parse readable)
  . unfold DeliversReceived CmduConnection.receivedOf
    simp [deliveredCmdus, conn]
  . intro pre readable _ hdel
    obtain ⟨consumed, left, buffer, h⟩ := consumed_of_run hframes pre
    rw [Machine.trace_append, Machine.run_append]
    exact deliversReceived_receiveCmdus_iff hframes h hdel readable

end Run

open verifyCmdu in
theorem selfContained_of_staysInside {frame : List UInt8} (hsize : UdsHeader.size ≤ frame.length)
    (hinside : cmduHeaderLength + tlvHeaderLength ≤ frame.length - UdsHeader.size
      → staysInside frame.length (UdsHeader.size + cmduHeaderLength) (fun i => frame.getD i 0))
    (hparse : verifies frame
      → ∀ stale, (parse (frame.drop UdsHeader.size ++ stale)).1
          = (parse (frame.drop UdsHeader.size)).1)
    : SelfContained parse frame := by
  have hbound : UdsHeader.size + (frame.length - UdsHeader.size) = frame.length := by omega
  constructor
  . intro mem hmem
    have hagree : ∀ i < UdsHeader.size + (frame.length - UdsHeader.size),
        frame.getD i 0 = mem i := by
      intro i hi
      rw [hmem i (by omega)]
    obtain ⟨verified, left, left', hframe, hverify, hleft⟩ :=
      verifyCmdu_of_staysInside (by rw [hbound]; exact hinside) hagree
    refine ⟨left', ?_, ?_⟩
    . unfold verifies
      rw [hframe, hverify]
    . rw [hbound] at hleft
      exact hleft
  . exact hparse

def udsFrame (cmdu : List UInt8) : List UInt8 :=
  List.replicate 16 0 ++ Bytes.ofNatLE 2 cmdu.length ++ cmdu

section Frame

variable {cmdu : List UInt8}

theorem length_udsFrame (cmdu : List UInt8)
    : (udsFrame cmdu).length = UdsHeader.size + cmdu.length := by
  unfold udsFrame UdsHeader.size
  simp only [length_append, length_replicate, Bytes.length_ofNatLE]

theorem drop_udsFrame (cmdu : List UInt8) : (udsFrame cmdu).drop UdsHeader.size = cmdu := by
  apply drop_left'
  rfl

theorem isFrame_udsFrame (h : cmdu.length < 65536) : framing.IsFrame (udsFrame cmdu) := by
  have hfield : Bytes.field 16 2 (udsFrame cmdu) = Bytes.ofNatLE 2 cmdu.length := by
    apply Bytes.field_eq
    all_goals rfl
  constructor
  . rw [length_udsFrame]
    exact Nat.le_add_right _ _
  . rw [length_udsFrame, frameLength_framing]
    simp only [ofBytes, hfield]
    rw [Bytes.toNatLE_ofNatLE_of_lt h, UInt16.toNat_ofNat_of_lt' h]

variable {hdr : List UInt8} {tlvs : List Tlv}

theorem verify_of_passes (hcmdu : cmdu = hdr ++ Tlv.encode (tlvs ++ [Tlv.endOfMessage]) ++ rest)
    (hhdr : hdr.length = verifyCmdu.cmduHeaderLength) (hpasses : ∀ tlv ∈ tlvs, tlv.Passes)
    {mem : Memory} (hmem : ∀ i < (udsFrame cmdu).length, mem i = (udsFrame cmdu).getD i 0)
    : verifyCmdu mem UdsHeader.size ((udsFrame cmdu).length - UdsHeader.size)
        =
      some (true, mem) := by
  have hholds : mem.Holds 0 (udsFrame cmdu) := by
    apply Memory.holds_of_getD
    simpa using hmem
  rw [← take_append_drop UdsHeader.size (udsFrame cmdu), Memory.holds_append,
    drop_udsFrame] at hholds
  rw [hcmdu] at hholds ⊢
  exact verifyCmdu_of_passes hhdr hpasses hholds.2

theorem isUdsFrame_udsFrame (hlen : (udsFrame cmdu).length ≤ messageBufferLength)
    (h : SelfContained parse (udsFrame cmdu))
    : IsUdsFrame parse (udsFrame cmdu) := by
  constructor
  . apply isFrame_udsFrame
    rw [length_udsFrame] at hlen
    unfold messageBufferLength at hlen
    omega
  . exact hlen
  . exact h

theorem selfContained_of_passes
    (hcmdu : cmdu = hdr ++ Tlv.encode (tlvs ++ [Tlv.endOfMessage]) ++ rest)
    (hhdr : hdr.length = verifyCmdu.cmduHeaderLength) (hpasses : ∀ tlv ∈ tlvs, tlv.Passes)
    (hparse : ∀ stale, (parse (cmdu ++ stale)).1 = (parse cmdu).1)
    : SelfContained parse (udsFrame cmdu) := by
  have hverifies : verifies (udsFrame cmdu) := by
    unfold verifies
    rw [verify_of_passes hcmdu hhdr hpasses (fun _ _ => rfl)]
  constructor
  . intro mem hmem
    refine ⟨mem, ?_, fun _ _ => rfl⟩
    rw [verify_of_passes hcmdu hhdr hpasses hmem, hverifies]
  . intro _ stale
    exact hparse stale

end Frame

def topologyQuery : List UInt8 :=
  [0, 0, 0, 2, 0, 1, 0, 0x80] ++ Tlv.encode ([] ++ [Tlv.endOfMessage]) ++ []

def parseMessageType (bs : List UInt8) : Option (List UInt8) × List UInt8 :=
  (some (Bytes.field 2 2 bs), bs)

theorem isUdsFrame_topologyQuery : IsUdsFrame parseMessageType (udsFrame topologyQuery) := by
  apply isUdsFrame_udsFrame
  . decide
  . apply selfContained_of_passes rfl rfl
    . simp
    . intro stale
      unfold parseMessageType
      rw [Bytes.field_append (by decide)]

theorem isUdsFrame_short : IsUdsFrame parseMessageType (udsFrame [1, 2, 3]) := by
  apply isUdsFrame_udsFrame
  . decide
  . apply selfContained_of_staysInside
    . decide
    . intro hlen
      exact absurd hlen (by decide)
    . intro hverifies
      exact absurd hverifies (by decide +kernel)

theorem peerMachine_delivers_topologyQuery
    : let frames := [udsFrame topologyQuery, udsFrame [1, 2, 3]]
      let machine := peerMachine parseMessageType (fun _ => true)
      let conn : CmduConnection := ⟨frames.flatten, some .empty⟩
      DeliversReceived parseMessageType frames (machine.trace conn [.ofCount 8192])
        (machine.run conn [.ofCount 8192]) := by
  intro frames machine conn
  have hfrs : ∀ frame ∈ frames, IsUdsFrame parseMessageType frame := by
    intro frame hframe
    simp only [frames, mem_cons, not_mem_nil, or_false] at hframe
    rcases hframe with h | h
    . rw [h]
      exact isUdsFrame_topologyQuery
    . rw [h]
      exact isUdsFrame_short
  have hcompl : (framing.cut (received 8192 frames.flatten
      (.empty : BufferImpl messageBufferLength))).1 = frames := by decide +kernel
  have hinv : cmduOf parseMessageType (udsFrame [1, 2, 3]) = none := by decide +kernel
  apply (peerMachine_delivers_iff hfrs [.ofCount 8192]).mpr
  . intro pre readable hpre
    have hlen := hpre.length_le
    simp only [length_append, length_cons, length_nil] at hlen
    rw [length_eq_zero_iff.mp (by omega : pre.length = 0)] at hpre ⊢
    simp only [nil_append, cons_prefix_cons, nil_prefix, and_true] at hpre
    rw [hpre]
    intro buffer hbuf
    cases hbuf
    change ValidFirst parseMessageType (framing.cut (received 8192 frames.flatten .empty)).1
    rw [hcompl]
    simp [ValidFirst, frames, hinv]
  . exact prefix_rfl

theorem peerMachine_hides_topologyQuery : let stream := udsFrame [1, 2, 3] ++ udsFrame topologyQuery
      let machine := peerMachine parseMessageType (fun _ => true)
      let received : ReceivedCmdu (List UInt8) :=
        ⟨0, ⟨#v[0, 0, 0, 0, 0, 0]⟩, ⟨#v[0, 0, 0, 0, 0, 0]⟩, [0, 2]⟩
      deliveredCmdus (machine.trace ⟨stream, some .empty⟩ [.ofCount 8192]) = []
        ∧ (framing.cut stream).1.filterMap (cmduOf parseMessageType) = [received]
        ∧ deliveredCmdus (machine.trace ⟨stream, some .empty⟩ [.ofCount 21, .ofCount 8192])
            = [received] := by
  decide +kernel

end PrplMesh
