import PrplMesh.Cmdu.Impl.Parse

/-!
This module contains the verification of the parser for received CMDUs: Which CMDUs are parsed from
their own bytes alone, whatever follows them in the buffer.
-/

namespace PrplMesh

open verifyCmdu Reader

variable {c : TlvClass} {pos : Nat}

namespace parseNextTlv

theorem length_le_headerLength (c : TlvClass) : 3 ≤ c.headerLength := by
  unfold TlvClass.headerLength
  split <;> omega

theorem ofTypeMap_of_ne {tlvType : UInt8} (h : tlvType ≠ tlvVirtualBssType) (subtype subtype' : Nat)
    : ofTypeMap tlvType subtype = ofTypeMap tlvType subtype' := by
  unfold ofTypeMap
  rw [if_neg h, if_neg h]

theorem headerLength_of_lookup {tlvSubtype : Nat}
    (h : eVirtualBssSubtype.lookup tlvSubtype = some c)
    : c.headerLength = 5 := by
  have hall : ∀ entry ∈ eVirtualBssSubtype, entry.2.headerLength = 5 := by decide
  obtain ⟨pre, post, hsplit, -⟩ := List.lookup_eq_some_iff.mp h
  apply hall (tlvSubtype, c)
  rw [hsplit]
  simp

theorem nextTlvClass_virtualBss {mem : Memory} (h : mem pos = tlvVirtualBssType)
    : nextTlvClass mem pos = eVirtualBssSubtype.lookup (getNextTlvSubtype pos mem) := by
  unfold nextTlvClass
  rw [h]
  rfl

variable {mem mem' : Memory}

theorem tlvLength_congr (h : Agree (pos + 3) mem mem')
    : tlvLength pos mem' = tlvLength pos mem := by
  unfold tlvLength
  rw [h (pos + 1) (by omega), h (pos + 2) (by omega)]

theorem getNextTlvSubtype_congr (h : Agree (pos + 5) mem mem')
    : getNextTlvSubtype pos mem' = getNextTlvSubtype pos mem := by
  unfold getNextTlvSubtype
  rw [h (pos + 3) (by omega), h (pos + 4) (by omega)]

theorem nextTlvClass_congr (h : Agree (pos + 5) mem mem')
    : nextTlvClass mem' pos = nextTlvClass mem pos := by
  unfold nextTlvClass
  rw [h pos (by omega), tlvLength_congr (h.mono (by omega)), getNextTlvSubtype_congr h]

theorem nextTlvClass_congr_of_some (hclass : nextTlvClass mem pos = some c)
    (h : Agree (pos + c.headerLength) mem mem')
    : nextTlvClass mem' pos = some c := by
  have hlen := length_le_headerLength c
  have htype : mem' pos = mem pos := h pos (by omega)
  by_cases hvirt : mem pos = tlvVirtualBssType
  . have hfive : c.headerLength = 5 := by
      rw [nextTlvClass_virtualBss hvirt] at hclass
      exact headerLength_of_lookup hclass
    rw [hfive] at h
    rw [nextTlvClass_congr h, hclass]
  . rw [← hclass]
    unfold nextTlvClass
    rw [htype, tlvLength_congr (h.mono (by omega))]
    dsimp only
    rw [ofTypeMap_of_ne hvirt _ (getNextTlvSubtype pos mem)]

end parseNextTlv

section Parse

variable {β : TlvClass → Type u} (init : (c : TlvClass) → List UInt8 → Reader UInt8 (β c))

def Settled (mem : Memory) (limit pos : Nat) : Prop :=
  match parseNextTlv.nextTlvClass mem pos with
  | none => pos + 5 ≤ limit
  | some c => (Reader.read c.headerLength (init c)).Settles mem limit pos

inductive Reached (mem : Memory) (limit : Nat) : Nat → Prop where
  | first : Reached mem limit Ieee1905CmduHeader.length
  | next {pos : Nat} {tlv : ParsedTlv β} (hpos : Reached mem limit pos)
    (htlv : parseNextTlv init mem limit pos = .added tlv) (hend : tlv.tlvClass ≠ .tlvEndOfMessage)
    : Reached mem limit tlv.stop

/--
What becomes of the next TLV is decided by the first `limit` bytes: They contain all of it, or it
cannot be added for any other bytes behind them.
-/
def Decided (mem : Memory) (limit stop pos : Nat) : Prop :=
  Settled init mem limit pos
    ∨ (∀ mem', Agree limit mem mem' → parseNextTlv init mem' stop pos = .failed)
    ∨ (∀ mem', Agree limit mem mem' → parseNextTlv init mem' stop pos = .fatal)

def Inside (limit : Nat) (tlvs : List (ParsedTlv β)) : Prop :=
  ∀ tlv ∈ tlvs, tlv.stop ≤ limit

variable {init} {mem mem' : Memory} {limit stop : Nat}

namespace Settled

variable (h : Settled init mem limit pos)

include h

theorem of_class (hclass : parseNextTlv.nextTlvClass mem pos = some c)
    : (Reader.read c.headerLength (init c)).Settles mem limit pos := by
  unfold Settled at h
  rw [hclass] at h
  exact h

variable (hagree : Agree limit mem mem')

include hagree

theorem nextTlvClass_eq
    : parseNextTlv.nextTlvClass mem' pos = parseNextTlv.nextTlvClass mem pos := by
  cases hclass : parseNextTlv.nextTlvClass mem pos with
  | none =>
    unfold Settled at h
    rw [hclass] at h
    rw [parseNextTlv.nextTlvClass_congr (hagree.mono h), hclass]
  | some c =>
    have hhdr := (h.of_class hclass).1
    exact parseNextTlv.nextTlvClass_congr_of_some hclass (hagree.mono hhdr)

theorem congr : Settled init mem' limit pos := by
  unfold Settled
  rw [h.nextTlvClass_eq hagree]
  cases hclass : parseNextTlv.nextTlvClass mem pos with
  | none =>
    unfold Settled at h
    rw [hclass] at h
    exact h
  | some c => exact (h.of_class hclass).congr hagree

theorem parseNextTlv_eq (hstop : limit ≤ stop)
    : parseNextTlv init mem' stop pos = parseNextTlv init mem limit pos := by
  unfold parseNextTlv addClass
  rw [h.nextTlvClass_eq hagree]
  cases hclass : parseNextTlv.nextTlvClass mem pos with
  | none => rfl
  | some c =>
    dsimp only
    rw [(h.of_class hclass).run_eq hagree hstop]

end Settled

variable {tlv : ParsedTlv β}

theorem lt_stop_of_not_settled (h : ¬ Settled init mem limit pos)
    (htlv : parseNextTlv init mem stop pos = .added tlv)
    : limit < tlv.stop := by
  unfold parseNextTlv at htlv
  unfold Settled at h
  split at htlv
  . cases htlv
  next c hclass =>
  rw [hclass] at h
  split at htlv
  . cases htlv
  . next hadd =>
    cases htlv
    unfold addClass at hadd
    rw [Option.map_eq_some_iff] at hadd
    obtain ⟨⟨fields, e⟩, hrun, rfl⟩ := hadd
    exact lt_of_not_settles h hrun

theorem parseNextTlv_congr (h : parseNextTlv init mem stop pos = .added tlv)
    (hagree : Agree tlv.stop mem mem') {stop' : Nat} (hstop : tlv.stop ≤ stop')
    : parseNextTlv init mem' stop' pos = .added tlv := by
  unfold parseNextTlv at h
  split at h
  . cases h
  next c hclass =>
  split at h
  . cases h
  next hadd =>
  cases h
  have hhdr := (addClass_bounds hadd).1
  unfold addClass at hadd
  rw [Option.map_eq_some_iff] at hadd
  obtain ⟨⟨fields, e⟩, hrun, rfl⟩ := hadd
  unfold parseNextTlv addClass
  rw [parseNextTlv.nextTlvClass_congr_of_some hclass (hagree.mono hhdr)]
  dsimp only
  rw [run_congr hrun hagree hstop]
  rfl

namespace parse

theorem go_of_fatal (h : parseNextTlv init mem stop pos = .fatal)
    : go init mem stop pos = none := by
  rw [go, h]

theorem go_of_failed (h : parseNextTlv init mem stop pos = .failed)
    : go init mem stop pos = some (false, []) := by
  rw [go, h]

theorem go_of_end (h : parseNextTlv init mem stop pos = .added tlv)
    (hend : tlv.tlvClass = .tlvEndOfMessage)
    : go init mem stop pos = some (true, [tlv]) := by
  rw [go, h]
  dsimp only
  rw [if_pos hend]

theorem go_of_added (h : parseNextTlv init mem stop pos = .added tlv)
    (hend : tlv.tlvClass ≠ .tlvEndOfMessage)
    : go init mem stop pos
        =
      (go init mem stop tlv.stop).map (fun res => (res.1, tlv :: res.2)) := by
  rw [go, h]
  dsimp only
  rw [if_neg hend]

variable (init) in
def FrameOnly (mem : Memory) (limit stop pos : Nat) : Prop :=
  ∀ mem', Agree limit mem mem'
    → go init mem' stop pos = go init mem stop pos
      ∧ ∀ res, go init mem' stop pos = some res → Inside limit res.2

theorem frameOnly_of_decided (hstop : limit ≤ stop)
    (hdecided : ∀ pos, Reached init mem limit pos → Decided init mem limit stop pos)
    (hpos : Reached init mem limit pos)
    : FrameOnly init mem limit stop pos := by
  induction hn : limit - pos using Nat.strong_induction_on generalizing pos with
  | _ n ih =>
  intro mem' hagree
  obtain hsettl | hfail | hfatal := hdecided pos hpos
  . have heq := hsettl.parseNextTlv_eq (Agree.refl limit mem) hstop
    have heq' := hsettl.parseNextTlv_eq hagree hstop
    cases hnext : parseNextTlv init mem limit pos with
    | fatal => simp [go_of_fatal (heq.trans hnext), go_of_fatal (heq'.trans hnext)]
    | failed => simp [go_of_failed (heq.trans hnext), go_of_failed (heq'.trans hnext), Inside]
    | added tlv =>
      have hbounds := parseNextTlv_bounds hnext
      by_cases hend : tlv.tlvClass = .tlvEndOfMessage
      . rw [go_of_end (heq.trans hnext) hend, go_of_end (heq'.trans hnext) hend]
        simp [Inside, hbounds.2]
      rw [go_of_added (heq.trans hnext) hend, go_of_added (heq'.trans hnext) hend]
      obtain ⟨hsame, hins⟩ := ih (limit - tlv.stop) (by omega) (.next hpos hnext hend) rfl
        mem' hagree
      rw [hsame]
      refine ⟨rfl, ?_⟩
      intro res hres
      rw [Option.map_eq_some_iff] at hres
      obtain ⟨res', hres', rfl⟩ := hres
      intro tlv' hmem
      rw [List.mem_cons] at hmem
      obtain rfl | hmem := hmem
      . exact hbounds.2
      . exact hins res' (hsame.trans hres') tlv' hmem
  . simp [go_of_failed (hfail mem' hagree), go_of_failed (hfail mem (Agree.refl limit mem)), Inside]
  . simp [go_of_fatal (hfatal mem' hagree), go_of_fatal (hfatal mem (Agree.refl limit mem))]

namespace FrameOnly

section

variable (h : FrameOnly init mem limit stop pos)

include h

theorem next (hstop : limit ≤ stop) (htlv : parseNextTlv init mem limit pos = .added tlv)
    (hend : tlv.tlvClass ≠ .tlvEndOfMessage)
    : FrameOnly init mem limit stop tlv.stop := by
  intro mem' hagree
  have hle := (parseNextTlv_bounds htlv).2
  have hadded := parseNextTlv_congr htlv (Agree.refl _ mem) (hle.trans hstop)
  have hadded' := parseNextTlv_congr htlv (hagree.mono hle) (hle.trans hstop)
  obtain ⟨hsame, hins⟩ := h mem' hagree
  rw [go_of_added hadded hend, go_of_added hadded' hend] at hsame
  rw [go_of_added hadded' hend] at hins
  constructor
  . apply Option.map_injective _ hsame
    intro res res' heq
    simpa [Prod.ext_iff] using heq
  . intro res hres tlv' hmem
    apply hins (res.1, tlv :: res.2)
    . rw [hres]
      rfl
    . simp [hmem]

theorem not_added (hsettl : ¬ Settled init mem limit pos) (hagree : Agree limit mem mem')
    (tlv : ParsedTlv β)
    : parseNextTlv init mem' stop pos ≠ .added tlv := by
  intro htlv
  have hlt : limit < tlv.stop := by
    apply lt_stop_of_not_settled _ htlv
    intro hsettl'
    exact hsettl (hsettl'.congr hagree.symm)
  let ended : Memory := fun i => if i < tlv.stop then mem' i else 0
  have hended : Agree tlv.stop mem' ended := fun i hi => if_pos hi
  have hadded := parseNextTlv_congr htlv hended (parseNextTlv_bounds htlv).2
  have hclass : parseNextTlv.nextTlvClass ended tlv.stop = some .tlvEndOfMessage := by
    have htype : ended tlv.stop = 0 := if_neg (Nat.lt_irrefl _)
    unfold parseNextTlv.nextTlvClass
    rw [htype]
    rfl
  obtain ⟨-, hins⟩ := h ended (hagree.trans (hended.mono (Nat.le_of_lt hlt)))
  have hgo : ∃ ok tlvs, go init ended stop pos = some (ok, tlv :: tlvs) := by
    by_cases hend : tlv.tlvClass = .tlvEndOfMessage
    . exact ⟨true, [], go_of_end hadded hend⟩
    rw [go_of_added hadded hend]
    cases hnext : addClass init ended stop tlv.stop .tlvEndOfMessage with
    | none =>
      have hfail : parseNextTlv init ended stop tlv.stop = .failed := by
        unfold parseNextTlv
        rw [hclass]
        dsimp only
        rw [hnext]
      exact ⟨false, [], by rw [go_of_failed hfail]; rfl⟩
    | some last =>
      have hlast : parseNextTlv init ended stop tlv.stop = .added last := by
        unfold parseNextTlv
        rw [hclass]
        dsimp only
        rw [hnext]
      have hend' : last.tlvClass = .tlvEndOfMessage := by
        unfold addClass at hnext
        rw [Option.map_eq_some_iff] at hnext
        obtain ⟨res, -, rfl⟩ := hnext
        rfl
      exact ⟨true, [last], by rw [go_of_end hlast hend']; rfl⟩
  obtain ⟨ok, tlvs, hgo⟩ := hgo
  have hle := hins _ hgo tlv (by simp)
  omega

theorem decided : Decided init mem limit stop pos := by
  by_cases hsettl : Settled init mem limit pos
  . exact .inl hsettl
  right
  have hcases : ∀ mem', Agree limit mem mem' → parseNextTlv init mem' stop pos = .fatal
      ∨ parseNextTlv init mem' stop pos = .failed := by
    intro mem' hagree
    cases hnext : parseNextTlv init mem' stop pos with
    | fatal => exact .inl rfl
    | failed => exact .inr rfl
    | added tlv => exact absurd hnext (h.not_added hsettl hagree tlv)
  -- it fails or is fatal for all bytes that follow since the results are the same
  obtain hfatal | hfail := hcases mem (Agree.refl limit mem)
  . right
    intro mem' hagree
    apply (hcases mem' hagree).resolve_right
    intro hfail
    have hsame := (h mem' hagree).1
    rw [go_of_failed hfail, go_of_fatal hfatal] at hsame
    cases hsame
  left
  intro mem' hagree
  apply (hcases mem' hagree).resolve_left
  intro hfatal
  have hsame := (h mem' hagree).1
  rw [go_of_failed hfail, go_of_fatal hfatal] at hsame
  cases hsame

end

theorem of_reached (h : FrameOnly init mem limit stop Ieee1905CmduHeader.length)
    (hstop : limit ≤ stop) (hpos : Reached init mem limit pos)
    : FrameOnly init mem limit stop pos := by
  induction hpos with
  | first => exact h
  | next _ htlv hend ih => exact ih.next hstop htlv hend

end FrameOnly

theorem frameOnly_iff (hstop : limit ≤ stop)
    : FrameOnly init mem limit stop Ieee1905CmduHeader.length
        ↔
      ∀ pos, Reached init mem limit pos → Decided init mem limit stop pos := by
  constructor
  . intro h pos hpos
    exact (h.of_reached hstop hpos).decided
  . intro h
    exact frameOnly_of_decided hstop h .first

end parse

theorem length_le_of_verifyCmdu {length : Nat}
    (h : (verifyCmdu mem 0 length).map Prod.fst = some true)
    : Ieee1905CmduHeader.length ≤ length := by
  unfold verifyCmdu at h
  split at h
  . cases h
  . next hlen =>
    unfold cmduHeaderLength tlvHeaderLength at hlen
    unfold Ieee1905CmduHeader.length
    omega

variable (cmduHeader : Ieee1905CmduHeader)

def ofHeader (res : Bool × List (ParsedTlv β)) : ParsedMessage β :=
  ⟨res.1, some cmduHeader, res.2⟩

theorem ofHeader_injective : Function.Injective (ofHeader (β := β) cmduHeader) := by
  intro res res' h
  rw [ParsedMessage.mk.injEq] at h
  exact Prod.ext h.1 h.2.2

theorem parse_eq (hstop : Ieee1905CmduHeader.length ≤ stop) (mem : Memory)
    : parse init mem stop
        =
      (parse.go init mem stop Ieee1905CmduHeader.length).map
        (ofHeader (.ofBytes (Reader.bytes mem 0 Ieee1905CmduHeader.length))) := by
  unfold parse
  rw [if_neg (Nat.not_lt.mpr hstop)]
  rfl

theorem parse_depends_on_frame_iff {length : Nat}
    (hverify : (verifyCmdu mem 0 length).map Prod.fst = some true) (hstop : length ≤ stop)
    : (∀ mem', Agree length mem mem' → parse init mem' stop = parse init mem stop
        ∧ ∀ message, parse init mem' stop = some message → Inside length message.tlvs)
        ↔
      ∀ pos, Reached init mem length pos → Decided init mem length stop pos := by
  have hlen := length_le_of_verifyCmdu hverify
  rw [← parse.frameOnly_iff hstop]
  apply forall_congr'
  intro mem'
  apply imp_congr_right
  intro hagree
  rw [parse_eq (hlen.trans hstop) mem', parse_eq (hlen.trans hstop) mem]
  rw [bytes_congr hagree (by omega)]
  generalize Ieee1905CmduHeader.ofBytes _ = cmduHeader
  constructor
  . rintro ⟨hsame, hins⟩
    refine ⟨Option.map_injective (ofHeader_injective cmduHeader) hsame, ?_⟩
    intro res hres
    apply hins (ofHeader cmduHeader res)
    rw [hres]
    rfl
  . rintro ⟨hsame, hins⟩
    refine ⟨by rw [hsame], ?_⟩
    intro message hmsg
    rw [Option.map_eq_some_iff] at hmsg
    obtain ⟨res, hres, rfl⟩ := hmsg
    exact hins res hres

end Parse

namespace ParseExample

open Bytes

def init (c : TlvClass) (header : List UInt8) : Reader UInt8 (List UInt8) :=
  match c with
  | .tlvEndOfMessage => if header.head? = c.tlvType then .done [] else .reject
  | .tlvAlMacAddress =>
    .read 6 (fun mac => if header.head? = c.tlvType then .done mac else .reject)
  | _ => .read (toNatBE (field 1 2 header)) .done

def received (frame : List UInt8) (leftover : UInt8) : Memory :=
  fun i => frame.getD i leftover

def wellFormed : List UInt8 :=
  [0, 0, 0, 1, 0, 0, 0, 0x80, 0x01, 0, 6, 0x02, 0, 0, 0, 0, 0x61, 0, 0, 0]

def alMacAddress : ParsedTlv (fun _ => List UInt8) :=
  ⟨.tlvAlMacAddress, [0x02, 0, 0, 0, 0, 0x61], 17⟩

theorem parseNextTlv_first
    : parseNextTlv init (received wellFormed 0) 20 8 = .added alMacAddress := rfl

theorem parseNextTlv_second
    : parseNextTlv init (received wellFormed 0) 20 17 = .added ⟨.tlvEndOfMessage, [], 20⟩ := rfl

theorem eq_of_reached (h : Reached init (received wellFormed 0) 20 pos)
    : pos = 8 ∨ pos = 17 := by
  induction h with
  | first => exact .inl rfl
  | next hpos htlv hend ih =>
    obtain rfl | rfl := ih
    . cases parseNextTlv_first.symm.trans htlv
      exact .inr rfl
    . cases parseNextTlv_second.symm.trans htlv
      exact absurd rfl hend

theorem parse_depends_on_frame_wellFormed
    : (verifyCmdu (received wellFormed 0) 0 20).map Prod.fst = some true
        ∧ ∀ mem', Agree 20 (received wellFormed 0) mem'
          → parse init mem' 8192 = parse init (received wellFormed 0) 8192
            ∧ ∀ message, parse init mem' 8192 = some message → Inside 20 message.tlvs := by
  have hver : (verifyCmdu (received wellFormed 0) 0 20).map Prod.fst = some true := by
    decide +kernel
  refine ⟨hver, (parse_depends_on_frame_iff hver (by decide)).mpr ?_⟩
  intro pos hpos
  left
  obtain rfl | rfl := eq_of_reached hpos
  . exact ⟨by decide, by decide, trivial⟩
  . exact ⟨by decide, trivial⟩

def frame : List UInt8 :=
  [0, 0, 0, 1, 0, 0, 0, 0x80, 0x01, 0, 0, 0, 0, 0]

theorem parse_differs
    : (verifyCmdu (received frame 0x00) 0 frame.length).map Prod.fst = some true
        ∧ (verifyCmdu (received frame 0xff) 0 frame.length).map Prod.fst = some true
        ∧ (parse init (received frame 0x00) 8192).map (·.success) = some true
        ∧ (parse init (received frame 0xff) 8192).map (·.success) = some false := by
  decide +kernel

end ParseExample

end PrplMesh
