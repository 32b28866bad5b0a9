import MstpLink.SerialBus
import MstpLink.SnifferSession

/-! The sniffer `mstp_sniffer.py` listening on the bus of simulated stations.

The stations of `SerialBus.lean` write their frames with `build_frame`, whose header CRC
is the Annex G.1 `crc8_header` of the simulator; the sniffer checks a header with its own
`crc8`, and the two disagree on some headers (`serial_crc8_differs_from_annexG`). A
header that fails the check sends the sniffer back to `IDLE` with nothing reported. When
no frame on the wire has a payload, the next frame starts right after that header, so
the sniffer loses the rejected frame and nothing else.

## Main result

`sniffer_reports_agreeing_headers`: when no frame first on the wire has a payload, under
every schedule of the stations none of them writes one, and a sniffer started on the
wire reports exactly the frames written whose header gets the same CRC from the sniffer's
`crc8` and the simulator's `crc8_header`, in order, numbered from 1, each with length 0.

## Proof strategy

A station answers a Test_Request with its payload and every other frame without one
(`RunState.pass_written`), and it parses only frames of the wire (`Tracks.parsed_mem`),
so the wire keeps no payload over every run (`log_bare_run`). The sniffer reads such a
frame from a ready state in one of two ways (`feed_header_done`,
`feed_header_rejected`), ready again either way. -/

namespace MstpLink.Simulator

/-- The five header bytes `build_frame` writes for these arguments. -/
def FrameArgs.header (f : FrameArgs) : List UInt8 :=
  [f.frameType, f.dest, f.src, hiByte (f.data.getD []).length, loByte (f.data.getD []).length]

theorem FrameArgs.header_of_bare {f : FrameArgs} (bare : f.data.getD [] = []) :
    f.header = [f.frameType, f.dest, f.src, 0, 0] := by
  rw [FrameArgs.header, bare, List.length_nil, show hiByte 0 = 0 by decide, show loByte 0 = 0 by decide]

/-- A frame without payload is its header and the simulator's header CRC. -/
theorem FrameArgs.bytes_of_bare {f : FrameArgs} (bare : f.data.getD [] = []) :
    f.bytes = [0x55, 0xFF, f.frameType, f.dest, f.src, 0, 0,
      UInt8.ofNat (crc8Header [f.frameType, f.dest, f.src, 0, 0])] := by
  obtain ⟨t, d, s, _ | _ | ⟨x, xs⟩⟩ := f
  · rfl
  · rfl
  · cases bare

@[simp] theorem FrameArgs.decoded_data_getD (f : FrameArgs) : f.decoded.data.getD [] = f.data.getD [] := by
  obtain ⟨t, d, s, _ | _ | ⟨x, xs⟩⟩ := f <;> rfl

namespace SerialBus

variable {n : Nat} {stations : Fin n → MstpSimulator}

/-- A step of a bus whose wire carries no payload writes none. -/
theorem Inv.step_bare {bus : SerialBus n} (inv : Inv stations bus)
    (bare : ∀ s ∈ bus.log, s.data.getD [] = []) (i : Fin n) (k : Nat) :
    ∀ s ∈ (bus.step i k).log, s.data.getD [] = [] := by
  intro s mem
  rcases List.mem_append.mp mem with old | written
  · exact bare s old
  rcases RunState.pass_written _ _ s written with none | ⟨f, parsed, same⟩
  · rw [none]; rfl
  have onWire := (inv.tracks i).parsed_mem k parsed
  rw [bytes, drain_sent_bytes _ inv.fits] at onWire
  obtain ⟨s', old, rfl⟩ := List.mem_map.mp onWire
  rw [same, FrameArgs.decoded_data_getD]
  exact bare s' old

/-- No payload on the wire stays so under every schedule. -/
theorem log_bare_run {bus : SerialBus n} (inv : Inv stations bus)
    (bare : ∀ s ∈ bus.log, s.data.getD [] = []) (schedule : List (Fin n × Nat)) :
    ∀ s ∈ (bus.run schedule).log, s.data.getD [] = [] := by
  induction schedule generalizing bus with
  | nil => exact bare
  | cons e schedule ih => exact ih (inv.step e.1 e.2) (inv.step_bare bare e.1 e.2)

end SerialBus

end MstpLink.Simulator

namespace MstpLink.Sniffer

open Simulator

/-- The sniffer's `crc8` accepts the header CRC `build_frame` writes for these arguments. -/
def passesHeaderCheck (f : FrameArgs) : Bool :=
  decide (crc8 f.header = Simulator.crc8Header f.header)

theorem reports_append (n : Nat) (a b : List FrameArgs) :
    reports n (a ++ b) = reports n a ++ reports (n + a.length) b := by
  induction a generalizing n with
  | nil => rfl
  | cons f a ih =>
    rw [List.cons_append, reports, reports, ih, List.length_cons, List.cons_append,
      show n + 1 + a.length = n + (a.length + 1) by omega]

namespace MstpSniffer

/-- The eighth byte in `HEADER`, when the CRC check fails: back to `IDLE`, the buffer
emptied, nothing reported. -/
theorem processByte_of_header_rejected {sn : MstpSniffer} (header : sn.state = .HEADER)
    {t d s hi lo hc : UInt8} (buffer : sn.buffer = [0x55, 0xFF, t, d, s, hi, lo])
    (crc : crc8 [t, d, s, hi, lo] ≠ hc.toNat) :
    sn.processByte hc =
      ({ sn with buffer := [], state := .IDLE, frameType := t, dstAddr := d, srcAddr := s,
                 dataLen := hi.toNat <<< 8 ||| lo.toNat, headerCrc := hc }, none) := by
  simp only [processByte, header, buffer, List.cons_append, List.nil_append, List.length_cons,
    List.length_nil, List.getD_cons_succ, List.getD_cons_zero, List.drop_succ_cons, List.drop_zero,
    List.take_succ_cons, List.take_zero, crc, ne_eq, not_false_eq_true, if_true]

/-- A header that fails the CRC check, from a ready sniffer, is dropped, and the sniffer
is ready again. -/
theorem feed_header_rejected {n : Nat} {sn : MstpSniffer} (ready : Ready n sn) {t d s hi lo hc : UInt8}
    (crc : crc8 [t, d, s, hi, lo] ≠ hc.toNat) :
    (sn.feed [0x55, 0xFF, t, d, s, hi, lo, hc]).2 = [] ∧
      Ready n (sn.feed [0x55, 0xFF, t, d, s, hi, lo, hc]).1 := by
  rw [feed_header ready]
  dsimp only
  rw [processByte_of_header_rejected rfl rfl crc]
  exact ⟨rfl, rfl, ready.empty, ready.count⟩

/-- A ready sniffer reads a frame of `build_frame` without payload: reported when its
header passes the check, dropped when it does not, and ready again either way. -/
theorem feed_bare_frame {n : Nat} {sn : MstpSniffer} (ready : Ready n sn) {f : FrameArgs}
    (bare : f.data.getD [] = []) :
    (sn.feed f.bytes).2 = reports n ([f].filter passesHeaderCheck) ∧
      Ready (n + ([f].filter passesHeaderCheck).length) (sn.feed f.bytes).1 := by
  have written : crc8 f.header = Simulator.crc8Header f.header ↔
      crc8 [f.frameType, f.dest, f.src, 0, 0] =
        (UInt8.ofNat (Simulator.crc8Header [f.frameType, f.dest, f.src, 0, 0])).toNat := by
    rw [FrameArgs.header_of_bare bare, toNat_ofNat_of_lt_256 (crc8Header_lt _)]
  rw [FrameArgs.bytes_of_bare bare]
  by_cases agree : crc8 f.header = Simulator.crc8Header f.header
  · have kept : [f].filter passesHeaderCheck = [f] := by simp [passesHeaderCheck, agree]
    obtain ⟨out, done⟩ := feed_header_done ready (written.mp agree) (by decide)
    rw [kept]
    exact ⟨by rw [out, reports, reports, bare]; rfl, done⟩
  · have dropped : [f].filter passesHeaderCheck = [] := by simp [passesHeaderCheck, agree]
    rw [dropped]
    exact feed_header_rejected ready (mt written.mpr agree)

/-- A ready sniffer fed the frames of `build_frame` without payload, back to back, reports
those whose header passes the check, numbered on from its count, and ends ready. -/
theorem feed_bare_frames {n : Nat} {sn : MstpSniffer} (ready : Ready n sn) (frames : List FrameArgs)
    (bare : ∀ f ∈ frames, f.data.getD [] = []) :
    (sn.feed (frames.map FrameArgs.bytes).flatten).2 = reports n (frames.filter passesHeaderCheck) ∧
      Ready (n + (frames.filter passesHeaderCheck).length) (sn.feed (frames.map FrameArgs.bytes).flatten).1 := by
  induction frames generalizing n sn with
  | nil => exact ⟨rfl, ready⟩
  | cons f rest ih =>
    obtain ⟨out, next⟩ := feed_bare_frame ready (bare f (List.mem_cons_self _ _))
    obtain ⟨more, done⟩ := ih next fun f' mem => bare f' (List.mem_cons_of_mem _ mem)
    rw [List.map_cons, List.flatten_cons, feed_append, out, more,
      show f :: rest = [f] ++ rest from rfl, List.filter_append, reports_append, List.length_append,
      ← Nat.add_assoc]
    exact ⟨rfl, done⟩

end MstpSniffer

/-- The reports of frames without payload all have length 0 and no data. -/
theorem reports_bare {n : Nat} {frames : List FrameArgs} (bare : ∀ f ∈ frames, f.data.getD [] = []) :
    ∀ c ∈ reports n frames, c.dataLen = 0 ∧ c.data = [] := by
  induction frames generalizing n with
  | nil => exact fun c mem => absurd mem (List.not_mem_nil c)
  | cons f rest ih =>
    intro c mem
    rcases List.mem_cons.mp mem with rfl | later
    · rw [bare f (List.mem_cons_self _ _)]
      exact ⟨rfl, rfl⟩
    · exact ih (fun f' mem' => bare f' (List.mem_cons_of_mem _ mem')) c later

/-- On the wire of a bus of stations in any states, when the frames first on the wire have
no payload, under every schedule: no station writes a payload, and a sniffer started on the
wire reports exactly the frames written whose header passes its CRC check, in order,
numbered from 1, each with length 0 and no data. -/
theorem sniffer_reports_agreeing_headers {n : Nat} (stations : Fin n → MstpSimulator) (log : List Sent)
    (bare : ∀ s ∈ log, s.data.getD [] = []) (schedule : List (Fin n × Nat)) :
    (∀ s ∈ ((SerialBus.start stations log).run schedule).log, s.data.getD [] = []) ∧
      (MstpSniffer.init.feed ((SerialBus.start stations log).run schedule).bytes).2 =
        reports 0 ((((SerialBus.start stations log).run schedule).log.map Sent.args).filter passesHeaderCheck) ∧
      ∀ c ∈ (MstpSniffer.init.feed ((SerialBus.start stations log).run schedule).bytes).2,
        c.dataLen = 0 ∧ c.data = [] := by
  have fits : ∀ s ∈ log, (s.data.getD []).length ≤ 65535 := fun s mem => by
    rw [bare s mem]; exact Nat.zero_le _
  have written := SerialBus.log_bare_run (@SerialBus.inv_start n stations log fits) bare schedule
  have frames : ∀ f ∈ ((SerialBus.start stations log).run schedule).log.map Sent.args, f.data.getD [] = [] :=
    List.forall_mem_map.mpr written
  have out : (MstpSniffer.init.feed ((SerialBus.start stations log).run schedule).bytes).2 =
      reports 0 ((((SerialBus.start stations log).run schedule).log.map Sent.args).filter passesHeaderCheck) := by
    rw [SerialBus.bytes, show Sent.bytes = FrameArgs.bytes ∘ Sent.args from rfl, ← List.map_map]
    exact (MstpSniffer.feed_bare_frames MstpSniffer.ready_init _ frames).1
  refine ⟨written, out, ?_⟩
  rw [out]
  exact reports_bare fun f mem => frames f (List.mem_filter.mp mem).1

/-- Two fresh stations, 3 and 5, with a Token from 5 to 3 on the wire: after station 3
passes the token to 5 and both read the wire in pieces, the sniffer reports the Tokens
whose header its check accepts. -/
theorem sniffer_reports_agreeing_headers_token :
    (∀ s ∈ [(⟨frameToken, 3, 5, none⟩ : Sent)], s.data.getD [] = []) ∧
      (∀ s ∈ ((SerialBus.start (fun i : Fin 2 => MstpSimulator.init (3 + 2 * i.val) 127)
          [⟨frameToken, 3, 5, none⟩]).run [(0, 4), (1, 16), (0, 4)]).log, s.data.getD [] = []) ∧
      (MstpSniffer.init.feed ((SerialBus.start (fun i : Fin 2 => MstpSimulator.init (3 + 2 * i.val) 127)
          [⟨frameToken, 3, 5, none⟩]).run [(0, 4), (1, 16), (0, 4)]).bytes).2 =
        reports 0 ((((SerialBus.start (fun i : Fin 2 => MstpSimulator.init (3 + 2 * i.val) 127)
          [⟨frameToken, 3, 5, none⟩]).run [(0, 4), (1, 16), (0, 4)]).log.map Sent.args).filter
            passesHeaderCheck) ∧
      ∀ c ∈ (MstpSniffer.init.feed ((SerialBus.start (fun i : Fin 2 => MstpSimulator.init (3 + 2 * i.val) 127)
          [⟨frameToken, 3, 5, none⟩]).run [(0, 4), (1, 16), (0, 4)]).bytes).2, c.dataLen = 0 ∧ c.data = [] :=
  ⟨by decide, sniffer_reports_agreeing_headers _ _ (by decide) _⟩

end MstpLink.Sniffer
