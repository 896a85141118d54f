-- SUMMARY: What the coordinator serves against what the client accepts.
import Roost.Cell.SnapshotDelivery
import Roost.Client.FrameFold
import Roost.Coord.Screen.ReplicaAdmission

/-!
# What the client accepts

The coordinator and the client judge frames by validators of their own. A delta that folds
into the cache folds into a client's replica of it. A cache is served as one frame or as
chunks: chunks arrive with their rows by index, one frame in the order the worker sent them,
and the client asks for the order that the coordinator never looked at.
-/

namespace Roost.Coord

open Except (bind_eq_ok ite_error_eq_ok mapError mapError_eq_ok ok)

open ResidentSnapshotSource

open Roost.Cell Roost.Client

/-! ## The two ends of a delivery -/

/-- What one chunk leaves the client to fold: nothing yet, a decoded baseline, or a refusal. -/
def decodeAssembly : ChunkResult CellGridChunkAssembly → Option (Except String CellGridFrame)
  | .ok (.pending ..) => none
  | .ok (.complete _ frame) => some (decodeAssembledFrame frame)
  | .error error => some (.error error.code.wireName)

/-- A client's assembler and decoder as a machine: the parts of a delivery, each at the clock
it arrives. -/
def receiver (sizes : Sizes) : Transducer CellGridChunkAssembler (CellGridSnapshotPart × Nat)
      (Option (Except String CellGridFrame)) where
  step
    | assembler, (.frame frame, _) => (assembler, some (decodeWireFrame sizes frame false))
    | assembler, (.chunk chunk, nowMs) =>
      let (assembler, result) := assembler.push sizes chunk nowMs
      (assembler, decodeAssembly result)

structure Fenced (target : FoldTarget) (expected : ExpectedStream) : Prop where
  streamId : target.expectedStreamId = some expected.streamId
  cols : target.effectiveCols = expected.cols
  rows : target.effectiveRows = expected.rows

/-- The client takes what is served of a cache: the cache is planned, every delivery of it
decodes to a complete baseline, and every delta folded into it folds into a replica of it. -/
structure ClientAccepts (sizes : Sizes) (sessionId : SessionId) (expected : ExpectedStream)
    (cache : ResidentCache) : Prop where
  full : ∃ source, planCache sizes sessionId cache = .ok source ∧
    ∀ snapshotId fanoutMs, isTerminalUuid snapshotId = true →
      ∃ parts, source.plan.outbound sizes snapshotId fanoutMs = .ok parts ∧
        ∀ clocks : List Nat, clocks.length = parts.length →
          (clocks.IsChain fun a b => b - a < cellGridChunkStallMs) →
          ∃ decoded, (receiver sizes).answers .new (parts.zip clocks) =
              List.replicate (parts.length - 1) none ++ [some (.ok decoded)] ∧
            ∀ target, Fenced target expected → target.validFull decoded = true
  delta : ∀ delta folded fanoutMs, foldedDelta sizes delta cache expected = .ok folded →
    ∃ decoded, decodeWireFrame sizes { delta with coordFanoutMs := fanoutMs } false = .ok decoded ∧
      ∀ target, Fenced target expected → target.canonical = some cache.frame →
        target.baselineReady = true → target.canonicalChunkInFlight = false →
        target.fold decoded = ({ target with canonical := some folded }, .delta decoded)

/-- A cache as it is encoded for fan-out, under the widest stamp. -/
def fanoutFrame (sessionId : SessionId) (cache : ResidentCache) : PbCellGridFrame :=
  { frameToProto cache.frame sessionId.value with
    coordRecvMs := cache.coordRecvMs, coordFanoutMs := cellGridCoordFanoutStampMax }

/-! ## Deltas -/

variable {wire : PbCellGridFrame} {value : CellGridFrame}

theorem protoToCellFrame_scalars
    (h : protoToCellFrame wire = .ok value) :
    value.streamId = wire.streamId ∧ value.cols = wire.cols ∧ value.rows = wire.rows ∧
      value.full = wire.full ∧ value.baseSeq = wire.baseSeq ∧ value.sbBase = wire.sbBase ∧
      value.scrollbackTotal = wire.scrollbackTotal := by
  simp only [protoToCellFrame, bind_eq_ok, ok.injEq] at h
  obtain ⟨_, -, _, -, _, -, _, -, _, -, _, -, rfl⟩ := h
  exact ⟨rfl, rfl, rfl, rfl, rfl, rfl, rfl⟩

variable {sizes : Sizes} {cache : ResidentCache} {expected : ExpectedStream}

/-- A delta that folds into the cache leaves room for any stamp it is sent out under. -/
theorem foldedDelta_accepted (hgrows : sizes.Grows) {delta : PbCellGridFrame}
    {folded : CellGridFrame} (fanoutMs : UInt64)
    (h : foldedDelta sizes delta cache expected = .ok folded)
    (hstr : cache.frame.streamId = expected.streamId) :
    ∃ decoded, decodeWireFrame sizes { delta with coordFanoutMs := fanoutMs } false = .ok decoded ∧
      ∀ target, Fenced target expected → target.canonical = some cache.frame →
        target.baselineReady = true → target.canonicalChunkInFlight = false →
        target.fold decoded = ({ target with canonical := some folded }, .delta decoded) := by
  simp only [foldedDelta, ite_error_eq_ok, bind_eq_ok, mapError_eq_ok,
    not_or, not_not, Bool.not_eq_true, Nat.not_lt] at h
  obtain ⟨⟨hpart, -, -, -, hcols, hrows⟩, hroom, decoded, hdecode, h⟩ := h
  obtain ⟨hsam, hsameCols, hsameRows, hsameFull, -⟩ := protoToCellFrame_scalars hdecode
  have hdelta : decoded.full = false := hsameFull.trans hpart
  cases happly : cache.frame.applyDelta decoded with
  | none => simp [happly] at h
  | some grid =>
    simp only [happly, ite_error_eq_ok, ok.injEq] at h
    obtain ⟨-, rfl⟩ := h
    refine ⟨decoded, ?_, ?_⟩
    · have hlimit :
          ¬(sizes.frameLen { delta with coordFanoutMs := fanoutMs } > cellGridPartMaxBytes) := by
        have hstamp := hgrows.fanoutStamp delta fanoutMs
        have hmargin : cellGridCoordFanoutStampMaxEncodedBytes ≤ cellGridPartMaxBytes := by decide
        omega
      have hread : protoToCellFrame { delta with coordFanoutMs := fanoutMs } = .ok decoded := hdecode
      simp [decodeWireFrame, hlimit, hread, mapError]
    intro target hfenced hcan hready hidle
    obtain ⟨hcont, -, -⟩ := (CellGridFrame.applyDelta_eq_some hdelta).mp happly
    simp only [CellGridFrame.continues, decide_eq_true_eq] at hcont
    obtain ⟨hsame, hbase, hnext, hepoch, -⟩ := hcont
    have hfences : ((target.refusals cache.frame decoded).any id) = false := by
      simp [FoldTarget.refusals, hready, hidle, hfenced.streamId, hfenced.cols, hfenced.rows,
        hsame, hstr, hepoch, hsameCols, hsameRows, hcols, hrows, hbase, ← hnext]
    simp [FoldTarget.fold, hdelta, FoldTarget.foldDelta, hcan, hfences, happly]

/-! ## What a decoded baseline has to be -/

theorem validFull_decoded {target : FoldTarget}
    (hdecode : protoToCellFrame wire = .ok value) (hvalid : ValidSnapshot wire)
    (hhistory : wire.scrollbackRows = []) (hstr : target.expectedStreamId = some wire.streamId)
    (hcols : target.effectiveCols = wire.cols) (hrows : target.effectiveRows = wire.rows) :
    target.validFull value = true ↔ InOrder wire.viewportRows := by
  obtain ⟨⟨hfull, hbase, happend⟩, -⟩ := hvalid.fields
  obtain ⟨hsam, hsameCols, hsameRows, hsameFull, hsameBase, hsameSt, hsameTot⟩ :=
    protoToCellFrame_scalars hdecode
  have hcan := canonical_decoded_iff hdecode hfull
  obtain ⟨-, hcount⟩ := protoToCellFrame_full hdecode hfull
  have hend : wire.sbBase = wire.scrollbackTotal := by
    have hlast := hvalid.historyEnd
    rw [hhistory, List.length_nil, Nat.add_zero] at hlast
    exact UInt64.toNat_inj.mp hlast
  have hempty : value.scrollbackRows = [] ∧ value.scrollbackAppend = [] := by
    simp only [protoToCellFrame, bind_eq_ok, ok.injEq, hhistory, happend] at hdecode
    obtain ⟨_, -, _, -, _, -, _, hhistory, _, happ, _, -, rfl⟩ := hdecode
    cases hhistory
    cases happ
    exact ⟨rfl, rfl⟩
  have horder : (value.viewportRows.zipIdx.any fun entry =>
      decide (entry.1.index.toNat ≠ entry.2)) = false ↔ value.Canonical := by
    rw [List.any_eq_false]
    constructor
    · intro h
      refine ⟨hcount, ?_⟩
      intro i row hrow
      have hentry := h (row, i) (List.mk_mem_zipIdx_iff_getElem?.mpr hrow)
      simpa using hentry
    · intro h entry hmem
      have hat := h.position entry.2 entry.1 (List.mem_zipIdx_iff_getElem?.mp hmem)
      simp [hat]
  have hhead : ¬((!value.full) = true ∨ value.baseSeq ≠ 0 ∨
      value.viewportRows.length ≠ value.rows.toNat ∨ (!value.scrollbackAppend.isEmpty) = true) := by
    simp [hsameFull, hfull, hsameBase, hbase, hcount, hempty.2]
  have hsame : ¬(value.streamId ≠ wire.streamId ∨ value.cols ≠ target.effectiveCols ∨
      value.rows ≠ target.effectiveRows) := by
    simp [hsam, hsameCols, hsameRows, hcols, hrows]
  rw [← hcan, ← horder, FoldTarget.validFull, if_neg hhead, hstr]
  simp only [if_neg hsame]
  cases horder' : value.viewportRows.zipIdx.any fun entry =>
      decide (entry.1.index.toNat ≠ entry.2) with
  | true => simp
  | false => simp [hempty.1, FoldTarget.historyEnd, hsameSt, hsameTot, hend]

/-! ## The chunks of a delivery -/

/-- What the client is left with after an assembler's reply. -/
def decodeReply : CellGridChunkAssembler.Reply → Option (Except String CellGridFrame)
  | .pushed result => decodeAssembly result
  | .done => none
  | .expired _ => none

theorem receiver_chunks (sizes : Sizes) (assembler : CellGridChunkAssembler)
    (chunks : List PbCellGridChunk) (clocks : List Nat) :
    (receiver sizes).answers assembler ((chunks.map CellGridSnapshotPart.chunk).zip clocks) =
      ((CellGridChunkAssembler.machine sizes).answers assembler
        (List.zipWith CellGridChunkAssembler.Op.push chunks clocks)).map decodeReply := by
  induction chunks generalizing assembler clocks with
  | nil => rfl
  | cons chunk chunks ih =>
    cases clocks with
    | nil => rfl
    | cons nowMs clocks =>
      simp only [List.map_cons, List.zip_cons_cons, List.zipWith_cons_cons, Transducer.answers_cons]
      congr 1
      exact ih _ clocks

variable {frame : PbCellGridFrame}

theorem receiver_of_cuts {snap : String}
    {chunks : List PbCellGridChunk} {clocks : List Nat}
    (hcuts : Cuts sizes frame snap chunks) (hvalid : ValidSnapshot frame)
    (hid : isTerminalUuid snap = true) (hlen : clocks.length = chunks.length)
    (hgaps : clocks.IsChain fun a b => b - a < cellGridChunkStallMs) :
    (receiver sizes).answers .new ((chunks.map CellGridSnapshotPart.chunk).zip clocks) =
      List.replicate (chunks.length - 1) none ++
        [some (decodeAssembledFrame (receivedFrame frame))] := by
  obtain ⟨hanswer, -⟩ :=
    CellGridChunkAssembler.completes_of_cuts hcuts hvalid hid hlen hgaps
  rw [receiver_chunks, hanswer, List.map_append, List.map_map]
  congr 1
  exact List.eq_replicate_iff.mpr ⟨by simp, by simp [decodeReply, decodeAssembly]⟩

/-! ## Planning a cache -/

theorem createCellGridSnapshotSource_eq_ok
    (hvalid : ValidSnapshot frame) {plan : CellGridSnapshotSource} :
    createCellGridSnapshotSource sizes frame false = .ok plan ↔
      (sizes.frameLen frame ≤ cellGridPartMaxBytes ∧ plan = { frame, parts := none }) ∨
        (cellGridPartMaxBytes < sizes.frameLen frame ∧
          ∃ parts, planSnapshotParts sizes frame = .ok parts ∧
            plan = { frame, parts := some parts }) := by
  obtain ⟨_, hstats⟩ := assertCellGridSnapshot_iff.mpr hvalid
  simp only [createCellGridSnapshotSource, hstats, bind_eq_ok, ok.injEq,
    exists_eq_left', Bool.not_false, Bool.true_and, decide_eq_true_eq]
  by_cases hfits : sizes.frameLen frame ≤ cellGridPartMaxBytes
  · simp [hfits, Nat.not_lt.mpr hfits, eq_comm]
  · simp only [hfits, if_false, false_and, false_or, Nat.lt_of_not_le hfits, true_and,
      bind_eq_ok, ok.injEq]
    simp only [eq_comm]

theorem planCache_eq_ok {sid : SessionId}
    (hvalid : ValidSnapshot (fanoutFrame sid cache)) {source : ResidentSnapshotSource} :
    planCache sizes sid cache = .ok source ↔
      ∃ plan, createCellGridSnapshotSource sizes (fanoutFrame sid cache) false = .ok plan ∧
        source = { sessionId := sid, generation := cache.generation, plan } := by
  obtain ⟨-, hseq⟩ := hvalid.fields
  have hencode : cellFrameToProto cache.frame sid.value =
      .ok (frameToProto cache.frame sid.value) := by
    have hidentity : assertFrameIdentity cache.frame.streamId cache.frame.gridEpoch
        cache.frame.full cache.frame.baseSeq cache.frame.seq = .ok () := hseq
    have hstruct : assertFrameStructure (frameToProto cache.frame sid.value) = .ok () :=
      hvalid.frameStructure
    simp only [cellFrameToProto, bind_eq_ok]
    exact ⟨(), hidentity, (), hstruct, trivial⟩
  simp only [planCache, hencode, bind_eq_ok, mapError_eq_ok, ok.injEq, exists_eq_left']
  constructor
  · rintro ⟨plan, hplan, rfl⟩
    exact ⟨plan, hplan, rfl⟩
  · rintro ⟨plan, hplan, rfl⟩
    exact ⟨plan, hplan, rfl⟩

/-! ## A served cache -/

theorem inOrder_congr {rows rows' : List PbCellRow}
    (h : rows.map PbCellRow.index = rows'.map PbCellRow.index) : InOrder rows ↔ InOrder rows' := by
  have hread : ∀ i : Nat, rows[i]?.map PbCellRow.index = rows'[i]?.map PbCellRow.index := by
    intro i
    rw [← List.getElem?_map, h, List.getElem?_map]
  constructor
  · intro horder i row hrow
    have hi := hread i
    rw [hrow, Option.map_some, Option.map_eq_some_iff] at hi
    obtain ⟨other, hother, heq⟩ := hi
    rw [← heq]
    exact horder i other hother
  intro horder i row hrow
  have hi := hread i
  rw [hrow, Option.map_some, eq_comm, Option.map_eq_some_iff] at hi
  obtain ⟨other, hother, heq⟩ := hi
  rw [← heq]
  exact horder i other hother

structure Servable (sessionId : SessionId) (expected : ExpectedStream) (cache : ResidentCache) :
    Prop where
  valid : ValidSnapshot (fanoutFrame sessionId cache)
  placements : ∃ placements, placementsFromProto (fanoutFrame sessionId cache) = .ok placements
  history : cache.frame.scrollbackRows = []
  streamId : cache.frame.streamId = expected.streamId
  cols : cache.frame.cols = expected.cols
  rows : cache.frame.rows = expected.rows

variable {proto : PbCellGridFrame}

theorem validatedFull_servable
    {assembled : Bool} {spans : Nat}
    (h : validatedFull sizes proto expected assembled = .ok (cache.frame, spans))
    (hstr : proto.streamId = expected.streamId) (sid : SessionId) :
    Servable sid expected cache ∧
      (InOrder (fanoutFrame sid cache).viewportRows ↔ InOrder proto.viewportRows) := by
  simp only [validatedFull, ite_error_eq_ok, bind_eq_ok, mapError_eq_ok,
    ok.injEq, Prod.mk.injEq, not_or, not_not] at h
  obtain ⟨-, stats, hstats, ⟨hcols, hrows⟩, _, hdecode, hframe, -⟩ := h
  have hvalid := assertCellGridSnapshot_iff.mp ⟨stats, hstats⟩
  obtain ⟨henc, hplace, hindex⟩ := hvalid.reencoded hdecode sid.value
  obtain ⟨hsam, hsameCols, hsameRows, -⟩ := protoToCellFrame_scalars hdecode
  rw [hframe] at henc hplace hindex
  refine ⟨⟨henc.stamped cache.coordRecvMs cellGridCoordFanoutStampMax, hplace,
    ?_, ?_, ?_, ?_⟩, inOrder_congr hindex⟩
  · rw [← hframe]
    rfl
  · rw [← hframe]
    exact hsam.trans hstr
  · rw [← hframe]
    exact hsameCols.trans hcols
  · rw [← hframe]
    exact hsameRows.trans hrows

theorem le_fanoutStampMax (fanoutMs : UInt64) : fanoutMs ≤ cellGridCoordFanoutStampMax := by
  have hlt := fanoutMs.toNat_lt
  have hmax : cellGridCoordFanoutStampMax.toNat = 2 ^ 64 - 1 := by decide
  rw [UInt64.le_iff_toNat_le, hmax]
  omega

namespace Servable

variable {sizes : Sizes} {sid : SessionId} {expected : ExpectedStream}
  {cache : ResidentCache} (h : Servable sid expected cache)
include h

theorem decoded {wire : PbCellGridFrame} (hvalid : ValidSnapshot wire)
    (hsame : wire.scrollbackRows = [] ∧ wire.streamId = cache.frame.streamId ∧
      wire.cols = cache.frame.cols ∧ wire.rows = cache.frame.rows)
    (hplace : ∃ placements, placementsFromProto wire = .ok placements) :
    ∃ decoded, protoToCellFrame wire = .ok decoded ∧ ∀ target, Fenced target expected →
        (target.validFull decoded = true ↔ InOrder wire.viewportRows) := by
  obtain ⟨_, hplace⟩ := hplace
  obtain ⟨decoded, hdecode⟩ := hvalid.decodes hplace
  obtain ⟨hhistory, hstr, hcols, hrows⟩ := hsame
  refine ⟨decoded, hdecode, ?_⟩
  intro target hfenced
  refine validFull_decoded hdecode hvalid hhistory ?_ ?_ ?_
  · rw [hfenced.streamId, hstr, h.streamId]
  · rw [hfenced.cols, hcols, h.cols]
  · rw [hfenced.rows, hrows, h.rows]

theorem whole (hgrows : sizes.Grows)
    (hfits : sizes.frameLen (fanoutFrame sid cache) ≤ cellGridPartMaxBytes)
    (fanoutMs : UInt64) : ∃ decoded, decodeWireFrame sizes
        { fanoutFrame sid cache with coordFanoutMs := fanoutMs } false = .ok decoded ∧
      ∀ target, Fenced target expected → (target.validFull decoded = true ↔
          InOrder (fanoutFrame sid cache).viewportRows) := by
  obtain ⟨decoded, hdecode, hfull⟩ := h.decoded
    (h.valid.stamped (fanoutFrame sid cache).coordRecvMs fanoutMs)
    ⟨by simp [fanoutFrame, frameToProto, h.history], rfl, rfl, rfl⟩ h.placements
  refine ⟨decoded, ?_, hfull⟩
  have hle := le_fanoutStampMax fanoutMs
  have hroom : sizes.frameLen { fanoutFrame sid cache with coordFanoutMs := fanoutMs } ≤
      cellGridPartMaxBytes :=
    Nat.le_trans (hgrows.coordFanoutMs (fanoutFrame sid cache) hle) hfits
  simp [decodeWireFrame, Nat.not_lt.mpr hroom, hdecode, mapError]

theorem chunked (hadd : sizes.Additive) (hgrows : sizes.Grows) {snap : String}
    (hid : isTerminalUuid snap = true) {parts : List PlannedSnapshotPart}
    (hplan : planSnapshotParts sizes (fanoutFrame sid cache) = .ok parts)
    (fanoutMs : UInt64) {clocks : List Nat} (hlen : clocks.length = parts.length)
    (hgaps : clocks.IsChain fun a b => b - a < cellGridChunkStallMs) :
    ∃ decoded, (receiver sizes).answers .new
          (((plannedChunks (fanoutFrame sid cache) snap parts).map fun chunk =>
            CellGridSnapshotPart.chunk (chunk.stamped fanoutMs)).zip clocks) =
        List.replicate (parts.length - 1) none ++ [some (.ok decoded)] ∧
      ∀ target, Fenced target expected → target.validFull decoded = true := by
  have hle : fanoutMs ≤ (fanoutFrame sid cache).coordFanoutMs := le_fanoutStampMax fanoutMs
  have hcuts : Cuts sizes (fanoutFrame sid cache) snap
      (plannedChunks (fanoutFrame sid cache) snap parts) := by
    refine cuts_of_plan hadd h.valid hid hplan ?_
    intro chunk hmem
    obtain ⟨_, hi⟩ := List.mem_iff_getElem?.mp hmem
    rw [plannedChunks_getElem?, Option.map_eq_some_iff] at hi
    obtain ⟨_, hpart, rfl⟩ := hi
    exact plannedChunk_le hadd hgrows hid hplan hpart
  have hstamp := hcuts.stamped hadd hgrows hle
  have hvalid := h.valid.stamped (fanoutFrame sid cache).coordRecvMs fanoutMs
  obtain ⟨hrec, horder⟩ := hvalid.received
  obtain ⟨decoded, hdecode, hfull⟩ := h.decoded hrec
    ⟨by simp [receivedFrame, fanoutFrame, frameToProto, h.history], rfl, rfl, rfl⟩ h.placements
  refine ⟨decoded, ?_, fun target hfenced => (hfull target hfenced).mpr horder⟩
  have hcount : (plannedChunks (fanoutFrame sid cache) snap parts).length =
      parts.length := by simp [plannedChunks]
  have hclocks : clocks.length = ((plannedChunks (fanoutFrame sid cache) snap
      parts).map fun chunk => chunk.stamped fanoutMs).length := by
    rw [List.length_map, hcount, hlen]
  have hanswer := receiver_of_cuts hstamp hvalid hid hclocks hgaps
  rw [List.map_map, List.length_map, hcount] at hanswer
  have hass : decodeAssembledFrame
      (receivedFrame { fanoutFrame sid cache with coordFanoutMs := fanoutMs }) =
        .ok decoded := by
    simp [decodeAssembledFrame, hdecode, Except.mapError]
  rw [← hass]
  exact hanswer

theorem planCache_whole
    (hfits : sizes.frameLen (fanoutFrame sid cache) ≤ cellGridPartMaxBytes) :
    planCache sizes sid cache =
      .ok { sessionId := sid, generation := cache.generation
            plan := { frame := fanoutFrame sid cache, parts := none } } :=
  (planCache_eq_ok h.valid).mpr
    ⟨_, (createCellGridSnapshotSource_eq_ok h.valid).mpr (.inl ⟨hfits, rfl⟩), rfl⟩

/-- A full out of row order is refused. -/
theorem disordered_refused (hgrows : sizes.Grows)
    (hfits : sizes.frameLen (fanoutFrame sid cache) ≤ cellGridPartMaxBytes)
    (hdis : ¬InOrder (fanoutFrame sid cache).viewportRows) :
    ¬ClientAccepts sizes sid expected cache := by
  intro hacc
  obtain ⟨source, hsource, hdel⟩ := hacc.full
  cases hsource.symm.trans (h.planCache_whole hfits)
  obtain ⟨parts, hparts, hrec⟩ := hdel planningSnapshotId 0 (by decide +kernel)
  cases hparts.symm.trans (outbound_whole (fanoutFrame sid cache) planningSnapshotId 0)
  obtain ⟨decoded, hanswer, hfull⟩ := hrec [0] rfl (List.isChain_singleton 0)
  obtain ⟨decoded', hdecode, hiff⟩ := h.whole hgrows hfits 0
  have hsame : decoded' = decoded := by
    have hlast : some (decodeWireFrame sizes
        { fanoutFrame sid cache with coordFanoutMs := 0 } false) = some (.ok decoded) := by
      simpa [receiver, Transducer.answer] using hanswer
    rw [hdecode] at hlast
    exact ok.inj (Option.some.inj hlast)
  let target : FoldTarget :=
    { FoldTarget.empty with
      expectedStreamId := some expected.streamId
      effectiveCols := expected.cols
      effectiveRows := expected.rows }
  have hfenced : Fenced target expected := ⟨rfl, rfl, rfl⟩
  exact hdis ((hiff target hfenced).mp (hsame ▸ hfull target hfenced))

/-- Every copy of a served full is accepted. -/
theorem accepted (hadd : sizes.Additive) (hgrows : sizes.Grows)
    (hserved : (sizes.frameLen (fanoutFrame sid cache) ≤ cellGridPartMaxBytes ∧
        InOrder (fanoutFrame sid cache).viewportRows) ∨
      (cellGridPartMaxBytes < sizes.frameLen (fanoutFrame sid cache) ∧
        ∃ parts, planSnapshotParts sizes (fanoutFrame sid cache) = .ok parts)) :
    ClientAccepts sizes sid expected cache := by
  refine ⟨?_, fun delta folded fanoutMs hfolded =>
    foldedDelta_accepted hgrows fanoutMs hfolded h.streamId⟩
  rcases hserved with ⟨hfits, horder⟩ | ⟨hlarge, parts, hplan⟩
  · refine ⟨_, h.planCache_whole hfits, ?_⟩
    intro snap fanoutMs _
    refine ⟨_, outbound_whole (fanoutFrame sid cache) snap fanoutMs, ?_⟩
    intro clocks hlen _
    obtain ⟨decoded, hdecode, hiff⟩ := h.whole hgrows hfits fanoutMs
    obtain ⟨_, rfl⟩ := List.length_eq_one_iff.mp hlen
    refine ⟨decoded, ?_, fun target hfenced => (hiff target hfenced).mpr horder⟩
    simp [receiver, Transducer.answer, hdecode]
  refine ⟨_, (planCache_eq_ok h.valid).mpr
    ⟨_, (createCellGridSnapshotSource_eq_ok h.valid).mpr (.inr ⟨hlarge, parts, hplan, rfl⟩),
      rfl⟩, ?_⟩
  intro snap fanoutMs hid
  refine ⟨_, outbound_planned hadd hgrows hid hplan fanoutMs, ?_⟩
  intro clocks hlen hgaps
  have hcount : ((plannedChunks (fanoutFrame sid cache) snap parts).map fun chunk =>
      CellGridSnapshotPart.chunk (chunk.stamped fanoutMs)).length = parts.length := by
    simp [plannedChunks]
  rw [hcount] at hlen ⊢
  exact h.chunked hadd hgrows hid hplan fanoutMs hlen hgaps

end Servable

/-! ## When the client accepts -/

/-- The client takes what is served of a validated baseline exactly when the kept frame goes
out whole with its rows in the order of their indices on the worker's wire, or does not fit
one part and can be split. -/
theorem clientAccepts_iff (hadditive : sizes.Additive) (hgrows : sizes.Grows)
    {assembled : Bool} {spans : Nat}
    (hvalid : validatedFull sizes proto expected assembled = .ok (cache.frame, spans))
    (hstream : proto.streamId = expected.streamId) (sid : SessionId) :
    ClientAccepts sizes sid expected cache ↔
      (sizes.frameLen (fanoutFrame sid cache) ≤ cellGridPartMaxBytes ∧
          InOrder proto.viewportRows) ∨
        (cellGridPartMaxBytes < sizes.frameLen (fanoutFrame sid cache) ∧
          ∃ parts, planSnapshotParts sizes (fanoutFrame sid cache) = .ok parts) := by
  obtain ⟨hservable, horder⟩ := validatedFull_servable hvalid hstream sid
  rw [← horder]
  constructor
  · intro haccepts
    rcases Nat.lt_or_ge cellGridPartMaxBytes (sizes.frameLen (fanoutFrame sid cache)) with
      hlarge | hfits
    · obtain ⟨_, hsource, -⟩ := haccepts.full
      obtain ⟨_, hplan, -⟩ := (planCache_eq_ok hservable.valid).mp hsource
      rcases (createCellGridSnapshotSource_eq_ok hservable.valid).mp hplan with
        ⟨hfits, -⟩ | ⟨-, parts, hparts, -⟩
      · exact absurd hfits (Nat.not_le.mpr hlarge)
      · exact .inr ⟨hlarge, parts, hparts⟩
    · by_cases hinOrder : InOrder (fanoutFrame sid cache).viewportRows
      · exact .inl ⟨hfits, hinOrder⟩
      · exact absurd haccepts (hservable.disordered_refused hgrows hfits hinOrder)
  · exact hservable.accepted hadditive hgrows

def twoRowExpected : ExpectedStream where
  streamId := "00000000-0000-4000-8000-000000000001"
  cols := 1
  rows := 2

def twoRowCache (first second : UInt32) : ResidentCache :=
  .new 1 (twoRowHeld first second).normalizeCellGridFrame 0 2 0

def twoRowSession : SessionId := ⟨"00000000-0000-4000-8000-000000000009", by decide +kernel⟩

theorem clientAccepts_iff_twoRow :
    ClientAccepts wireSizes twoRowSession twoRowExpected (twoRowCache 0 1) ↔
      (wireSizes.frameLen (fanoutFrame twoRowSession (twoRowCache 0 1)) ≤ cellGridPartMaxBytes ∧
          InOrder (twoRowWire 0 1).viewportRows) ∨
        (cellGridPartMaxBytes < wireSizes.frameLen (fanoutFrame twoRowSession (twoRowCache 0 1)) ∧
          ∃ parts, planSnapshotParts wireSizes (fanoutFrame twoRowSession (twoRowCache 0 1)) =
            .ok parts) :=
  clientAccepts_iff wireSizes_additive wireSizes_grows
    (show validatedFull wireSizes (twoRowWire 0 1) twoRowExpected false =
      .ok ((twoRowCache 0 1).frame, 0) by decide +kernel) rfl twoRowSession

/-- A baseline whose two rows arrive swapped is validated and kept, and the client refuses
what is served of it. -/
theorem served_swapped_rows : validatedFull wireSizes (twoRowWire 1 0) twoRowExpected false =
        .ok ((twoRowCache 1 0).frame, 0) ∧
      (twoRowWire 1 0).streamId = twoRowExpected.streamId ∧
      ¬ClientAccepts wireSizes twoRowSession twoRowExpected (twoRowCache 1 0) := by
  have hvalid : validatedFull wireSizes (twoRowWire 1 0) twoRowExpected false =
      .ok ((twoRowCache 1 0).frame, 0) := by decide +kernel
  obtain ⟨hserves, horder⟩ := validatedFull_servable hvalid rfl twoRowSession
  refine ⟨hvalid, rfl, hserves.disordered_refused wireSizes_grows (by decide +kernel) ?_⟩
  rw [horder]
  intro h
  exact absurd (h 0 _ rfl) (by decide)

end Roost.Coord
