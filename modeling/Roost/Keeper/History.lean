-- SUMMARY: The ordered-history payload: encoder and decoder accept the same.
import Roost.Keeper.Codec

/-!
# Ordered history records

The head a retained window was cut from, the geometry its oldest record was
produced at, and the output and resize records in stream order. Encoder and
decoder check their bounds separately; both sets of checks are shown to be the
single condition `Encodable`.
-/

namespace Roost.Keeper

open Except (bind_eq_ok ite_error_eq_ok ok okOr okOr_eq_ok)
open List (flatMap_cons length_append mem_cons)

/-- The one format this payload has ever had. -/
def historyFormatVersion : UInt8 := 1

/-- `[version:u8][head_seq:u64][base_cols:u32][base_rows:u32][count:u32]`. -/
def historyHeaderBytes : Nat := 21

/-- `[tag:u8][len:u32]` before an output record's bytes. -/
def historyOutputHeaderBytes : Nat := 5

/-- `[tag:u8][seq:u64][cols:u32][rows:u32]`. -/
def historyResizeBytes : Nat := 17

def historyOutputTag : UInt8 := 1
def historyResizeTag : UInt8 := 2

/-- Every retained marker plus the output run on each side of it. -/
def maxHistoryRecords : Nat := keeperMaxHistoryResizeRecords * 2 + 1

def maxHistoryPayloadBytes : Nat := 2 * 1024 * 1024

/-- A head past this is not a head: counters travel as exact doubles. -/
def maxSafeInteger : Nat := 2 ^ 53 - 1

/-- One entry of a channel's ordered history. -/
inductive HistoryRecord where
  | output (bytes : List UInt8)
  | resize (seq : Nat) (cols rows : UInt16)

/-- A channel's ordered history. The counters are `u64` in the source; both sides
refuse them past `maxSafeInteger`, so their width never shows. -/
structure HistoryRecords where
  headSeq : Nat
  baseCols : UInt16
  baseRows : UInt16
  records : List HistoryRecord

private def invalid (reason : String) : CodecError := .badJson "history records" reason

private def truncated (offset : Nat) : CodecError := .truncatedPayload "history records" offset

namespace HistoryRecord

/-- The raw output a record carries. -/
def bytes : HistoryRecord → List UInt8
  | output bytes => bytes
  | resize .. => []

/-- One record as it stands in the payload. -/
def layout : HistoryRecord → List UInt8
  | output bytes => historyOutputTag :: (beBytes 4 bytes.length ++ bytes)
  | resize seq cols rows =>
    historyResizeTag :: (beBytes 8 seq ++ (beBytes 4 cols.toNat ++ beBytes 4 rows.toNat))

def charge (payloadBytes rawBytes : Nat) : HistoryRecord → Except CodecError (Nat × Nat)
  | output bytes =>
    if bytes.isEmpty then .error (invalid "an output record is empty")
    else .ok (payloadBytes + (historyOutputHeaderBytes + bytes.length), rawBytes + bytes.length)
  | resize seq cols rows =>
    if seq > maxSafeInteger then
      .error (invalid "a resize sequence is past the largest exact counter")
    else do
      let _ ← checkDimension cols.toNat
      let _ ← checkDimension rows.toNat
      .ok (payloadBytes + historyResizeBytes, rawBytes)

end HistoryRecord

namespace HistoryRecords

/-- Answer for a channel the keeper does not hold. -/
def unknownChannel : HistoryRecords where
  headSeq := 0
  baseCols := 80
  baseRows := 24
  records := []

/-- The retained output bytes, oldest first and contiguous. -/
def window (history : HistoryRecords) : List UInt8 :=
  history.records.flatMap HistoryRecord.bytes

/-- The encoder's pass over the records: the raw output they carry, or the first fault. -/
def measure : List HistoryRecord → Nat → Nat → Except CodecError Nat
  | [], _, rawBytes => .ok rawBytes
  | record :: records, payloadBytes, rawBytes => do
    let (payloadBytes, rawBytes) ← record.charge payloadBytes rawBytes
    if payloadBytes > maxHistoryPayloadBytes then .error (invalid "the payload exceeds its bound")
    else measure records payloadBytes rawBytes

/-- The whole payload. -/
def layout (history : HistoryRecords) : List UInt8 :=
  [historyFormatVersion] ++ beBytes 8 history.headSeq ++ beBytes 4 history.baseCols.toNat ++
    beBytes 4 history.baseRows.toNat ++ beBytes 4 history.records.length ++
    history.records.flatMap HistoryRecord.layout

/-- Encode; a history that breaks a bound is refused rather than truncated. -/
def encode (history : HistoryRecords) : Except CodecError (List UInt8) :=
  if history.headSeq > maxSafeInteger then
    .error (invalid "the head is past the largest exact counter")
  else do
    let _ ← checkDimension history.baseCols.toNat
    let _ ← checkDimension history.baseRows.toNat
    if history.records.length > maxHistoryRecords then
      .error (invalid "more records than the retention bound allows")
    else do
      let rawBytes ← measure history.records historyHeaderBytes 0
      if rawBytes > history.headSeq then
        .error (invalid "the retained output exceeds the head")
      else .ok history.layout

variable (payload : List UInt8)

def dimension (offset : Nat) : Except CodecError UInt16 := do
  let value ← okOr (readU32 payload offset) (truncated offset)
  let checked ← checkDimension value
  .ok (UInt16.ofNat checked)

/-- An output record at `offset`, whose tag has been read. -/
def decodeOutput (headSeq offset rawBytes : Nat) :
    Except CodecError (HistoryRecord × Nat × Nat) := do
  let length ← okOr (readU32 payload (offset + 1)) (truncated offset)
  let start := offset + historyOutputHeaderBytes
  let bytes ← okOr
    ((slice? payload start (start + length)).filter fun bytes => !bytes.isEmpty)
    (invalid "an output record is empty or runs past the payload")
  if rawBytes + length > headSeq then .error (invalid "the retained output exceeds the head")
  else .ok (.output bytes, start + length, rawBytes + length)

/-- A resize record at `offset`, whose tag has been read. -/
def decodeResize (offset rawBytes : Nat) :
    Except CodecError (HistoryRecord × Nat × Nat) :=
  if offset + historyResizeBytes > payload.length then .error (truncated offset)
  else do
    let seq ← okOr (readSequence payload (offset + 1)) (truncated offset)
    if seq > maxSafeInteger then
      .error (invalid "a resize sequence is past the largest exact counter")
    else do
      let cols ← dimension payload (offset + 9)
      let rows ← dimension payload (offset + 13)
      .ok (.resize seq cols rows, offset + historyResizeBytes, rawBytes)

/-- One record at `offset`, with the offset behind it and the output read so far. -/
def decodeRecord (headSeq offset rawBytes : Nat) :
    Except CodecError (HistoryRecord × Nat × Nat) := do
  let tag ← okOr payload[offset]? (truncated offset)
  if tag = historyOutputTag then decodeOutput payload headSeq offset rawBytes
  else if tag = historyResizeTag then decodeResize payload offset rawBytes
  else .error (invalid ("unknown record tag " ++ toString tag))

/-- The decoding loop: `count` records from `offset` on, and where it stopped. -/
def decodeRecords (payload : List UInt8) (headSeq : Nat) :
    Nat → Nat → Nat → Except CodecError (List HistoryRecord × Nat)
  | 0, offset, _ => .ok ([], offset)
  | count + 1, offset, rawBytes => do
    let (record, offset, rawBytes) ← decodeRecord payload headSeq offset rawBytes
    let (records, offset) ← decodeRecords payload headSeq count offset rawBytes
    .ok (record :: records, offset)

/-- Decode, refusing every payload the encoder could not have written. -/
def decode : Except CodecError HistoryRecords :=
  if payload.length < historyHeaderBytes then .error (truncated payload.length)
  else if payload.length > maxHistoryPayloadBytes then
    .error (invalid "the payload exceeds its bound")
  else if payload[0]? ≠ some historyFormatVersion then
    .error (invalid "an unknown history format version")
  else do
    let headSeq ← okOr (readSequence payload 1) (truncated 1)
    if headSeq > maxSafeInteger then
      .error (invalid "the head is past the largest exact counter")
    else do
      let baseCols ← dimension payload 9
      let baseRows ← dimension payload 13
      let count ← okOr (readU32 payload 17) (truncated 17)
      if count > maxHistoryRecords then
        .error (invalid "more records than the retention bound allows")
      else do
        let (records, offset) ← decodeRecords payload headSeq count historyHeaderBytes 0
        if offset ≠ payload.length then .error (invalid "bytes trail the last record")
        else .ok { headSeq, baseCols, baseRows, records }

end HistoryRecords

/-! ## One record -/

namespace HistoryRecord

def outputLen (record : HistoryRecord) : Nat := record.bytes.length

@[simp] theorem outputLen_output (bytes : List UInt8) : (output bytes).outputLen = bytes.length := rfl

@[simp] theorem outputLen_resize (seq : Nat) (cols rows : UInt16) :
    (resize seq cols rows).outputLen = 0 := rfl

/-- What both sides ask of one record, apart from the bounds over the whole payload. -/
def Wf : HistoryRecord → Prop
  | output bytes => bytes ≠ []
  | resize seq cols rows => seq ≤ maxSafeInteger ∧ cols ≠ 0 ∧ rows ≠ 0

theorem outputLen_lt_layout (record : HistoryRecord) : record.outputLen < record.layout.length := by
  cases record with
  | output bytes =>
    simp only [outputLen_output, layout, List.length_cons, length_append]
    omega
  | resize => simp [layout]

end HistoryRecord

theorem checkDimension_toNat_eq_ok {side : UInt16} {dimension : Nat} :
    checkDimension side.toNat = .ok dimension ↔ side ≠ 0 ∧ side.toNat = dimension := by
  have hlt := side.toNat_lt
  have hmax : side.toNat ≤ keeperMaxTerminalDimension := by
    simp only [keeperMaxTerminalDimension]
    omega
  have hzero : side.toNat = 0 ↔ side = 0 := by rw [← UInt16.toNat_inj]; simp
  simp [checkDimension_eq_ok, hzero, hmax]

theorem HistoryRecord.charge_eq_ok {record : HistoryRecord} {payloadBytes rawBytes : Nat}
    {out : Nat × Nat} : record.charge payloadBytes rawBytes = .ok out ↔
      record.Wf ∧ out = (payloadBytes + record.layout.length, rawBytes + record.outputLen) := by
  cases record with
  | output bytes =>
    have hlen : (layout (.output bytes)).length = historyOutputHeaderBytes + bytes.length := by
      simp [layout, historyOutputHeaderBytes]
      omega
    simp [charge, Wf, hlen, eq_comm (a := out)]
  | resize =>
    simp [charge, Wf, layout, historyResizeBytes, checkDimension_toNat_eq_ok, and_assoc,
      eq_comm (a := out)]

theorem readU32_eq_some {body : List UInt8} {offset value : Nat} :
    readU32 body offset = some value ↔ value < 256 ^ 4 ∧ beBytes 4 value <+: body.drop offset :=
  readBe?_eq_some (by decide)

theorem readSequence_eq_some {body : List UInt8} {offset value : Nat} :
    readSequence body offset = some value ↔
      value < 256 ^ 8 ∧ beBytes 8 value <+: body.drop offset :=
  readBe?_eq_some (by decide)

namespace HistoryRecords

variable {body : List UInt8} {offset : Nat}

theorem dimension_eq_ok {side : UInt16} :
    dimension body offset = .ok side ↔ side ≠ 0 ∧ beBytes 4 side.toNat <+: body.drop offset := by
  have hside := side.toNat_lt
  have hzero : side.toNat = 0 ↔ side = 0 := by rw [← UInt16.toNat_inj]; simp
  simp only [dimension, bind_eq_ok, okOr_eq_ok, readU32_eq_some, checkDimension_eq_ok,
    keeperMaxTerminalDimension, ok.injEq]
  constructor
  · rintro ⟨value, ⟨-, hpre⟩, _, ⟨hne, hle, rfl⟩, rfl⟩
    have hval : (UInt16.ofNat value).toNat = value :=
      UInt16.toNat_ofNat_of_lt' (by rw [UInt16.size]; omega)
    exact ⟨fun h0 => hne (by simpa [hval] using congrArg UInt16.toNat h0), by rwa [hval]⟩
  · rintro ⟨hne, hpre⟩
    exact ⟨side.toNat, ⟨by omega, hpre⟩, side.toNat, ⟨mt hzero.mp hne, by omega, rfl⟩,
      UInt16.ofNat_toNat⟩

private theorem layout_prefix_output {bytes : List UInt8} :
    (HistoryRecord.output bytes).layout <+: body.drop offset ↔
      body[offset]? = some historyOutputTag ∧ beBytes 4 bytes.length <+: body.drop (offset + 1) ∧
        bytes <+: body.drop (offset + historyOutputHeaderBytes) := by
  rw [HistoryRecord.layout, ← List.singleton_append, append_prefix_drop, append_prefix_drop,
    getElem?_eq_some_iff_prefix]
  simp [historyOutputHeaderBytes, Nat.add_assoc]

private theorem layout_prefix_resize {seq : Nat} {cols rows : UInt16} :
    (HistoryRecord.resize seq cols rows).layout <+: body.drop offset ↔
      body[offset]? = some historyResizeTag ∧ beBytes 8 seq <+: body.drop (offset + 1) ∧
        beBytes 4 cols.toNat <+: body.drop (offset + 9) ∧
        beBytes 4 rows.toNat <+: body.drop (offset + 13) := by
  rw [HistoryRecord.layout, ← List.singleton_append, append_prefix_drop, append_prefix_drop,
    append_prefix_drop, getElem?_eq_some_iff_prefix]
  simp [Nat.add_assoc]

section DecodeRecord

variable {payload : List UInt8} {headSeq offset rawBytes : Nat} {record : HistoryRecord}
  {offset' rawBytes' : Nat}

theorem decodeOutput_eq_ok (htag : payload[offset]? = some historyOutputTag) :
    decodeOutput payload headSeq offset rawBytes = .ok (record, offset', rawBytes') ↔
      ∃ bytes, record = .output bytes ∧ bytes ≠ [] ∧ bytes.length < 256 ^ 4 ∧
        record.layout <+: payload.drop offset ∧ rawBytes + bytes.length ≤ headSeq ∧
        offset' = offset + record.layout.length ∧ rawBytes' = rawBytes + bytes.length := by
  have hend : ∀ bytes : List UInt8, offset + historyOutputHeaderBytes + bytes.length =
      offset + (HistoryRecord.output bytes).layout.length := by
    intro bytes
    simp [HistoryRecord.layout, historyOutputHeaderBytes]
    omega
  simp only [decodeOutput, bind_eq_ok, okOr_eq_ok, readU32_eq_some,
    Option.filter_eq_some_iff, slice?_width, ite_error_eq_ok, ok.injEq,
    Prod.mk.injEq]
  constructor
  · rintro ⟨length, ⟨hlt, hlen⟩, bytes, ⟨⟨hlength, _, hbytes⟩, hne⟩, hhead, hrec, hoffset, hraw⟩
    subst hlength hrec hoffset hraw
    exact ⟨bytes, rfl, by simpa using hne, hlt, layout_prefix_output.mpr ⟨htag, hlen, hbytes⟩,
      Nat.le_of_not_lt hhead, hend bytes, rfl⟩
  rintro ⟨bytes, hrec, hne, hlt, hpre, hhead, hoffset, hraw⟩
  subst hrec hoffset hraw
  obtain ⟨-, hlen, hbytes⟩ := layout_prefix_output.mp hpre
  have hfits := hpre.length_le
  rw [List.length_drop] at hfits
  have hpos : 0 < bytes.length := List.length_pos_iff.mpr hne
  have hlayout := hend bytes
  exact ⟨bytes.length, ⟨hlt, hlen⟩, bytes, ⟨⟨rfl, by omega, hbytes⟩, by simpa using hne⟩,
    Nat.not_lt.mpr hhead, rfl, hlayout, rfl⟩

theorem decodeResize_eq_ok (htag : payload[offset]? = some historyResizeTag) :
    decodeResize payload offset rawBytes = .ok (record, offset', rawBytes') ↔
      ∃ seq cols rows, record = .resize seq cols rows ∧
        (seq ≤ maxSafeInteger ∧ cols ≠ 0 ∧ rows ≠ 0) ∧ record.layout <+: payload.drop offset ∧
        offset' = offset + record.layout.length ∧ rawBytes' = rawBytes := by
  have hend : ∀ (seq : Nat) (cols rows : UInt16), offset + historyResizeBytes =
      offset + (HistoryRecord.resize seq cols rows).layout.length := by
    intro seq cols rows
    simp [HistoryRecord.layout, historyResizeBytes]
  simp only [decodeResize, bind_eq_ok, okOr_eq_ok, readSequence_eq_some,
    dimension_eq_ok, ite_error_eq_ok, ok.injEq, Prod.mk.injEq]
  constructor
  · rintro ⟨_, seq, ⟨_, hseq⟩, hmax, cols, ⟨hcols, hcolsPre⟩, rows, ⟨hrows, hrowsPre⟩, hrec,
      hoffset, hraw⟩
    subst hrec hoffset hraw
    exact ⟨seq, cols, rows, rfl, ⟨Nat.le_of_not_lt hmax, hcols, hrows⟩,
      layout_prefix_resize.mpr ⟨htag, hseq, hcolsPre, hrowsPre⟩, hend seq cols rows, rfl⟩
  rintro ⟨seq, cols, rows, hrec, ⟨hmax, hcols, hrows⟩, hpre, hoffset, hraw⟩
  subst hrec hoffset hraw
  obtain ⟨-, hseq, hcolsPre, hrowsPre⟩ := layout_prefix_resize.mp hpre
  have hfits := hpre.length_le
  rw [List.length_drop, HistoryRecord.layout] at hfits
  simp only [List.length_cons, length_append, beBytes_length] at hfits
  have hbound : seq < 256 ^ 8 := by
    rw [maxSafeInteger] at hmax
    omega
  refine ⟨?_, seq, ⟨hbound, hseq⟩, Nat.not_lt.mpr hmax, cols, ⟨hcols, hcolsPre⟩, rows,
    ⟨hrows, hrowsPre⟩, rfl, hend seq cols rows, rfl⟩
  rw [historyResizeBytes]
  omega

theorem decodeRecord_eq_ok :
    decodeRecord payload headSeq offset rawBytes = .ok (record, offset', rawBytes') ↔
      record.Wf ∧ record.outputLen < 256 ^ 4 ∧ record.layout <+: payload.drop offset ∧
        (0 < record.outputLen → rawBytes + record.outputLen ≤ headSeq) ∧
        offset' = offset + record.layout.length ∧ rawBytes' = rawBytes + record.outputLen := by
  have htags : historyResizeTag ≠ historyOutputTag := by decide
  constructor
  · intro h
    simp only [decodeRecord, bind_eq_ok, okOr_eq_ok] at h
    obtain ⟨_, htag, h⟩ := h
    split at h
    · rename_i hout
      subst hout
      obtain ⟨_, rfl, hne, hlt, hpre, hhead, hoffset, hraw⟩ := (decodeOutput_eq_ok htag).mp h
      exact ⟨hne, hlt, hpre, fun _ => hhead, hoffset, hraw⟩
    split at h
    · rename_i hres
      subst hres
      obtain ⟨_, _, _, rfl, hwf, hpre, hoffset, hraw⟩ := (decodeResize_eq_ok htag).mp h
      exact ⟨hwf, by simp, hpre, by simp, hoffset, by simpa using hraw⟩
    · cases h
  · rintro ⟨hwf, hsmall, hpre, hhead, hoffset, hraw⟩
    simp only [decodeRecord, bind_eq_ok, okOr_eq_ok]
    cases record with
    | output bytes =>
      obtain ⟨htag, -, -⟩ := layout_prefix_output.mp hpre
      refine ⟨historyOutputTag, htag, ?_⟩
      rw [if_pos rfl, decodeOutput_eq_ok htag]
      exact ⟨bytes, rfl, hwf, hsmall, hpre, hhead (List.length_pos_iff.mpr hwf), hoffset, hraw⟩
    | resize seq cols rows =>
      obtain ⟨htag, -, -, -⟩ := layout_prefix_resize.mp hpre
      refine ⟨historyResizeTag, htag, ?_⟩
      rw [if_neg htags, if_pos rfl, decodeResize_eq_ok htag]
      exact ⟨seq, cols, rows, rfl, hwf, hpre, hoffset, by simpa using hraw⟩

end DecodeRecord

/-! ## The whole payload -/

def outputLen (records : List HistoryRecord) : Nat := (records.map HistoryRecord.outputLen).sum

@[simp] theorem outputLen_nil : outputLen [] = 0 := rfl

@[simp] theorem outputLen_cons (record : HistoryRecord) (records : List HistoryRecord) :
    outputLen (record :: records) = record.outputLen + outputLen records := by
  simp [outputLen]

variable {records : List HistoryRecord}

theorem outputLen_le_of_mem {record : HistoryRecord}
    (h : record ∈ records) : record.outputLen ≤ outputLen records := by
  induction h with
  | head => simp
  | tail other _ ih =>
    rw [outputLen_cons]
    omega

theorem outputLen_le_layout (records : List HistoryRecord) :
    outputLen records ≤ (records.flatMap HistoryRecord.layout).length := by
  induction records with
  | nil => simp
  | cons record records ih =>
    have := record.outputLen_lt_layout
    simp only [outputLen_cons, flatMap_cons, length_append]
    omega

/-- The bounds a history keeps to travel: the condition of encoder and decoder alike. -/
structure Encodable (history : HistoryRecords) : Prop where
  head : history.headSeq ≤ maxSafeInteger
  baseCols : history.baseCols ≠ 0
  baseRows : history.baseRows ≠ 0
  count : history.records.length ≤ maxHistoryRecords
  records : ∀ record ∈ history.records, record.Wf
  payload : history.layout.length ≤ maxHistoryPayloadBytes
  output : outputLen history.records ≤ history.headSeq

theorem layout_length (hist : HistoryRecords) : hist.layout.length =
      historyHeaderBytes + (hist.records.flatMap HistoryRecord.layout).length := by
  simp only [layout, historyHeaderBytes, length_append, List.length_singleton, beBytes_length]

theorem measure_eq_ok {payloadBytes rawBytes out : Nat}
    (hpayload : payloadBytes ≤ maxHistoryPayloadBytes) :
    measure records payloadBytes rawBytes = .ok out ↔ (∀ record ∈ records, record.Wf) ∧
        payloadBytes + (records.flatMap HistoryRecord.layout).length ≤ maxHistoryPayloadBytes ∧
        out = rawBytes + outputLen records := by
  induction records generalizing payloadBytes rawBytes with
  | nil => simp [measure, hpayload, eq_comm]
  | cons record records ih =>
    simp only [measure, bind_eq_ok, HistoryRecord.charge_eq_ok, mem_cons,
      forall_eq_or_imp, flatMap_cons, length_append, outputLen_cons]
    constructor
    · rintro ⟨_, ⟨hwf, rfl⟩, h⟩
      rw [ite_error_eq_ok] at h
      obtain ⟨hrecs, hbound, rfl⟩ := (ih (by omega)).mp h.2
      exact ⟨⟨hwf, hrecs⟩, by omega, by omega⟩
    rintro ⟨⟨hwf, hrecs⟩, hbound, rfl⟩
    refine ⟨_, ⟨hwf, rfl⟩, ?_⟩
    rw [ite_error_eq_ok]
    exact ⟨by omega, (ih (by omega)).mpr ⟨hrecs, by omega, by omega⟩⟩

variable {history : HistoryRecords}

theorem encode_eq_ok {payload : List UInt8} :
    history.encode = .ok payload ↔ history.Encodable ∧ history.layout = payload := by
  have hheader : historyHeaderBytes ≤ maxHistoryPayloadBytes := by decide
  simp only [encode, ite_error_eq_ok, bind_eq_ok, checkDimension_toNat_eq_ok,
    measure_eq_ok hheader, ok.injEq, ← layout_length]
  constructor
  · rintro ⟨hhead, _, ⟨hcols, -⟩, _, ⟨hrows, -⟩, hcount, _, ⟨hwf, hpayload, rfl⟩, hout, rfl⟩
    exact ⟨⟨by omega, hcols, hrows, by omega, hwf, hpayload, by omega⟩, rfl⟩
  · rintro ⟨⟨hhead, hcols, hrows, hcount, hwf, hpayload, hout⟩, rfl⟩
    exact ⟨by omega, _, ⟨hcols, rfl⟩, _, ⟨hrows, rfl⟩, by omega, _, ⟨hwf, hpayload, rfl⟩, by omega,
      rfl⟩

theorem decodeRecords_eq_ok {headSeq count rawBytes : Nat}
    {offset' : Nat} :
    decodeRecords body headSeq count offset rawBytes = .ok (records, offset') ↔
      records.length = count ∧ (∀ record ∈ records, record.Wf ∧ record.outputLen < 256 ^ 4) ∧
        records.flatMap HistoryRecord.layout <+: body.drop offset ∧
        (0 < outputLen records → rawBytes + outputLen records ≤ headSeq) ∧
        offset' = offset + (records.flatMap HistoryRecord.layout).length := by
  induction count generalizing offset rawBytes records offset' with
  | zero =>
    simp only [decodeRecords, ok.injEq, Prod.mk.injEq, List.length_eq_zero_iff]
    constructor
    · rintro ⟨rfl, rfl⟩
      simp
    · rintro ⟨rfl, -, -, -, rfl⟩
      simp
  | succ count ih =>
    simp only [decodeRecords, bind_eq_ok, Prod.exists, decodeRecord_eq_ok, ih,
      ok.injEq, Prod.mk.injEq]
    constructor
    · rintro ⟨record, _, _, ⟨hwf, hlt, hpre, hhead, rfl, rfl⟩, rest, _,
        ⟨hlen, hrest, hpreRest, hheadRest, rfl⟩, rfl, rfl⟩
      refine ⟨by simp [hlen], List.forall_mem_cons.mpr ⟨⟨hwf, hlt⟩, hrest⟩, ?_, ?_, ?_⟩
      · rw [flatMap_cons, append_prefix_drop]
        exact ⟨hpre, hpreRest⟩
      · rw [outputLen_cons]
        omega
      · rw [flatMap_cons, length_append, Nat.add_assoc]
    rintro ⟨hlen, hall, hpre, hhead, rfl⟩
    cases records with
    | nil => cases hlen
    | cons record rest =>
      simp only [mem_cons, forall_eq_or_imp] at hall
      rw [flatMap_cons, append_prefix_drop] at hpre
      rw [outputLen_cons] at hhead
      refine ⟨record, _, _, ⟨hall.1.1, hall.1.2, hpre.1, by omega, rfl, rfl⟩, rest, _,
        ⟨by simpa using hlen, hall.2, hpre.2, by omega, rfl⟩, rfl, ?_⟩
      rw [flatMap_cons, length_append, Nat.add_assoc]

/-- What is decoded is encodable, byte for byte. -/
theorem decode_eq_ok {payload : List UInt8} :
    decode payload = .ok history ↔ history.Encodable ∧ history.layout = payload := by
  simp only [decode, ite_error_eq_ok, bind_eq_ok, okOr_eq_ok,
    readSequence_eq_some, dimension_eq_ok, readU32_eq_some, Prod.exists, decodeRecords_eq_ok,
    ok.injEq, not_not, getElem?_eq_some_iff_prefix]
  constructor
  · rintro ⟨hshort, hlong, hversion, head, ⟨-, hhead⟩, hheadMax, cols, ⟨hcols, hcolsPre⟩, rows,
      ⟨hrows, hrowsPre⟩, count, ⟨-, hcount⟩, hcountMax, records, _,
      ⟨rfl, hall, hrecs, hout, rfl⟩, hend, rfl⟩
    have hlayout : (HistoryRecords.mk head cols rows records).layout <+: payload.drop 0 := by
      simp only [layout, append_prefix_drop, length_append, beBytes_length, List.length_singleton]
      exact ⟨⟨⟨⟨⟨hversion, hhead⟩, hcolsPre⟩, hrowsPre⟩, hcount⟩, hrecs⟩
    have heq := List.IsPrefix.eq_of_length hlayout (by rw [layout_length, List.drop_zero]; exact hend)
    refine ⟨⟨Nat.not_lt.mp hheadMax, hcols, hrows, Nat.not_lt.mp hcountMax,
      fun r hr => (hall r hr).1, ?_, ?_⟩, heq⟩
    · rw [heq]
      exact Nat.not_lt.mp hlong
    · simp only
      omega
  rintro ⟨⟨hhead, hcols, hrows, hcount, hwf, hpayload, hout⟩, rfl⟩
  have hlayout : history.layout <+: history.layout.drop 0 := by simp
  have houtLt := outputLen_le_layout history.records
  have hlen := history.layout_length
  conv at hlayout => lhs; rw [layout]
  simp only [append_prefix_drop, length_append, beBytes_length, List.length_singleton] at hlayout
  obtain ⟨⟨⟨⟨⟨hversion, hheadPre⟩, hcolsPre⟩, hrowsPre⟩, hcountPre⟩, hrecs⟩ := hlayout
  rw [maxSafeInteger] at hhead
  rw [maxHistoryPayloadBytes] at hpayload
  rw [historyHeaderBytes] at hlen
  refine ⟨by rw [historyHeaderBytes]; omega, by rw [maxHistoryPayloadBytes]; omega, hversion,
    history.headSeq, ⟨by omega, hheadPre⟩, by rw [maxSafeInteger]; omega, history.baseCols,
    ⟨hcols, hcolsPre⟩, history.baseRows, ⟨hrows, hrowsPre⟩, history.records.length,
    ⟨by rw [maxHistoryRecords, keeperMaxHistoryResizeRecords] at hcount; omega, hcountPre⟩,
    by omega, history.records, _, ⟨rfl, ?_, hrecs, by omega, rfl⟩, ?_, rfl⟩
  · intro record hmem
    refine ⟨hwf record hmem, ?_⟩
    have := outputLen_le_of_mem hmem
    omega
  · rw [hlen, historyHeaderBytes]

/-- Encoder and decoder are inverse to one another: a payload is what the encoder
writes for a history exactly when it is what the decoder reads as that history. -/
theorem encode_eq_ok_iff_decode (history : HistoryRecords) (payload : List UInt8) :
    history.encode = .ok payload ↔ decode payload = .ok history := by
  rw [encode_eq_ok, decode_eq_ok]

end HistoryRecords

end Roost.Keeper
