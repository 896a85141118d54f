-- SUMMARY: The scan for synchronized output (DEC mode 2026).
import Mathlib.Algebra.Ring.Nat
import Roost.Base.StreamDecoder

/-!
# The synchronized-output scan

The terminal core has no notion of mode 2026, so the worker reads `CSI ? Pm h` and `CSI ? Pm l`
from the byte stream itself. A sequence cut at the end of a chunk is carried to the next one, but
only if it is short: a longer one is dropped, so it is read when it arrives whole and missed when
it is cut. The scan is a stream decoder whose unfinished rest the carry bounds.
-/

namespace Roost.Worker

open StreamDecoder

/-- The longest private-mode parameter list carried across a chunk boundary. -/
def syncScanCarryMax : Nat := 32

def escape : UInt8 := 0x1b

inductive PrivateMode where
  | incomplete
  | other
  | set (namesSync : Bool) (len : Nat)
  | reset (namesSync : Bool) (len : Nat)
  deriving DecidableEq

def u32Saturating (value : Nat) : Nat := min value (2 ^ 32 - 1)

/-- The parameters, from the byte at `index` on. -/
def parseParams (index : Nat) (namesSync : Bool) (param : Nat) : List UInt8 → PrivateMode
  | [] => .incomplete
  | byte :: rest =>
    if 0x30 ≤ byte ∧ byte ≤ 0x39 then
      parseParams (index + 1) namesSync
        (u32Saturating (u32Saturating (param * 10) + (byte - 0x30).toNat)) rest
    else if byte = 0x3b then
      parseParams (index + 1) (namesSync || param == 2026) 0 rest
    else if byte = 0x68 then .set (namesSync || param == 2026) (index + 1)
    else if byte = 0x6c then .reset (namesSync || param == 2026) (index + 1)
    else .other

/-- What is left of the prefix, then the parameters. -/
def parsePrefixed (index : Nat) : List UInt8 → List UInt8 → PrivateMode
  | [], bytes => parseParams index false 0 bytes
  | _ :: _, [] => .incomplete
  | expected :: later, byte :: bytes =>
    if byte ≠ expected then .other else parsePrefixed (index + 1) later bytes

/-- Parse `ESC [ ? <digits ;>* (h|l)` at the head of `bytes`. -/
def parsePrivateMode (bytes : List UInt8) : PrivateMode :=
  parsePrefixed 0 [escape, 0x5b, 0x3f] bytes

/-- Mode 2026 of one channel's byte stream, and how often it was opened. -/
structure SyncOutputScan where
  isOpen : Bool
  generation : UInt64
  carry : List UInt8

namespace SyncOutputScan

def new : SyncOutputScan := ⟨false, 0, []⟩

/-- Take one parsed sequence. -/
def apply (scan : SyncOutputScan) : PrivateMode → SyncOutputScan
  | .set namesSync _ =>
    if namesSync && !scan.isOpen then
      { scan with isOpen := true, generation := scan.generation + 1 }
    else scan
  | .reset namesSync _ => if namesSync then { scan with isOpen := false } else scan
  | _ => scan

/-- The loop over the input, which `skip` bytes of the last sequence are still to pass. -/
def observeFrom : SyncOutputScan → Nat → List UInt8 → SyncOutputScan
  | scan, _, [] => scan
  | scan, skip + 1, _ :: rest => observeFrom scan skip rest
  | scan, 0, byte :: rest =>
    if byte = escape then
      match parsePrivateMode (byte :: rest) with
      | .incomplete =>
        if (byte :: rest).length ≤ syncScanCarryMax then { scan with carry := byte :: rest }
        else scan
      | .other => observeFrom scan 0 rest
      | .set namesSync len => observeFrom (scan.apply (.set namesSync len)) (len - 1) rest
      | .reset namesSync len => observeFrom (scan.apply (.reset namesSync len)) (len - 1) rest
    else observeFrom scan 0 rest

/-- Advance over one chunk. -/
def observe (scan : SyncOutputScan) (chunk : List UInt8) : SyncOutputScan :=
  observeFrom { scan with carry := [] } 0 (scan.carry ++ chunk)

end SyncOutputScan

/-! ## What is parsed stays parsed -/

/-- How far the cursor moves past what was parsed. -/
def PrivateMode.used : PrivateMode → Nat
  | .incomplete => 0
  | .other => 1
  | .set _ len | .reset _ len => len

/-- A verdict on `bytes`, the first of which stands at `index`, that more bytes do not change. -/
def Settled (parse : List UInt8 → PrivateMode) (index : Nat) (bytes : List UInt8) : Prop :=
  (∀ more, parse (bytes ++ more) = parse bytes) ∧
    0 < (parse bytes).used ∧ (parse bytes).used ≤ index + bytes.length

variable {bytes : List UInt8} {index : Nat} {byte : UInt8}

theorem Settled.cons {parse later : List UInt8 → PrivateMode}
    (h : Settled later (index + 1) bytes)
    (hparse : ∀ bytes, parse (byte :: bytes) = later bytes) : Settled parse index (byte :: bytes) := by
  obtain ⟨hmore, hpos, hle⟩ := h
  refine ⟨fun more => ?_, ?_, ?_⟩
  · rw [List.cons_append, hparse, hparse, hmore]
  · rw [hparse]
    exact hpos
  · rw [hparse, List.length_cons]
    omega

theorem Settled.head {parse : List UInt8 → PrivateMode}
    (mode : PrivateMode) (hused : 0 < mode.used ∧ mode.used ≤ index + 1)
    (hparse : ∀ bytes, parse (byte :: bytes) = mode) : Settled parse index (byte :: bytes) := by
  refine ⟨fun more => ?_, ?_, ?_⟩
  · rw [List.cons_append, hparse, hparse]
  · rw [hparse]
    exact hused.1
  · rw [hparse, List.length_cons]
    omega

theorem parseParams_settled {param : Nat} {namesSync : Bool}
    (h : parseParams index namesSync param bytes ≠ .incomplete) :
    Settled (parseParams index namesSync param) index bytes := by
  induction bytes generalizing index param namesSync with
  | nil => exact absurd rfl h
  | cons byte bytes ih =>
    rw [parseParams] at h
    split_ifs at h with hdigit hnext hset hreset
    · exact (ih h).cons fun bytes => by rw [parseParams, if_pos hdigit]
    · exact (ih h).cons fun bytes => by rw [parseParams, if_neg hdigit, if_pos hnext]
    · exact .head (.set _ (index + 1)) ⟨index.succ_pos, Nat.le_refl _⟩ fun bytes => by
        rw [parseParams, if_neg hdigit, if_neg hnext, if_pos hset]
    · exact .head (.reset _ (index + 1)) ⟨index.succ_pos, Nat.le_refl _⟩ fun bytes => by
        rw [parseParams, if_neg hdigit, if_neg hnext, if_neg hset, if_pos hreset]
    · exact .head .other ⟨Nat.one_pos, Nat.le_add_left _ _⟩ fun bytes => by
        rw [parseParams, if_neg hdigit, if_neg hnext, if_neg hset, if_neg hreset]

theorem parsePrefixed_settled {expected : List UInt8}
    (h : parsePrefixed index expected bytes ≠ .incomplete) :
    Settled (parsePrefixed index expected) index bytes := by
  induction expected generalizing index bytes with
  | nil => exact parseParams_settled h
  | cons wanted later ih =>
    cases bytes with
    | nil => exact absurd rfl h
    | cons byte bytes =>
      rw [parsePrefixed] at h
      split at h
      · rename_i hother
        exact .head .other ⟨Nat.one_pos, Nat.le_add_left _ _⟩ fun bytes => by
          rw [parsePrefixed, if_pos hother]
      · rename_i hsame
        exact (ih h).cons fun bytes => by rw [parsePrefixed, if_neg hsame]

/-! ## The scan as a stream decoder -/

/-- What stands at the head of the input; a byte that begins no sequence is passed over. -/
def headMode : List UInt8 → PrivateMode
  | [] => .incomplete
  | byte :: rest => if byte = escape then parsePrivateMode (byte :: rest) else .other

theorem headMode_settled (h : headMode bytes ≠ .incomplete) :
    Settled headMode 0 bytes := by
  cases bytes with
  | nil => exact absurd rfl h
  | cons byte rest =>
    rw [headMode] at h
    split at h
    · rename_i hescape
      obtain ⟨hmore, hused⟩ := parsePrefixed_settled h
      have hhead : ∀ rest, headMode (byte :: rest) = parsePrivateMode (byte :: rest) := fun rest => by
        rw [headMode, if_pos hescape]
      refine ⟨fun more => ?_, ?_⟩
      · rw [List.cons_append, hhead, hhead]
        exact hmore more
      · rw [hhead]
        exact hused
    · rename_i hplain
      exact .head .other ⟨Nat.one_pos, Nat.le_refl _⟩ fun rest => by
        rw [headMode, if_neg hplain]

def scanHead (bytes : List UInt8) : Scan Empty PrivateMode :=
  if headMode bytes = .incomplete then .wait else .item (headMode bytes) (headMode bytes).used

theorem scanHead_item {mode : PrivateMode} {used : Nat}
    (h : scanHead bytes = .item mode used) :
    headMode bytes = mode ∧ mode.used = used ∧ Settled headMode 0 bytes := by
  unfold scanHead at h
  split at h
  · cases h
  · rename_i hcomplete
    cases h
    exact ⟨rfl, rfl, headMode_settled hcomplete⟩

def syncDecoder : StreamDecoder UInt8 Empty PrivateMode where
  scan := scanHead
  used_pos h := by
    obtain ⟨rfl, rfl, -, hpos, -⟩ := scanHead_item h
    exact hpos
  used_le h := by
    obtain ⟨rfl, rfl, -, -, hle⟩ := scanHead_item h
    simpa using hle
  item_append more h := by
    obtain ⟨rfl, rfl, hmore, -, -⟩ := scanHead_item h
    unfold scanHead at h ⊢
    rw [hmore more]
    exact h
  fail_append more h := by
    unfold scanHead at h
    split at h <;> cases h

/-- What a stream read so far leaves unfinished. -/
def unfinished (stream : List UInt8) : List UInt8 := (syncDecoder.drain stream).2

namespace SyncOutputScan

variable (scan : SyncOutputScan)

/-- Take every sequence the decoder found. -/
def applyAll (found : List (Decoded Empty PrivateMode)) : SyncOutputScan :=
  found.foldl (fun scan event =>
    match event with
    | .item mode => scan.apply mode
    | .failed error => error.elim) scan

/-- What is carried of an unfinished rest. -/
def carried (rest : List UInt8) : List UInt8 :=
  if rest.length ≤ syncScanCarryMax then rest else []

theorem carried_length (rest : List UInt8) : (carried rest).length ≤ syncScanCarryMax := by
  unfold carried
  split
  · assumption
  · exact Nat.zero_le _

/-- What the decoder makes of the input. -/
def read (input : List UInt8) : SyncOutputScan :=
  { scan.applyAll (syncDecoder.drain input).1 with carry := carried (unfinished input) }

@[simp] theorem apply_carry (mode : PrivateMode) : (scan.apply mode).carry = scan.carry := by
  cases mode with
  | set _ _ | reset _ _ =>
    simp only [apply]
    split <;> rfl
  | _ => rfl

theorem observeFrom_skip (skip : Nat) (input : List UInt8) :
    scan.observeFrom skip input = scan.observeFrom 0 (input.drop skip) := by
  induction input generalizing skip with
  | nil => cases skip <;> rfl
  | cons byte rest ih =>
    cases skip with
    | zero => rfl
    | succ skip => exact ih skip

/-- The loop finds what the decoder drains. -/
theorem observeFrom_eq {scan : SyncOutputScan} (hcarry : scan.carry = []) (input : List UInt8) :
    scan.observeFrom 0 input = scan.read input := by
  induction hn : input.length using Nat.strongRecOn generalizing scan input with
  | ind n ih =>
    -- A sequence found at the head is applied, and the loop goes on behind it.
    have hitem : ∀ {mode : PrivateMode} {used : Nat}, syncDecoder.scan input = .item mode used →
        scan.observeFrom 0 input = (scan.apply mode).observeFrom 0 (input.drop used) →
        scan.observeFrom 0 input = scan.read input := by
      intro mode used hscan hstep
      have hpos := syncDecoder.used_pos hscan
      have hle := syncDecoder.used_le hscan
      rw [hstep, ih (input.drop used).length (by rw [List.length_drop]; omega)
        ((scan.apply_carry mode).trans hcarry) _ rfl, read, read, unfinished, unfinished, drain_item hscan]
      rfl
    have hwaits : syncDecoder.scan input = .wait →
        scan.observeFrom 0 input = { scan with carry := carried input } →
        scan.observeFrom 0 input = scan.read input := by
      intro hwait hstep
      rw [hstep, read, unfinished, drain_wait hwait]
      rfl
    cases input with
    | nil => exact hwaits rfl (by rw [observeFrom, show carried [] = [] from rfl, ← hcarry])
    | cons byte rest =>
      by_cases hescape : byte = escape
      · have hhead : headMode (byte :: rest) = parsePrivateMode (byte :: rest) := if_pos hescape
        have hfound : parsePrivateMode (byte :: rest) ≠ .incomplete → syncDecoder.scan (byte :: rest) =
            .item (parsePrivateMode (byte :: rest)) (parsePrivateMode (byte :: rest)).used := by
          intro hcomplete
          rw [← hhead] at hcomplete ⊢
          exact if_neg hcomplete
        cases hmode : parsePrivateMode (byte :: rest) with
        | incomplete =>
          refine hwaits (if_pos (hhead.trans hmode)) ?_
          rw [observeFrom, if_pos hescape, hmode]
          dsimp only [carried]
          split
          · rfl
          · rw [← hcarry]
        | other =>
          refine hitem (hfound (by simp [hmode])) ?_
          rw [observeFrom, if_pos hescape, hmode]
          rfl
        | set namesSync len | reset namesSync len =>
          have hitemAt := hfound (by simp [hmode])
          have hpos := syncDecoder.used_pos hitemAt
          refine hitem hitemAt ?_
          rw [observeFrom, if_pos hescape, hmode]
          rw [hmode] at hpos
          dsimp only [PrivateMode.used] at hpos ⊢
          rw [observeFrom_skip, ← List.drop_succ_cons (a := byte), Nat.sub_add_cancel hpos]
      · have hhead : headMode (byte :: rest) = .other := if_neg hescape
        refine hitem ((if_neg (by simp [hhead])).trans (by rw [hhead])) ?_
        rw [observeFrom, if_neg hescape]
        rfl

/-! ## Every way of cutting a stream -/

/-- No sequence left unfinished at a cut is too long to carry. -/
def CutsShort (chunks : List (List UInt8)) : Prop :=
  ∀ before, before <+: chunks → before ≠ chunks →
    (unfinished before.flatten).length ≤ syncScanCarryMax

theorem observe_eq (chunk : List UInt8) :
    scan.observe chunk = read { scan with carry := [] } (scan.carry ++ chunk) :=
  observeFrom_eq rfl _

theorem applyAll_carry (found : List (Decoded Empty PrivateMode)) :
    (scan.applyAll found).carry = scan.carry := by
  induction found generalizing scan with
  | nil => rfl
  | cons event found ih =>
    cases event with
    | item mode => exact (ih (scan.apply mode)).trans (scan.apply_carry mode)
    | failed error => exact error.elim

theorem observe_observe {scan : SyncOutputScan} (hcarry : scan.carry = []) {stream : List UInt8}
    (hcut : (unfinished stream).length ≤ syncScanCarryMax) (chunk : List UInt8) :
    (scan.observe stream).observe chunk = scan.observe (stream ++ chunk) := by
  have hdrain := drain_append (D := syncDecoder) stream chunk fun error => error.elim
  have hfirst : scan.observe stream =
      { scan.applyAll (syncDecoder.drain stream).1 with carry := unfinished stream } := by
    rw [observe_eq, read, carried, hcarry, List.nil_append, if_pos hcut, ← hcarry]
  have hreset : ∀ carry, { { scan.applyAll (syncDecoder.drain stream).1 with carry := carry } with
      carry := [] } = scan.applyAll (syncDecoder.drain stream).1 := by
    intro carry
    rw [← hcarry, ← applyAll_carry scan (syncDecoder.drain stream).1]
  rw [hfirst, observe_eq, hreset, observe_eq scan, hcarry, List.nil_append, ← hcarry]
  dsimp only [read, unfinished]
  simp only [hdrain, applyAll, List.foldl_append]

theorem foldl_observe {chunks : List (List UInt8)} (h : CutsShort chunks) :
    chunks.foldl observe new = observe new chunks.flatten := by
  induction chunks using List.reverseRecOn with
  | nil => rfl
  | append_singleton chunks chunk ih =>
    have hlonger : chunks ≠ chunks ++ [chunk] := by simp
    have hpre : CutsShort chunks := fun before hbegins hproper =>
      h before (hbegins.trans (chunks.prefix_append [chunk])) fun heq => hproper (by
        rw [heq] at hbegins
        exact absurd hbegins.length_le (by simp))
    rw [List.foldl_append, ih hpre, List.flatten_append, List.flatten_singleton]
    exact observe_observe rfl (h chunks (chunks.prefix_append [chunk]) hlonger) chunk

/-- The scan does not depend on how a stream was cut, unless a cut falls into a sequence longer
than the carry; the carry keeps its bound however the stream was cut. -/
theorem observe_any_split (chunks : List (List UInt8)) :
    (CutsShort chunks → chunks.foldl observe new = observe new chunks.flatten) ∧
      (chunks.foldl observe new).carry.length ≤ syncScanCarryMax := by
  refine ⟨foldl_observe, ?_⟩
  induction chunks using List.reverseRecOn with
  | nil => exact Nat.zero_le _
  | append_singleton =>
    rw [List.foldl_append, List.foldl_cons, List.foldl_nil, observe_eq]
    exact carried_length _

theorem observe_any_split_opener :
    [[escape, 0x5b], [0x3f, 0x32, 0x30, 0x32, 0x36, 0x68]].foldl observe new =
      observe new [escape, 0x5b, 0x3f, 0x32, 0x30, 0x32, 0x36, 0x68] := by
  refine (observe_any_split _).1 fun before hbegins hproper => ?_
  rcases List.prefix_cons_iff.mp hbegins with rfl | ⟨later, rfl, hlater⟩
  · rw [unfinished, drain_wait rfl]
    exact Nat.zero_le _
  rcases List.prefix_cons_iff.mp hlater with rfl | ⟨last, rfl, hlast⟩
  · rw [unfinished, drain_wait rfl]
    decide
  · exact absurd (by rw [List.prefix_nil.mp hlast]) hproper

/-- `ESC [ ?`, thirty zeros and `2026h`, cut behind the zeros. -/
def cutLong : List (List UInt8) :=
  [[escape, 0x5b, 0x3f] ++ List.replicate 30 0x30, [0x32, 0x30, 0x32, 0x36, 0x68]]

theorem cut_long_is_missed :
    (cutLong.foldl observe new).isOpen = false ∧ (observe new cutLong.flatten).isOpen = true ∧
      (observe new cutLong.flatten).generation = 1 := by
  decide +kernel

end SyncOutputScan

end Roost.Worker
