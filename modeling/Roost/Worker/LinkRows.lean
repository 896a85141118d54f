-- SUMMARY: Where a committed row of the outbox is.
import Roost.Worker.LinkOffers

/-!
# A committed row on the link

A row committed to the outbox stays there until it is acknowledged. The link offers it to the
barrier, which puts it in flight once it heads the queue; in flight it is authorised or written. A
link moves its barrier by the barrier's own calls, so what those keep the link keeps.
-/

namespace Roost.Worker.Link

open Journal (call)
open List (cons map_cons mem_append mem_cons mem_cons_self mem_map mem_singleton not_mem_nil)

open OrderedMap OutboxFile

variable {pump : Pump} {link next : LinkLoop}

/-! ## The barrier between calls -/

namespace Pump

/-- A live barrier keeps an event in flight while it has one; without a socket and at the snapshot
stage it has none. -/
structure Steady (pump : Pump) : Prop where
  aimed : pump.Aimed
  driven : pump.barrier = .live → pump.inFlight = none → pump.durable = []
  quiet : pump.barrier = .snapshot ∨ pump.barrier = .idle → pump.inFlight = none

theorem steady_new : Steady .new := ⟨aimed_of_clear rfl, by simp [new], by simp [new]⟩

theorem advance_driven (pump : Pump) (hlive : pump.advance.1.barrier = .live)
    (hclear : pump.advance.1.inFlight = none) : pump.advance.1.durable = [] := by
  have hpre := advance_live hlive
  unfold advance at hclear ⊢
  rw [hpre] at hclear ⊢
  dsimp only at hclear ⊢
  split at hclear
  · cases hclear
  rename_i hwaits
  cases hdurable : pump.durable with
  | nil => rfl
  | cons event rest => exact absurd hdurable (hwaits event rest hclear)

theorem advance_quiet (haimed : pump.Aimed)
    (hquiet : pump.barrier = .snapshot ∨ pump.barrier = .idle → pump.inFlight = none)
    (hstage : pump.advance.1.barrier = .snapshot ∨ pump.advance.1.barrier = .idle) :
    pump.advance.1.inFlight = none := by
  cases hadv : pump.advance with
  | mk =>
    have hstep := pump.advances
    rw [hadv] at hstep hstage
    cases hstep with
    | wait => exact hquiet hstage
    | event flows =>
      have hcontra : pump.barrier = .snapshot ∨ pump.barrier = .idle := hstage
      rcases flows with hlive | hreplay
      · simp [hlive] at hcontra
      · simp [hreplay] at hcontra
    | snapshot replaying empty =>
      cases hfly : pump.inFlight with
      | none => rfl
      | some =>
        obtain ⟨_, _, hhead, -⟩ := haimed.head hfly
        simp [empty] at hhead

theorem Steady.advance (haimed : pump.Aimed)
    (hquiet : pump.barrier = .snapshot ∨ pump.barrier = .idle → pump.inFlight = none) :
    pump.advance.1.Steady :=
  ⟨haimed.advance, pump.advance_driven, advance_quiet haimed hquiet⟩

theorem markStale_quiet (h : pump.barrier = .snapshot ∨ pump.barrier = .idle → pump.inFlight = none) :
    pump.markStale.barrier = .snapshot ∨ pump.markStale.barrier = .idle →
      pump.markStale.inFlight = none := by
  rw [markStale_barrier, markStale_inFlight]
  exact h

theorem Steady.step (h : pump.Steady) (op : PumpOp) : (pump.step op).1.Steady := by
  cases op with
  | onOpen | onDisconnect =>
    exact ⟨aimed_of_clear rfl, fun hcontra => (by cases hcontra), fun _ => rfl⟩
  | onHelloAck => exact .advance (h.aimed.of_eq rfl rfl) fun hcontra => (by simp at hcontra)
  | enqueueDurable => exact .advance (h.aimed.push _ _).markStale (markStale_quiet h.quiet)
  | enqueueDurableAt =>
    simp only [Pump.step, enqueueDurableAt]
    split_ifs
    · exact h
    · exact h
    · exact .advance (h.aimed.push _ _).markStale (markStale_quiet h.quiet)
  | noteDurableAppeared => exact .advance h.aimed.markStale (markStale_quiet h.quiet)
  | setSnapshotBlocked blocked =>
    have hmoved : Aimed { pump with snapshotBlocked := blocked } := h.aimed.of_eq rfl rfl
    simp only [Pump.step, acting, setSnapshotBlocked]
    split
    · exact .advance hmoved.markStale (markStale_quiet h.quiet)
    · exact .advance hmoved h.quiet
    · exact ⟨hmoved, h.driven, h.quiet⟩
  | reassignSnapshotSequence =>
    simp only [Pump.step, reassignSnapshotSequence]
    split
    · exact ⟨h.aimed.of_eq rfl rfl, h.driven, h.quiet⟩
    · exact h
  | abandonSnapshot =>
    simp only [Pump.step, abandonSnapshot]
    split
    · exact ⟨h.aimed.of_eq rfl rfl, fun hcontra => (by cases hcontra),
        fun hcontra => (by simp at hcontra)⟩
    · exact h
  | onEventAck =>
    simp only [Pump.step, acting, onEventAck]
    split
    · exact .advance (aimed_of_clear rfl) fun _ => rfl
    · exact h
  | onSnapshotAck =>
    simp only [Pump.step, acting, onSnapshotAck]
    split_ifs
    · exact .advance (h.aimed.of_eq rfl rfl) fun hcontra => (by simp at hcontra)
    · exact .advance (h.aimed.of_eq rfl rfl) fun hcontra => (by simp at hcontra)
    · exact h

end Pump

open Pump

namespace LinkLoop

variable (encode : JournalEvent → Nat → Except String (List UInt8))

/-! ## The link moves its barrier by the barrier's calls -/

@[simp] theorem applyTo_pump (link : LinkLoop) (action : Action) :
    (link.applyTo action).pump = link.pump := by
  unfold applyTo
  split
  · split <;> rfl
  all_goals rfl

@[simp] theorem applyTo_offeredThrough (link : LinkLoop) (action : Action) :
    (link.applyTo action).durableOfferedThrough = link.durableOfferedThrough := by
  unfold applyTo
  split
  · split <;> rfl
  all_goals rfl

section Calls

-- The pump is told of an acknowledgement only by the call that brings it.
variable {P : Pump → Prop} {op : LinkOp} (hP : ∀ pump call,
  (∀ seq, call = .onEventAck seq → op = .eventAcknowledged seq) → P pump → P (pump.step call).1)
include hP

theorem reopened_pump (h : P link.pump) : P link.reopenReplayBeforeUnsentSnapshot.pump := by
  unfold reopenReplayBeforeUnsentSnapshot
  split
  · exact hP _ .abandonSnapshot (by simp) h
  · exact h

theorem offerNewRows_pump (h : P link.pump) (rows : List PendingRow) :
    P (link.offerNewRows encode rows).1.pump := by
  induction rows generalizing link with
  | nil => exact h
  | cons row rows ih =>
    have hoff : P (link.reopenReplayBeforeUnsentSnapshot.offerRow encode row).1.pump := by
      have hreopen := reopened_pump hP h
      unfold offerRow enqueueDurableAt
      split
      · exact hreopen
      rename_i bytes _
      have hcalled := hP _ (.enqueueDurableAt row.clientSeq bytes) (by simp) hreopen
      split
      · exact hreopen
      split
      · exact hreopen
      · rename_i htaken
        simp only [Pump.step, acting, htaken] at hcalled
        simpa [pumped] using hcalled
    unfold offerNewRows
    split
    · exact ih h
    split
    · rename_i hres
      rw [hres] at hoff
      exact ih hoff
    · rename_i hres
      rw [hres] at hoff
      exact hoff

theorem serve_pump (h : P link.pump) : P (link.serve encode op).1.pump := by
  cases op with
  | detachLink => exact hP _ .onDisconnect (by simp) h
  | helloAcknowledged =>
    simp only [serve, helloAcknowledged, pumped, applyTo_pump]
    exact hP _ .onHelloAck (by simp) h
  | eventAcknowledged clientSeq =>
    have hnoted : ∀ {link : LinkLoop}, (link.noteDurableAck clientSeq).pump = link.pump := by
      intro link
      unfold noteDurableAck
      split <;> rfl
    have hacked := hP _ (.onEventAck clientSeq) (by simp) h
    simp only [serve, eventAcknowledged]
    split
    · rename_i hignored
      simp only [Pump.step, acting, hignored] at hacked
      simp only [pumped, applyTo_pump]
      exact hP _ (.onSnapshotAck clientSeq) (by simp) hacked
    · simp only [pumped, applyTo_pump]
      exact hacked
  | applyDurableAcks => exact h
  | syncDurableRows =>
    simp only [serve, syncDurableRows]
    split
    · split
      · refine offerNewRows_pump encode hP ?_ _
        exact h
      · exact h
    · exact h
  | refreshSnapshotBlocking =>
    simp only [serve, refreshSnapshotBlocking]
    split
    · simp only [pumped, applyTo_pump]
      split
      · exact hP _ (.setSnapshotBlocked _) (by simp) (reopened_pump hP h)
      · exact hP _ (.setSnapshotBlocked _) (by simp) h
    · exact h
  | authoriseSnapshot provided readable fault =>
    simp only [serve, authoriseSnapshot]
    split
    · exact h
    split
    · exact h
    split
    · exact h
    split
    · rename_i seq _
      split
      · exact hP _ (.reassignSnapshotSequence seq) (by simp) h
      · split <;> exact hP _ (.reassignSnapshotSequence seq) (by simp) h
    · exact hP _ .abandonSnapshot (by simp) h
    · exact h
  | noteDurableAppeared =>
    simp only [serve, noteDurableAppeared, pumped, applyTo_pump]
    exact hP _ .noteDurableAppeared (by simp) h
  | admitToLane =>
    simp only [serve, admitToLane]
    split
    · exact h
    · split <;> exact h
  | write now notified status repair =>
    exact (link.sameDurable_write now notified status repair).pump ▸ h
  | _ => exact h

/-- What every call of the pump keeps, every call of the link keeps. -/
theorem step_pump (hnew : ∀ now held, op = .restart now held → P .new) (h : P link.pump) :
    P (link.step encode op).1.pump := by
  have hserved : P (if link.connected then link.serve encode op else (link, .done)).1.pump := by
    split
    · exact serve_pump encode hP h
    · exact h
  cases op with
  | restart now held => exact hnew now held rfl
  | session =>
    simp only [step]
    split <;> exact h
  | onOpen =>
    simp only [step]
    split
    · exact hP _ .onOpen (by simp) h
    · exact h
  | noteStoreChanged | activate | queueCells _ _ | setAttached _ | discardQueued => exact h
  | _ => exact hserved

end Calls

/-! ## Calls on the outbox -/

variable {journal : Journal} {seq : Nat}

theorem appendWithin_rows {file : OutboxFile} {win : SequenceWindow} (h : win.Within file)
    (added : JournalEvent) (claim : Option Reservation) (fault : Option Interruption) :
    (appendWithin file win added claim fault).1.events = file.events ∨
      ∃ seq stored, win.upcoming file ≤ seq ∧
        (appendWithin file win added claim fault).1.events = file.events.insert seq stored := by
  unfold appendWithin
  split
  · exact .inl rfl
  have hdraws := claimSequenceIn_spec h fault
  split
  · rename_i hfailed
    rw [hfailed] at hdraws
    exact .inl hdraws.events
  rename_i drawnFile drawnWindow clientSeq hclaim
  rw [hclaim] at hdraws
  split
  · exact .inl hdraws.events
  split
  · exact .inl hdraws.events
  rename_i committed row hins
  obtain ⟨hevents, -, -⟩ := insertRow_ok hins
  rw [hdraws.events] at hevents
  have hfrom := (hdraws.fresh clientSeq rfl).1
  split <;> exact .inr ⟨_, _, hfrom, hevents⟩

theorem session_rows (h : journal.Numbered) {call : JournalOp}
    (hsess : ofSessions call = true) {key : Nat} (hkey : key < journal.upcoming) :
    (journal.step call).1.file.events.lookup key = journal.file.events.lookup key := by
  unfold Journal.step
  split
  · rename_i win hwindow
    cases call with
    | append added claim fault =>
      have hupcoming : journal.upcoming = win.upcoming journal.file := by
        unfold Journal.upcoming
        rw [hwindow]
      have hrows : (appendWithin journal.file win added claim fault).1.events.lookup key =
          journal.file.events.lookup key := by
        rcases appendWithin_rows (h.within win hwindow) added claim fault with
          hsame | ⟨seq, stored, hfrom, hadded⟩
        · rw [hsame]
        · have hne : key ≠ seq := by omega
          rw [hadded, OrderedMap.lookup_insert, if_neg hne]
      simp only [call]
      split
      · rename_i hdone
        rw [hdone] at hrows
        exact hrows
      · rename_i hfailed
        rw [hfailed] at hrows
        exact hrows
    | reserve =>
      simp only [call]
      split
      · rfl
      · split <;> rfl
    | reserveNext name =>
      rw [call, (Journal.reserveNext_file journal name).1]
    | hold claim =>
      simp only [call]
      rw [(Journal.hold_file journal.file claim).1]
    | release claim =>
      simp only [call]
      rw [(Journal.release_file journal.file claim).1]
    | _ => cases hsess
  · split
    · cases hsess
    · cases hsess
    · cases hsess
    · rfl

theorem draw_rows (h : journal.Numbered) (offeredThrough : Nat) (fault : Option Interruption) :
    (journal.step (.snapshotSequence offeredThrough fault)).1.file.events = journal.file.events := by
  unfold Journal.step
  split
  · rename_i win hwindow
    obtain ⟨_, hdraws, -⟩ :=
      snapshotSequence_spec (h.within win hwindow) offeredThrough fault
    have hevents := hdraws.events
    simp only [call]
    split
    · rename_i hdone
      rw [hdone] at hevents
      exact hevents
    · rename_i hfailed
      rw [hfailed] at hevents
      exact hevents
  · rfl

theorem asked_rows (hsound : link.Sound) (readable : Bool) (fault : Option Interruption) :
    link.journal.upcoming ≤ (if readable then
        link.journal.step (.snapshotSequence link.durableOfferedThrough fault)
        else (link.journal, .failed (.query "snapshot sequence" ""))).1.upcoming ∧ (if readable then
        link.journal.step (.snapshotSequence link.durableOfferedThrough fault)
        else (link.journal, .failed (.query "snapshot sequence" ""))).1.file.events =
        link.journal.file.events := by
  split
  · exact ⟨(hsound.numbered.step _).onwards, draw_rows hsound.numbered _ _⟩
  · exact ⟨le_rfl, rfl⟩

theorem offerNewRows_journal (rows : List PendingRow) :
    (link.offerNewRows encode rows).1.journal = link.journal := by
  induction rows generalizing link with
  | nil => rfl
  | cons row rows ih =>
    have hkept := (link.reopenReplayBeforeUnsentSnapshot.offerRow_journal encode row).trans
      link.reopened_durable.1
    unfold offerNewRows
    split
    · exact ih
    split
    · rename_i hres
      rw [hres] at hkept
      exact ih.trans hkept
    · rename_i hres
      rw [hres] at hkept
      exact hkept

theorem acknowledge_lookup (file : OutboxFile) (seqs : List Nat) (key : Nat) :
    (seqs.foldl (fun file seq => (file.acknowledge seq).1) file).events.lookup key =
        file.events.lookup key ∨ key ∈ seqs ∧
        (seqs.foldl (fun file seq => (file.acknowledge seq).1) file).events.lookup key = none := by
  induction seqs generalizing file with
  | nil => exact .inl rfl
  | cons seq seqs ih =>
    have hone : (file.acknowledge seq).1.events.lookup key = file.events.lookup key ∨
        key = seq ∧ (file.acknowledge seq).1.events.lookup key = none := by
      unfold acknowledge
      split
      · exact .inl rfl
      rw [lookup_erase]
      split
      · rename_i hsame
        exact .inr ⟨hsame, rfl⟩
      · exact .inl rfl
    rw [List.foldl_cons, mem_cons]
    rcases ih (file.acknowledge seq).1 with hkept | ⟨hlater, hgone⟩
    · rcases hone with hsame | ⟨hseq, hgone⟩
      · exact .inl (hkept.trans hsame)
      · exact .inr ⟨.inl hseq, hkept.trans hgone⟩
    · exact .inr ⟨.inr hlater, hgone⟩

theorem restart_events (link : LinkLoop) (now : Int) (held : Bool) :
    (link.restart now held).journal.file.events =
      link.journal.file.discardRetiredEvents.events := by
  have hcrash : (link.journal.step .crash).1.window = none ∧
      (link.journal.step .crash).1.file = link.journal.file := by
    unfold Journal.step
    split
    · exact ⟨rfl, rfl⟩
    · rename_i hclosed
      exact ⟨hclosed, rfl⟩
  have hopens : ∀ {jrnl : Journal}, jrnl.window = none →
      (jrnl.step (.openFile now)).1.file.events = jrnl.file.discardRetiredEvents.events := by
    intro jrnl hclosed
    unfold Journal.step
    rw [hclosed]
    dsimp only [Journal.openFile]
    split <;> rfl
  exact (hopens hcrash.1).trans (congrArg (fun file => file.discardRetiredEvents.events) hcrash.2)

/-! ## Where the row is -/

variable (n : Nat) (event : JournalEvent)

/-- The outbox stores this event under this number. -/
def Stores (link : LinkLoop) : Prop :=
  ∃ stored, link.journal.file.events.lookup n = some stored ∧ stored.event = event

/-- What the link knows of a row that was committed. -/
structure Carries (link : LinkLoop) (acked sent : Prop) : Prop where
  positive : 0 < n
  below : n < link.journal.upcoming
  same : ∀ stored, link.journal.file.events.lookup n = some stored → stored.event = event
  framed : ∀ frame ∈ link.durable, frame.seq = some n → encode event n = .ok frame.bytes
  kept : acked ∨ n ∈ link.journal.file.events.keys ∧
    (link.durableOfferedThrough < n ∨ n ∈ link.pump.durable.map (·.seq))
  written : link.pump.inFlight = some n → link.authorised = some (.durable n) ∨ sent

/-- The same, and what holds before the row is committed. -/
structure Tracks (link : LinkLoop) (committed acked sent : Prop) : Prop where
  behind : ∀ queued ∈ link.pump.durable, queued.seq ≤ link.durableOfferedThrough
  offered : link.durableOfferedThrough < link.journal.upcoming
  retired : n ∈ link.pendingAcks → acked
  row : committed → link.Carries encode n event acked sent

variable {encode n event} {committed acked sent sent' : Prop}

/-- Nothing that bears on the rows has changed. -/
structure SameRows (link next : LinkLoop) : Prop where
  journal : next.journal = link.journal
  pump : next.pump = link.pump
  durable : next.durable = link.durable
  offeredThrough : next.durableOfferedThrough = link.durableOfferedThrough
  authorised : next.authorised = link.authorised
  pendingAcks : next.pendingAcks = link.pendingAcks

section Row

variable (h : link.Tracks encode n event committed acked sent)
include h

theorem Tracks.mono {acked' : Prop} (hacked : acked → acked') (hsent : sent → sent') :
    link.Tracks encode n event committed acked' sent' where
  behind := h.behind
  offered := h.offered
  retired hn := hacked (h.retired hn)
  row hcommit :=
    have hrow := h.row hcommit
    { hrow with
      kept := hrow.kept.imp_left hacked
      written := fun hfly => (hrow.written hfly).imp_right hsent }

theorem Tracks.frame (hsame : SameRows link next) : next.Tracks encode n event committed acked sent := by
  obtain ⟨hjournal, hpump, hdurable, hoff, hauthority, hpend⟩ := hsame
  refine ⟨?_, ?_, ?_, fun hcommit => ?_⟩
  · rw [hpump, hoff]
    exact h.behind
  · rw [hoff, hjournal]
    exact h.offered
  · rw [hpend]
    exact h.retired
  obtain ⟨hpos, hbelow, hsame, hframed, hkept, hwritten⟩ := h.row hcommit
  refine ⟨hpos, hjournal ▸ hbelow, hjournal ▸ hsame, hdurable ▸ hframed, ?_, ?_⟩
  · rw [hjournal, hoff, hpump]
    exact hkept
  · rw [hpump, hauthority]
    exact hwritten

theorem Tracks.turned (hdurable : pump.durable = link.pump.durable)
    (hfly : pump.inFlight = link.pump.inFlight ∨ pump.inFlight = none) :
    Tracks encode n event { link with pump := pump } committed acked sent := by
  refine ⟨hdurable ▸ h.behind, h.offered, h.retired, fun hcommit => ?_⟩
  have hrow := h.row hcommit
  refine { hrow with kept := hdurable ▸ hrow.kept, written := fun hn => ?_ }
  rcases hfly with hfly | hfly
  · exact hrow.written (hfly ▸ hn)
  · exact absurd (hfly.symm.trans hn) (by simp)

theorem Tracks.ofJournal (honward : link.journal.upcoming ≤ jrnl.upcoming)
    (hrows : ∀ key < link.journal.upcoming,
      jrnl.file.events.lookup key = link.journal.file.events.lookup key) :
    Tracks encode n event { link with journal := jrnl } committed acked sent := by
  refine ⟨h.behind, h.offered.trans_le honward, h.retired, fun hcommit => ?_⟩
  have hrow := h.row hcommit
  have hlook := hrows n hrow.below
  refine ⟨hrow.positive, hrow.below.trans_le honward, fun stored hstores => ?_, hrow.framed, ?_,
    hrow.written⟩
  · exact hrow.same stored (hlook ▸ hstores)
  refine hrow.kept.imp_right fun ⟨hkey, hplace⟩ => ⟨?_, hplace⟩
  rw [mem_keys_iff] at hkey ⊢
  rw [hlook]
  exact hkey

theorem reopened_rows :
    link.reopenReplayBeforeUnsentSnapshot.Tracks encode n event committed acked sent := by
  unfold reopenReplayBeforeUnsentSnapshot
  split
  · rename_i hstage
    have hkept : link.pump.abandonSnapshot.durable = link.pump.durable ∧
        link.pump.abandonSnapshot.inFlight = link.pump.inFlight := by
      simp [abandonSnapshot, hstage.2]
    exact (h.turned hkept.1 (.inl hkept.2)).frame ⟨rfl, rfl, rfl, rfl, rfl, rfl⟩
  · exact h

theorem Tracks.released (hacked : seq = n → acked) {queued : PendingEvent} {rest : List PendingEvent}
    (hhead : link.pump.durable = queued :: rest) (hseq : queued.seq = seq) {frames : List DurableWrite}
    (hframes : frames ⊆ link.durable) (bytes : Nat) : Tracks encode n event { link with
      durable := frames
      durableBytes := bytes
      pump := { link.pump with
        inFlight := none
        durable := link.pump.durable.tail
        acked := max link.pump.acked seq } } committed acked sent := by
  refine ⟨fun other hother => ?_, h.offered, h.retired, fun hcommit => ?_⟩
  · exact h.behind other (List.mem_of_mem_tail hother)
  have hrow := h.row hcommit
  refine ⟨hrow.positive, hrow.below, hrow.same, fun frame hframe => hrow.framed frame
    (hframes hframe), ?_, fun hfly => by cases hfly⟩
  rcases hrow.kept with hdone | ⟨hkey, hplace⟩
  · exact .inl hdone
  by_cases hsame : seq = n
  · exact .inl (hacked hsame)
  · refine .inr ⟨hkey, hplace.imp_right fun hmem => ?_⟩
    simp only [hhead, map_cons, mem_cons] at hmem ⊢
    exact hmem.resolve_left fun hn => hsame (hseq.symm.trans hn.symm)

theorem Tracks.reauthorised (authorised : Option Authorised)
    (hwritten : link.pump.inFlight = some n → link.authorised = some (.durable n) ∨ sent →
      authorised = some (.durable n) ∨ sent') :
    Tracks encode n event { link with authorised := authorised } committed acked sent' :=
  { h with
    row := fun hcommit =>
      have hrow := h.row hcommit
      { hrow with written := fun hfly => hwritten hfly (hrow.written hfly) } }

theorem Tracks.unflown (hclear : link.pump.inFlight = none) (authorised : Option Authorised) :
    Tracks encode n event { link with authorised := authorised } committed acked sent' :=
  h.reauthorised authorised fun hfly => absurd (hclear.symm.trans hfly) (by simp)

theorem Tracks.detachLink : link.detachLink.Tracks encode n event committed acked sent' := by
  have hturned : Tracks encode n event { link with pump := link.pump.onDisconnect.1 } committed
      acked sent := h.turned rfl (.inr rfl)
  exact (hturned.unflown rfl none).frame ⟨rfl, rfl, rfl, rfl, rfl, rfl⟩

theorem Tracks.onOpen : link.onOpen.Tracks encode n event committed acked sent :=
  h.turned rfl (.inr rfl)

end Row

theorem Tracks.pumped (h : Tracks encode n event { link with pump := pump } committed acked sent)
    (hsound : Sound { link with pump := pump }) :
    (link.pumped pump.advance).Tracks encode n event committed acked sent := by
  cases hadv : pump.advance with
  | mk =>
    have hstep := pump.advances
    rw [hadv] at hstep
    cases hstep with
    | wait => exact h
    | @event released rest flows clear head =>
      have hmirrors := hsound.mirrored
      cases hdurable : link.durable with
      | nil => simp [hdurable, head] at hmirrors
      | cons frame =>
        simp only [hdurable, head, map_cons, cons.injEq] at hmirrors
        have hframe : { frame with seq := some released.seq } = frame := by
          rw [← hmirrors.1]
        simp only [LinkLoop.pumped, applyTo, hdurable, hframe]
        refine { h with row := fun hcommit => ?_ }
        have hrow := h.row hcommit
        refine { hrow with framed := ?_, written := fun hn => ?_ }
        · intro other hother
          exact hrow.framed other (by rw [hdurable]; exact hother)
        · left
          exact congrArg (fun seq => some (Authorised.durable seq)) (Option.some.inj hn)
    | snapshot =>
      exact { h with row := fun hcommit => { h.row hcommit with } }

theorem Tracks.noteDurableAck (h : Tracks encode n event { link with pump := pump } committed acked
    sent) (hacked : seq = n → acked) :
    Tracks encode n event { link.noteDurableAck seq with pump := pump } committed acked sent := by
  unfold LinkLoop.noteDurableAck
  split
  · exact h
  refine ⟨h.behind, h.offered, fun hn => ?_, fun hcommit => ?_⟩
  · rcases mem_append.mp hn with hold | hnew
    · exact h.retired hold
    · exact hacked (mem_singleton.mp hnew).symm
  · exact { h.row hcommit with }

/-! ## Calls on a sound link -/

section Sound

variable (h : link.Tracks encode n event committed acked sent) (hsound : link.Sound)
include h hsound

theorem Tracks.session {call : JournalOp} (hsess : ofSessions call = true) (hstores : link.Stores n event → committed)
    {committed' : Prop} (hcommit : committed' → committed ∨
      Stores n event { link with journal := (link.journal.step call).1 }) :
    Tracks encode n event { link with journal := (link.journal.step call).1 } committed' acked
      sent := by
  have honward := hsound.numbered.step call
  have hkept := h.ofJournal honward.onwards fun key hkey =>
    session_rows hsound.numbered hsess hkey
  refine ⟨hkept.behind, hkept.offered, hkept.retired, fun hnow => ?_⟩
  rcases hcommit hnow with hpre | ⟨stored, hlook, hevent⟩
  · exact hkept.row hpre
  have hkey := mem_keys_iff.mpr ⟨stored, hlook⟩
  rcases honward.keys n hkey with hold | hnew
  · -- A row stored under an older number was stored before.
    have hbelow := hsound.numbered.passed n hold
    have hsame := session_rows hsound.numbered hsess hbelow
    exact hkept.row (hstores ⟨stored, hsame ▸ hlook, hevent⟩)
  have hoff : link.durableOfferedThrough < n := h.offered.trans_le hnew
  have hunqueued : ∀ queued ∈ link.pump.durable, queued.seq ≠ n := fun queued hqueue =>
    ((h.behind queued hqueue).trans_lt hoff).ne
  refine ⟨Nat.zero_lt_of_lt hoff, honward.numbered.passed n hkey, fun other hother => ?_,
    fun frame hframe hseq => ?_, .inr ⟨hkey, .inl hoff⟩, fun hfly => ?_⟩
  · exact Option.some.inj (hother.symm.trans hlook) ▸ hevent
  · have hmem := List.mem_map_of_mem (f := (·.seq)) hframe
    rw [hsound.mirrored, hseq] at hmem
    obtain ⟨queued, hqueue, hsame⟩ := mem_map.mp hmem
    exact absurd (Option.some.inj hsame) (hunqueued queued hqueue)
  · obtain ⟨queued, _, hhead, hsame⟩ := hsound.aimed.head hfly
    exact absurd hsame (hunqueued queued (hhead ▸ mem_cons_self))

theorem Tracks.enqueued {bytes : List UInt8} (hstores : seq ∈ link.journal.file.events.keys)
    (hnext : ∀ key ∈ link.journal.file.events.keys, key ≤ link.durableOfferedThrough ∨ seq ≤ key)
    (hframed : committed → seq = n → encode event n = .ok bytes) : Tracks encode n event { link with
      pump := (link.pump.push seq bytes).markStale
      durable := link.durable ++ [⟨bytes, some seq⟩]
      durableBytes := link.durableBytes + bytes.length
      durableOfferedThrough := max link.durableOfferedThrough seq } committed acked sent := by
  have hqueue : (link.pump.push seq bytes).markStale.durable = link.pump.durable ++ [⟨seq, bytes⟩] :=
    markStale_durable _
  have hfly : (link.pump.push seq bytes).markStale.inFlight = link.pump.inFlight :=
    markStale_inFlight _
  refine ⟨?_, ?_, h.retired, fun hcommit => ?_⟩
  · dsimp only
    rw [hqueue]
    intro queued hqueued
    rcases mem_append.mp hqueued with hold | hnew
    · exact (h.behind queued hold).trans (le_max_left _ _)
    · rw [mem_singleton.mp hnew]
      exact le_max_right _ _
  · exact max_lt h.offered (hsound.numbered.passed seq hstores)
  have hrow := h.row hcommit
  refine ⟨hrow.positive, hrow.below, hrow.same, fun frame hframe hseq => ?_, ?_, ?_⟩
  · rcases mem_append.mp hframe with hold | hnew
    · exact hrow.framed frame hold hseq
    · rw [mem_singleton.mp hnew] at hseq ⊢
      exact hframed hcommit (Option.some.inj hseq)
  · refine hrow.kept.imp_right fun ⟨hkey, hplace⟩ => ⟨hkey, ?_⟩
    rw [hqueue, List.map_append, mem_append]
    rcases hplace with hwaits | hqueued
    · rcases hnext n hkey with hpassed | hbeyond
      · exact absurd hwaits (Nat.not_lt.mpr hpassed)
      · rcases hbeyond.eq_or_lt with hsame | hlater
        · exact .inr (.inr (by simp [hsame]))
        · exact .inl (max_lt hwaits hlater)
    · exact .inr (.inl hqueued)
  · dsimp only
    rw [hfly]
    exact hrow.written

theorem Tracks.offerNewRows {rows : List PendingRow} (hrows : ∀ row ∈ rows, ∃ stored,
      link.journal.file.events.lookup row.clientSeq = some stored ∧ stored.event = row.event)
    (hsorted : (rows.map (·.clientSeq)).Pairwise (· < ·))
    (hcomplete : ∀ key ∈ link.journal.file.events.keys,
      key ≤ link.durableOfferedThrough ∨ key ∈ rows.map (·.clientSeq)) :
    (link.offerNewRows encode rows).1.Tracks encode n event committed acked sent := by
  induction rows generalizing link with
  | nil => exact h
  | cons row rows ih =>
    rw [map_cons, List.pairwise_cons] at hsorted
    have hlater : ∀ other ∈ rows, ∃ stored,
        link.journal.file.events.lookup other.clientSeq = some stored ∧
          stored.event = other.event :=
      fun other hother => hrows other (List.mem_cons_of_mem _ hother)
    unfold LinkLoop.offerNewRows
    split
    -- The row was offered before.
    · rename_i hpassed
      refine ih h hsound hlater hsorted.2 fun key hkey => ?_
      rcases hcomplete key hkey with hold | hmem
      · exact .inl hold
      rw [map_cons, mem_cons] at hmem
      rcases hmem with rfl | hlisted
      · exact .inl hpassed
      · exact .inr hlisted
    rename_i hunoffered
    obtain ⟨hjournal, hoff, hstands⟩ := link.reopened_durable
    obtain ⟨stored, hstores, hevent⟩ := hrows row mem_cons_self
    have hkey : row.clientSeq ∈ link.reopenReplayBeforeUnsentSnapshot.journal.file.events.keys := by
      rw [hjournal]
      exact mem_keys_iff.mpr ⟨stored, hstores⟩
    have hbeyond : link.reopenReplayBeforeUnsentSnapshot.durableOfferedThrough < row.clientSeq := by
      rw [hoff]
      exact Nat.lt_of_not_le hunoffered
    have htracks := reopened_rows h
    have hreopen := hsound.reopened
    unfold offerRow
    split
    · rename_i hres
      split at hres
      · cases hres
      rename_i bytes hbytes
      rcases enqueueDurableAt_cases (reopened_clear hsound) hkey hbeyond bytes with
        ⟨refusal, href⟩ | htaken
      · rw [href] at hres
        cases hres
      rw [htaken] at hres
      cases hres
      have hmirrors := hreopen.enqueued hstands hkey bytes
      have hnext : ∀ key ∈ link.reopenReplayBeforeUnsentSnapshot.journal.file.events.keys,
          key ≤ link.reopenReplayBeforeUnsentSnapshot.durableOfferedThrough ∨
            row.clientSeq ≤ key := by
        intro key hmem
        rw [hjournal] at hmem
        rw [hoff]
        refine (hcomplete key hmem).imp_right fun hlisted => ?_
        rcases mem_cons.mp hlisted with hsame | hlisted
        · exact hsame.ge
        · exact (hsorted.1 key hlisted).le
      have hframed : committed → row.clientSeq = n → encode event n = .ok bytes := by
        intro hcommit hsame
        have hrow := (htracks.row hcommit).same stored (by rw [hjournal, ← hsame]; exact hstores)
        rw [← hrow, hevent, ← hsame]
        exact hbytes
      have hqueue := htracks.enqueued hreopen hkey hnext hframed
      refine ih (Tracks.pumped hqueue hmirrors) (Sound.pumped hmirrors) ?_ hsorted.2 ?_
      · intro other hother
        rw [LinkLoop.pumped, applyTo_journal]
        exact hjournal.symm ▸ hlater other hother
      intro key hmem
      rw [LinkLoop.pumped, applyTo_journal] at hmem
      rw [LinkLoop.pumped, applyTo_offeredThrough]
      rcases hcomplete key (hjournal ▸ hmem) with hold | hlisted
      · exact .inl ((hoff ▸ hold).trans (le_max_left _ _))
      rcases mem_cons.mp hlisted with hsame | hlisted
      · rw [hsame]
        exact .inl (le_max_right _ _)
      · exact .inr hlisted
    · rename_i hres
      split at hres
      · cases hres
        exact htracks.frame ⟨rfl, rfl, rfl, rfl, rfl, rfl⟩
      rename_i bytes _
      rcases enqueueDurableAt_cases (reopened_clear hsound) hkey hbeyond bytes with
        ⟨refused, href⟩ | htaken
      · rw [href] at hres
        cases hres
        exact htracks.frame ⟨rfl, rfl, rfl, rfl, rfl, rfl⟩
      · rw [htaken] at hres
        cases hres

theorem Tracks.syncDurableRows (readable : Bool) :
    (link.syncDurableRows encode readable).1.Tracks encode n event committed acked sent := by
  have hframe : ∀ changed resync, Tracks encode n event
      { link with storeChanged := changed, durableResync := resync } committed acked sent :=
    fun _ _ => h.frame ⟨rfl, rfl, rfl, rfl, rfl, rfl⟩
  have hkeys : link.journal.file.pending.map (·.clientSeq) = link.journal.file.events.keys := by
    simp [pending, keys]
  unfold LinkLoop.syncDurableRows
  dsimp only
  split
  · split
    · refine (hframe false false).offerNewRows (hsound.frame ⟨rfl, rfl, rfl, rfl, rfl, rfl⟩)
        (fun row hrow => ?_) ?_ fun key hkey => ?_
      · obtain ⟨entry, hentry, rfl⟩ := mem_map.mp hrow
        exact ⟨entry.2, lookup_eq_some_iff.mpr hentry, rfl⟩
      · rw [hkeys]
        exact link.journal.file.events.sorted
      · rw [hkeys]
        exact .inr hkey
    · exact hframe _ _
  · exact hframe _ _

theorem Tracks.refreshSnapshotBlocking (now : Int) (readable : Bool) :
    (link.refreshSnapshotBlocking now readable).Tracks encode n event committed acked sent := by
  have hblock : ∀ {link : LinkLoop} (blocked : Bool), link.Sound →
      link.Tracks encode n event committed acked sent →
      (link.pumped (link.pump.setSnapshotBlocked blocked)).Tracks encode n event committed acked
        sent := by
    intro link blocked hlink htracks
    have hmoved := hlink.setBlocked blocked
    unfold setSnapshotBlocked
    split
    · exact Tracks.pumped (htracks.turned (markStale_durable _)
        (.inl (markStale_inFlight _))) hmoved.marked
    · exact Tracks.pumped (htracks.turned rfl (.inl rfl)) hmoved
    · exact htracks.turned rfl (.inl rfl)
  unfold LinkLoop.refreshSnapshotBlocking
  split
  · dsimp only
    split
    · exact hblock _ hsound.reopened (reopened_rows h)
    · exact hblock _ hsound h
  · exact h.frame ⟨rfl, rfl, rfl, rfl, rfl, rfl⟩

theorem Tracks.applyDurableAcks (failing : List Nat) :
    (link.applyDurableAcks failing).Tracks encode n event committed acked sent := by
  obtain ⟨hreserved, hkeys⟩ := acknowledge_file link.journal.file
    (link.pendingAcks.filter fun seq => decide (seq ∉ failing))
  have honward : Journal.Onwards link.journal (link.applyDurableAcks failing).journal none :=
    hsound.numbered.quiet hreserved hkeys (.inl rfl)
  refine ⟨h.behind, h.offered.trans_le honward.onwards, fun hn => absurd hn not_mem_nil,
    fun hcommit => ?_⟩
  have hrow := h.row hcommit
  have hlook := acknowledge_lookup link.journal.file
    (link.pendingAcks.filter fun seq => decide (seq ∉ failing)) n
  refine ⟨hrow.positive, hrow.below.trans_le honward.onwards, fun stored hstores => ?_,
    hrow.framed, ?_, hrow.written⟩
  · rcases hlook with hsame | ⟨-, hgone⟩
    · exact hrow.same stored (hsame.symm.trans hstores)
    · exact absurd (hgone.symm.trans hstores) (by simp)
  rcases hlook with hsame | ⟨hret, -⟩
  · refine hrow.kept.imp_right fun ⟨hkey, hplace⟩ => ⟨?_, hplace⟩
    rw [mem_keys_iff] at hkey ⊢
    obtain ⟨stored, hstores⟩ := hkey
    exact ⟨stored, hsame.trans hstores⟩
  · exact .inl (h.retired (List.mem_of_mem_filter hret))

theorem Tracks.eventAcknowledged (hkeeps : link.KeepsDraw (.eventAcknowledged seq))
    (hacked : seq = n → acked) :
    (link.eventAcknowledged seq).Tracks encode n event committed acked sent := by
  have hcalled := hsound.acknowledges seq
  generalize link.eventAcknowledged seq = next at hcalled ⊢
  cases hcalled with
  | @released queued rest frame frames head number mirror =>
    have hrel := h.released hacked head number (mirror ▸ List.subset_cons_self frame frames)
      (link.durableBytes - frame.bytes.length)
    exact Tracks.pumped (Tracks.noteDurableAck hrel hacked)
      (Sound.noted (hsound.headReleased head mirror seq) seq)
  | turned unflown drawn durable inFlight nextSeq barrier =>
    have hturned := hsound.drawAcknowledged hkeeps unflown drawn durable inFlight nextSeq barrier
    exact Tracks.pumped ((h.turned durable (.inl inFlight)).noteDurableAck hacked)
      (hturned.noted seq)
  | ignored =>
    rw [← noteDurableAck_same]
    exact Tracks.noteDurableAck h hacked

theorem Tracks.authoriseSnapshot (hsteady : link.pump.Steady) (provided : Except String JournalEvent)
    (readable : Bool) (fault : Option Interruption) :
    (link.authoriseSnapshot encode provided readable fault).Tracks encode n event committed acked
      sent := by
  unfold LinkLoop.authoriseSnapshot
  split
  · exact h.frame ⟨rfl, rfl, rfl, rfl, rfl, rfl⟩
  rename_i hstage
  rw [not_or, not_not, Bool.not_eq_false] at hstage
  split
  · exact h
  dsimp only
  split
  · exact h.frame ⟨rfl, rfl, rfl, rfl, rfl, rfl⟩
  have hasked := asked_rows hsound readable fault
  generalize (if readable then
    link.journal.step (.snapshotSequence link.durableOfferedThrough fault)
    else (link.journal, .failed (.query "snapshot sequence" ""))) = asked at hasked ⊢
  obtain ⟨jrnl, answer⟩ := asked
  have hdrawn := h.ofJournal hasked.1 fun key _ => by rw [hasked.2]
  dsimp only
  split
  · rename_i seq
    have hkept : (link.pump.reassignSnapshotSequence seq).durable = link.pump.durable ∧
        (link.pump.reassignSnapshotSequence seq).inFlight = link.pump.inFlight := by
      unfold reassignSnapshotSequence
      split <;> exact ⟨rfl, rfl⟩
    have hnumber := hdrawn.turned hkept.1 (.inl hkept.2)
    have hclear : (link.pump.reassignSnapshotSequence seq).inFlight = none :=
      hkept.2.trans (hsteady.quiet (.inl hstage.2))
    split
    · exact hnumber.frame ⟨rfl, rfl, rfl, rfl, rfl, rfl⟩
    split
    · rename_i bytes _
      exact (hnumber.unflown hclear (some (.snapshot bytes))).frame ⟨rfl, rfl, rfl, rfl, rfl, rfl⟩
    · exact hnumber.frame ⟨rfl, rfl, rfl, rfl, rfl, rfl⟩
  · have hkept : link.pump.abandonSnapshot.durable = link.pump.durable ∧
        link.pump.abandonSnapshot.inFlight = link.pump.inFlight := by
      simp [abandonSnapshot, hstage.2]
    exact (hdrawn.turned hkept.1 (.inl hkept.2)).frame ⟨rfl, rfl, rfl, rfl, rfl, rfl⟩
  · exact hdrawn.frame ⟨rfl, rfl, rfl, rfl, rfl, rfl⟩

theorem Tracks.helloAcknowledged (negotiated : Bool)
    (hkeeps : link.KeepsDraw (.helloAcknowledged negotiated)) :
    (link.helloAcknowledged negotiated).Tracks encode n event committed acked sent := by
  have hturned := hsound.helloTurned hkeeps
  have htracks : Tracks encode n event { link with pump := { link.pump with barrier := .replay } }
      committed acked sent := h.turned rfl (.inl rfl)
  exact Tracks.pumped (htracks.frame ⟨rfl, rfl, rfl, rfl, rfl, rfl⟩)
    (hturned.frame ⟨rfl, rfl, rfl, rfl, rfl, rfl⟩)

theorem Tracks.restart (hkind : event.kind ≠ "agent_reference") (now : Int) (held : Bool) :
    (link.restart now held).Tracks encode n event committed acked sent' := by
  have hcrash := hsound.numbered.step .crash
  have hopen := hcrash.numbered.step (.openFile now)
  have honward : link.journal.upcoming ≤ (link.restart now held).journal.upcoming :=
    hcrash.onwards.trans hopen.onwards
  have hevents := link.restart_events now held
  refine ⟨fun queued hqueue => absurd hqueue not_mem_nil, ?_,
    fun hn => absurd hn not_mem_nil, fun hcommit => ?_⟩
  · exact (Nat.zero_le _).trans_lt (h.offered.trans_le honward)
  have hrow := h.row hcommit
  refine ⟨hrow.positive, hrow.below.trans_le honward, fun stored hstores => ?_,
    fun frame hframe => absurd hframe not_mem_nil, ?_, fun hfly => by cases hfly⟩
  · rw [hevents, discardRetiredEvents, lookup_retain, Option.filter_eq_some_iff] at hstores
    exact hrow.same stored hstores.1
  refine hrow.kept.imp_right fun ⟨hkey, _⟩ => ⟨?_, .inl hrow.positive⟩
  obtain ⟨stored, hstores⟩ := mem_keys_iff.mp hkey
  refine mem_keys_iff.mpr ⟨stored, ?_⟩
  rw [hevents, discardRetiredEvents, lookup_retain, Option.filter_eq_some_iff]
  refine ⟨hstores, ?_⟩
  rw [hrow.same stored hstores]
  simpa using hkind

end Sound

/-! ## Every call -/

/-- The lanes are open: the link is live, with no pong and no authorised write before them. -/
structure Open (link : LinkLoop) : Prop where
  quiet : (link.outbox.takeFrom .liveness).2 = none
  unauthorised : link.authorised = none
  live : link.pump.barrier = .live

/-- Everything `nextWrite` can choose. -/
inductive Chooses (link : LinkLoop) (now : Nat) (notified : Bool) (status : Option (List UInt8))
    (repair : List (List UInt8 × String)) : LinkLoop × Option NextWrite → Prop where
  | pong {outbox : Outbox} {frame : Pending}
      (taken : link.outbox.takeFrom .liveness = (outbox, some frame)) :
      Chooses link now notified status repair
        ({ link with outbox := outbox }, some (.queued frame))
  | durable {seq : Nat} (authorised : link.authorised = some (.durable seq)) :
      Chooses link now notified status repair
        ({ link with authorised := none }, some (.durable seq))
  | snapshot {bytes : List UInt8} (authorised : link.authorised = some (.snapshot bytes)) :
      Chooses link now notified status repair
        ({ link with authorised := none }, some (.snapshot bytes))
  | wait : Chooses link now notified status repair (link, none)
  | cells {outbox : Outbox} {frame : Pending} (lanes : link.Open)
      (owed : link.cellSink.writableOwed = true)
      (taken : link.outbox.takeFrom .terminal = (outbox, some frame)) :
      Chooses link now notified status repair
        ({ link with outbox := outbox }, some (.queued frame))
  | repair {queued : CellSink} {sink : CellSink} {frames : Outbox} (lanes : link.Open)
      (owed : link.cellSink.writableOwed = true) (first : notified = false)
      (written : link.durable = []) (drained : link.outbox.lanes .terminal = [])
      (told : queued = repair.foldl (fun sink frame => sink.enqueue frame.1 frame.2 now)
        { link.cellSink with writableOwed := false })
      (moved : queued.drainInto .new now = (sink, frames)) :
      Chooses link now notified status repair
        ({ link with cellSink := sink }, some (.repair (frames.lanes .terminal)))
  | status {bytes : List UInt8} :
      Chooses link now notified status repair (link, some (.agentStatus bytes))
  | lane (lanes : link.Open) (owed : link.cellSink.writableOwed = false) (still : status = none) :
      Chooses link now notified status repair
        ({ link with outbox := (link.outbox.drainOne now).1 },
          (link.outbox.drainOne now).2.map .queued)

theorem chooses (link : LinkLoop) (now : Nat) (notified : Bool) (status : Option (List UInt8))
    (repair : List (List UInt8 × String)) :
    Chooses link now notified status repair (link.nextWrite now notified status repair) := by
  unfold nextWrite
  split
  · rename_i htaken
    exact .pong htaken
  rename_i hquiet
  split
  · rename_i hauthority
    exact .durable hauthority
  · rename_i hauthority
    exact .snapshot hauthority
  rename_i hauthority
  split
  · exact .wait
  rename_i hlive
  have hopen : link.Open := by
    refine ⟨congrArg Prod.snd hquiet, hauthority, ?_⟩
    simpa [Barrier.allowsLiveTraffic] using hlive
  split
  · rename_i howed
    split
    · rename_i htaken
      exact .cells hopen howed htaken
    split
    · exact .wait
    rename_i hfirst
    unfold notifyWritable
    split
    · exact .wait
    · rename_i hwritten
      rw [not_or, not_not, not_not] at hwritten
      exact .repair hopen howed (by simpa using hfirst) hwritten.1 hwritten.2 rfl rfl
  · rename_i howed
    split
    · exact .status
    · exact .lane hopen (by simpa using howed) rfl

theorem Tracks.write (h : link.Tracks encode n event committed acked sent) (hsound : link.Sound)
    (now : Nat) (notified : Bool) (status : Option (List UInt8))
    (repair : List (List UInt8 × String))
    (hhand : ∀ frame, (link.write now notified status repair).2 = some (.durable n frame) →
      frame.seq = some n → encode event n = .ok frame.bytes → sent) :
    (link.write now notified status repair).1.Tracks encode n event committed acked sent := by
  have hchosen := link.chooses now notified status repair
  unfold LinkLoop.write at hhand ⊢
  generalize link.nextWrite now notified status repair = chosen at hchosen hhand ⊢
  cases hchosen with
  | @durable seq authorised =>
    have hrel : Tracks encode n event { link with authorised := none } committed acked sent := by
      refine { h with row := fun hcommit => ?_ }
      have hrow := h.row hcommit
      refine { hrow with written := fun hfly => .inr ?_ }
      rcases hrow.written hfly with hdue | hsent
      · rw [authorised, Option.some.injEq, Authorised.durable.injEq] at hdue
        subst hdue
        -- What is in flight heads the queue, and so the mirror.
        obtain ⟨_, _, hhead, hseq⟩ := hsound.aimed.head hfly
        have hmirrors := hsound.mirrored
        cases hdurable : link.durable with
        | nil => simp [hdurable, hhead] at hmirrors
        | cons frame =>
          simp only [hdurable, hhead, map_cons, cons.injEq, hseq] at hmirrors
          have hmem : frame ∈ link.durable := hdurable ▸ mem_cons_self
          exact hhand frame (by simp [hdurable]) hmirrors.1 (hrow.framed frame hmem hmirrors.1)
      · exact hsent
    dsimp only
    split <;> exact hrel
  | @snapshot bytes authorised =>
    refine h.reauthorised none fun _ hwritten => hwritten.imp_left fun hdue => ?_
    rw [authorised] at hdue
    cases hdue
  | lane =>
    cases (link.outbox.drainOne now).2 <;> exact h.frame ⟨rfl, rfl, rfl, rfl, rfl, rfl⟩
  | _ => exact h.frame ⟨rfl, rfl, rfl, rfl, rfl, rfl⟩

theorem serve_lookup (hsound : link.Sound) (op : LinkOp) {key : Nat} {stored : StoredEvent}
    (h : (link.serve encode op).1.journal.file.events.lookup key = some stored) :
    link.journal.file.events.lookup key = some stored := by
  have hsame : (link.serve encode op).1.journal = link.journal →
      link.journal.file.events.lookup key = some stored := fun hkept => hkept ▸ h
  cases op with
  | helloAcknowledged =>
    refine hsame ?_
    simp only [serve, helloAcknowledged, pumped, applyTo_journal]
  | eventAcknowledged clientSeq =>
    have hnoted : ∀ {link : LinkLoop}, (link.noteDurableAck clientSeq).journal = link.journal := by
      intro link
      unfold noteDurableAck
      split <;> rfl
    have hrel : (link.releaseAcknowledgedMirrorHead clientSeq).journal = link.journal := by
      unfold releaseAcknowledgedMirrorHead
      split
      · split <;> rfl
      · rfl
    refine hsame ?_
    simp only [serve, eventAcknowledged]
    split
    · rw [LinkLoop.pumped, applyTo_journal]
      exact hnoted
    · rw [LinkLoop.pumped, applyTo_journal]
      exact hnoted.trans hrel
  | applyDurableAcks failing =>
    rcases acknowledge_lookup link.journal.file
      (link.pendingAcks.filter fun seq => decide (seq ∉ failing)) key with hkept | ⟨-, hgone⟩
    · exact hkept.symm.trans h
    · exact absurd (hgone.symm.trans h) (by simp)
  | syncDurableRows =>
    refine hsame ?_
    simp only [serve, syncDurableRows]
    split
    · split
      · rw [offerNewRows_journal]
      · rfl
    · rfl
  | refreshSnapshotBlocking =>
    refine hsame ?_
    simp only [serve, refreshSnapshotBlocking]
    split
    · simp only [pumped, applyTo_journal]
      split
      · exact link.reopened_durable.1
      · rfl
    · rfl
  | authoriseSnapshot provided readable fault =>
    revert h
    simp only [serve, authoriseSnapshot]
    split
    · exact id
    split
    · exact id
    split
    · exact id
    rw [← (asked_rows hsound readable fault).2]
    split
    · split
      · exact id
      · split <;> exact id
    · exact id
    · exact id
  | noteDurableAppeared =>
    refine hsame ?_
    simp only [serve, noteDurableAppeared, pumped, applyTo_journal]
  | admitToLane =>
    refine hsame ?_
    simp only [serve, admitToLane]
    split
    · rfl
    · split <;> rfl
  | write now notified status repair =>
    exact hsame (link.sameDurable_write now notified status repair).journal
  | _ => exact h

variable {op : LinkOp}

theorem stores_of_step (hsound : link.Sound) (hop : ∀ call, op ≠ .session call)
    (h : (link.step encode op).1.Stores n event) : link.Stores n event := by
  obtain ⟨stored, hstores, hevent⟩ := h
  refine ⟨stored, ?_, hevent⟩
  have hserved : (if link.connected then link.serve encode op
      else (link, .done)).1.journal.file.events.lookup n = some stored →
      link.journal.file.events.lookup n = some stored := by
    split
    · exact serve_lookup hsound op
    · exact id
  cases op with
  | restart =>
    simp only [step, restart_events, discardRetiredEvents, lookup_retain,
      Option.filter_eq_some_iff] at hstores
    exact hstores.1
  | session call => exact absurd rfl (hop call)
  | onOpen =>
    simp only [step] at hstores
    split at hstores <;> exact hstores
  | noteStoreChanged | activate | queueCells _ _ | setAttached _ | discardQueued => exact hstores
  | _ => exact hserved hstores

def endsSocket : LinkOp → Bool
  | .detachLink | .restart _ _ => true
  | _ => false

theorem Tracks.serve (h : link.Tracks encode n event committed acked sent) (hsound : link.Sound)
    (hsteady : link.pump.Steady) (hkeeps : link.KeepsDraw op)
    (hack : op = .eventAcknowledged n → acked) (hlasts : endsSocket op = false)
    (hhand : ∀ frame, (link.serve encode op).2 = .handed (some (.durable n frame)) →
      frame.seq = some n → encode event n = .ok frame.bytes → sent) :
    (link.serve encode op).1.Tracks encode n event committed acked sent := by
  cases op with
  | helloAcknowledged negotiated => exact h.helloAcknowledged hsound negotiated hkeeps
  | eventAcknowledged =>
    exact h.eventAcknowledged hsound hkeeps fun hsame => hack (by rw [hsame])
  | applyDurableAcks failing => exact h.applyDurableAcks hsound failing
  | syncDurableRows readable => exact h.syncDurableRows hsound readable
  | refreshSnapshotBlocking now readable => exact h.refreshSnapshotBlocking hsound now readable
  | authoriseSnapshot provided readable fault =>
    exact h.authoriseSnapshot hsound hsteady provided readable fault
  | noteDurableAppeared =>
    exact Tracks.pumped (h.turned (markStale_durable _) (.inl (markStale_inFlight _))) hsound.marked
  | moveCellFramesInto => exact h.frame ⟨rfl, rfl, rfl, rfl, rfl, rfl⟩
  | admitToLane =>
    simp only [LinkLoop.serve, LinkLoop.admitToLane]
    split
    · exact h
    · split
      · exact h.frame ⟨rfl, rfl, rfl, rfl, rfl, rfl⟩
      · exact h
  | write now notified status repair =>
    refine h.write hsound now notified status repair fun frame hframe => ?_
    exact hhand frame (congrArg LinkAnswer.handed hframe)
  | detachLink | restart _ _ => cases hlasts
  | _ => exact h

/-- A step keeps a committed row stored until it is acknowledged. -/
theorem Tracks.step (h : link.Tracks encode n event committed acked sent) (hsound : link.Sound)
    (hsteady : link.pump.Steady) (hkeeps : link.KeepsDraw op)
    (hkind : event.kind ≠ "agent_reference") (hstores : link.Stores n event → committed)
    {committed' acked' : Prop}
    (hcommit : committed' → committed ∨ (link.step encode op).1.Stores n event)
    (hacked : acked → acked') (hack : op = .eventAcknowledged n → link.connected = true → acked')
    (hsent : endsSocket op = false → sent → sent')
    (hhand : ∀ frame, (link.step encode op).2 = .handed (some (.durable n frame)) →
      frame.seq = some n → encode event n = .ok frame.bytes → sent') :
    (link.step encode op).1.Tracks encode n event committed' acked' sent' := by
  -- A row is committed by a session's call, or was before.
  have hpre : (∀ call, op ≠ .session call) → committed' → committed := fun hop hnow =>
    (hcommit hnow).elim id fun hafter => hstores (stores_of_step hsound hop hafter)
  have hweaken : ∀ {next : LinkLoop}, (∀ call, op ≠ .session call) →
      next.Tracks encode n event committed acked' sent' →
      next.Tracks encode n event committed' acked' sent' := fun hop htracks =>
    ⟨htracks.behind, htracks.offered, htracks.retired, fun hnow => htracks.row (hpre hop hnow)⟩
  have hidle : endsSocket op = false → link.Tracks encode n event committed acked' sent' :=
    fun hlasts => h.mono hacked (hsent hlasts)
  have hserved : (∀ call, op ≠ .session call) → endsSocket op = false →
      link.step encode op = (if link.connected then link.serve encode op else (link, .done)) →
      (link.step encode op).1.Tracks encode n event committed' acked' sent' := by
    intro hop hlasts heq
    refine hweaken hop ?_
    rw [heq] at hhand ⊢
    split at hhand
    · rename_i hconn
      rw [if_pos hconn]
      exact (hidle hlasts).serve hsound hsteady hkeeps (fun hsame => hack hsame hconn) hlasts hhand
    · rename_i hconn
      rw [if_neg hconn]
      exact hidle hlasts
  cases op with
  | restart now held =>
    exact hweaken (by simp) ((h.mono hacked id).restart hsound hkind now held)
  | session call =>
    simp only [LinkLoop.step] at hcommit ⊢
    split at hcommit
    · rename_i hsess
      rw [if_pos hsess]
      exact (hidle rfl).session hsound hsess hstores hcommit
    rename_i hother
    rw [if_neg hother]
    have hmono := hidle rfl
    exact ⟨hmono.behind, hmono.offered, hmono.retired, fun hnow =>
      hmono.row ((hcommit hnow).elim id hstores)⟩
  | onOpen =>
    refine hweaken (by simp) ?_
    simp only [LinkLoop.step]
    split
    · exact (hidle rfl).onOpen
    · exact hidle rfl
  | noteStoreChanged | activate | queueCells _ _ | setAttached _ | discardQueued =>
    exact hweaken (by simp) ((hidle rfl).frame ⟨rfl, rfl, rfl, rfl, rfl, rfl⟩)
  | detachLink =>
    refine hweaken (by simp) ?_
    have hmono := h.mono hacked id
    simp only [LinkLoop.step]
    split
    · exact hmono.detachLink
    -- Without a socket nothing was in flight.
    rename_i hidle
    have hbarrier : link.pump.barrier = .idle := by simpa [connected] using hidle
    exact hmono.unflown (hsteady.quiet (.inr hbarrier)) link.authorised
  | _ => exact hserved (by simp) rfl rfl

end LinkLoop

end Roost.Worker.Link
