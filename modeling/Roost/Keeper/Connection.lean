-- SUMMARY: A connection's event loop, and when a shutdown was answered.
import Roost.Keeper.Dispatch

/-!
# Serving a connection

The loop answers what the worker sent, in order. The dispatcher decides by tag and
lane; the loop decides by tag, and takes a conditional shutdown as accepted when the
replies hold no refusal. The two agree only where the lanes do.
-/

namespace Roost.Keeper

/-- How a served connection ended, as far as its events decide it. -/
inductive ConnectionEnd where
  | shutdownIfEmptyAccepted
  | shutdownIfEmptyRefused
  | shutdownRequestedWithChannels
  | protocolViolation
  | workerUnreachable
  deriving DecidableEq

/-- One event of a batch, with what the host says while it is handled and whether its
replies reach the worker. -/
structure Encounter where
  event : StreamEvent
  host : Host
  written : Bool

namespace KeeperState

/-- Answer a batch of events, in order; `some` ends the connection. -/
def answerEvents (keeper : KeeperState) (codec : JsonCodec) (stopping : Bool) :
    List Encounter → KeeperState × Option ConnectionEnd
  | [] => (keeper, if stopping then some .shutdownRequestedWithChannels else none)
  | ⟨.failed _, _, _⟩ :: _ => (keeper, some .protocolViolation)
  | ⟨.item received, host, written⟩ :: events =>
    match received.frameType with
    -- A tag this build predates: the length was already read, so skipping is safe.
    | none => keeper.answerEvents codec stopping events
    | some frameType =>
      let frame := ⟨frameType, received.channelId, received.payload⟩
      let (keeper, replies) := keeper.handle codec host frame
      if !written then (keeper, some .workerUnreachable)
      else
        match frameType with
        | .shutdown => keeper.answerEvents codec true events
        | .shutdownIfEmpty =>
          let refused := replies.any fun reply => reply.frameType == .shutdownIfEmptyReject
          (keeper, some (if refused then .shutdownIfEmptyRefused else .shutdownIfEmptyAccepted))
        | _ => keeper.answerEvents codec stopping events

end KeeperState

/-! ## What the events ask for -/

namespace Encounter

/-- The frame an event carries, if this build knows its tag. -/
def frame? (encounter : Encounter) : Option MuxFrame :=
  match encounter.event with
  | .failed _ => none
  | .item received =>
    received.frameType.map fun frameType => ⟨frameType, received.channelId, received.payload⟩

def Asks (encounter : Encounter) (frameType : MuxFrameType) (channelId : UInt16) : Prop :=
  encounter.written = true ∧ ∃ frame, encounter.frame? = some frame ∧ frame.frameType = frameType ∧
      frame.channelId = channelId

/-- An event the loop goes on after: no violation, no failed write, and no conditional
shutdown. -/
def Passes (encounter : Encounter) : Prop :=
  match encounter.event with
  | .failed _ => False
  | .item received =>
    match received.frameType with
    | none => True
    | some frameType => encounter.written = true ∧ frameType ≠ .shutdownIfEmpty

end Encounter

namespace KeeperState

variable (keeper : KeeperState)

variable (codec : JsonCodec)

/-- The keeper after one event was handled. -/
def encounter (met : Encounter) : KeeperState :=
  match met.frame? with
  | none => keeper
  | some frame => (keeper.handle codec met.host frame).1

variable (events : List Encounter)

def after : KeeperState :=
  events.foldl (fun keeper met => keeper.encounter codec met) keeper

def Acknowledged : Prop :=
  ∃ past met rest frame, events = past ++ met :: rest ∧ met.frame? = some frame ∧
    frame.frameType = .shutdown ∧
    ∃ reply ∈ ((keeper.after codec past).handle codec met.host frame).2,
      reply.frameType = .shutdownAck

/-- A batch never ends as an accepted conditional shutdown, and ends as a requested one
only after a `Shutdown` that was acknowledged. -/
def NeverRetires : Prop :=
  (keeper.answerEvents codec false events).2 ≠ some .shutdownIfEmptyAccepted ∧
    ((keeper.answerEvents codec false events).2 = some .shutdownRequestedWithChannels →
      keeper.Acknowledged codec events)

/-- The conditional shutdown the loop gets to, if any, is on the control lane and finds
a channel still held; and when the loop gets to the end with a `Shutdown` seen, one of
them was on the control lane. -/
structure Orderly : Prop where
  ifEmpty : ∀ past met rest channelId, events = past ++ met :: rest →
    (∀ earlier ∈ past, earlier.Passes) → met.Asks .shutdownIfEmpty channelId →
    channelId = 0 ∧ (keeper.after codec past).isEmpty = false
  shutdown : (∀ met ∈ events, met.Passes) →
    (∃ met ∈ events, ∃ channelId, met.Asks .shutdown channelId) →
    ∃ met ∈ events, met.Asks .shutdown 0

/-! ## Walking a batch -/

variable {keeper : KeeperState} {codec : JsonCodec}

/-- An event carries a `Shutdown`. -/
def asksShutdown (met : Encounter) : Bool :=
  met.frame?.any fun frame => frame.frameType = .shutdown

theorem after_cons (keeper : KeeperState) (codec : JsonCodec) (met : Encounter)
    (events : List Encounter) :
    keeper.after codec (met :: events) = (keeper.encounter codec met).after codec events := rfl

variable {met : Encounter} {events : List Encounter}

theorem answerEvents_pass (hpass : met.Passes) (stopping : Bool) (events : List Encounter) :
    keeper.answerEvents codec stopping (met :: events) =
      (keeper.encounter codec met).answerEvents codec (stopping || asksShutdown met) events := by
  obtain ⟨event, _, written⟩ := met
  cases event with
  | failed => exact absurd hpass (by simp [Encounter.Passes])
  | item received =>
    obtain ⟨frameType, _⟩ := received
    cases frameType with
    | none => simp [answerEvents, encounter, asksShutdown, Encounter.frame?]
    | some frameType =>
      obtain ⟨hwritten, hother⟩ : written = true ∧ frameType ≠ .shutdownIfEmpty := hpass
      subst hwritten
      simp only [answerEvents, Bool.not_true, Bool.false_eq_true, if_false, encounter,
        asksShutdown, Encounter.frame?, Option.map_some, Option.any_some]
      split
      · simp
      · exact absurd rfl hother
      · rename_i hshutd _
        rw [decide_eq_false hshutd, Bool.or_false]

theorem answerEvents_append {past : List Encounter} (hpast : ∀ met ∈ past, met.Passes)
    (stopping : Bool) (events : List Encounter) :
    keeper.answerEvents codec stopping (past ++ events) =
      (keeper.after codec past).answerEvents codec (stopping || past.any asksShutdown) events := by
  induction past generalizing keeper stopping with
  | nil => simp [after]
  | cons met past ih =>
    rw [List.forall_mem_cons] at hpast
    rw [List.cons_append, answerEvents_pass hpast.1, ih hpast.2, after_cons, List.any_cons,
      Bool.or_assoc]

theorem answerEvents_all (hpass : ∀ met ∈ events, met.Passes) :
    (keeper.answerEvents codec false events).2 =
      if events.any asksShutdown then some .shutdownRequestedWithChannels else none := by
  have happend := @answerEvents_append keeper codec events hpass false []
  rw [List.append_nil] at happend
  rw [happend, Bool.false_or, answerEvents]

theorem handle_shutdownIfEmpty (host : Host) (channelId : UInt16) (payload : List UInt8) :
    ((keeper.handle codec host ⟨.shutdownIfEmpty, channelId, payload⟩).2.any
        fun reply => reply.frameType == .shutdownIfEmptyReject) = true ↔
      channelId = 0 ∧ keeper.isEmpty = false := by
  by_cases hlane : channelId = 0
  · have hframed : ∀ tag, MuxFrame.new tag 0 [] = .ok ⟨tag, 0, []⟩ := fun _ => rfl
    cases hempty : keeper.isEmpty <;>
      simp [handle, dispatch, hlane, shutdownIfEmpty, hempty, hframed, one, owed, Except.map]
  · simp [handle, dispatch, hlane, owed]

theorem answerEvents_stop (hstop : ¬met.Passes) (stopping : Bool) (events : List Encounter) :
    (keeper.answerEvents codec stopping (met :: events)).2 ≠ some .shutdownRequestedWithChannels ∧
      ((keeper.answerEvents codec stopping (met :: events)).2 ≠ some .shutdownIfEmptyAccepted ↔
        ∀ channelId, met.Asks .shutdownIfEmpty channelId →
          channelId = 0 ∧ keeper.isEmpty = false) := by
  obtain ⟨event, host, written⟩ := met
  cases event with
  | failed => simp [answerEvents, Encounter.Asks, Encounter.frame?]
  | item received =>
    obtain ⟨frameType, rawTag, channelId, payload⟩ := received
    cases frameType with
    | none => exact absurd trivial hstop
    | some frameType =>
      cases written with
      | false => simp [answerEvents, Encounter.Asks]
      | true =>
        have htype : frameType = .shutdownIfEmpty := by
          by_contra hother
          exact hstop ⟨rfl, hother⟩
        subst htype
        have href := @handle_shutdownIfEmpty keeper codec host channelId payload
        have hasks : (∀ channelId', Encounter.Asks
            ⟨.item ⟨some .shutdownIfEmpty, rawTag, channelId, payload⟩, host, true⟩
              .shutdownIfEmpty channelId' → channelId' = 0 ∧ keeper.isEmpty = false) ↔
            channelId = 0 ∧ keeper.isEmpty = false := by
          simp [Encounter.Asks, Encounter.frame?]
        rw [hasks, ← href]
        simp only [answerEvents, Bool.not_true, Bool.false_eq_true, if_false]
        split <;> simp_all

/-- A batch passes, or one encounter stops it. -/
theorem passes_or_stops (events : List Encounter) : (∀ met ∈ events, met.Passes) ∨
      ∃ past met rest, events = past ++ met :: rest ∧ (∀ earlier ∈ past, earlier.Passes) ∧
        ¬met.Passes := by
  induction events with
  | nil => exact .inl (by simp)
  | cons met events ih =>
    by_cases hpass : met.Passes
    · rcases ih with hall | ⟨past, stop, rest, rfl, hpast, hstop⟩
      · exact .inl (List.forall_mem_cons.mpr ⟨hpass, hall⟩)
      · exact .inr ⟨met :: past, stop, rest, rfl, List.forall_mem_cons.mpr ⟨hpass, hpast⟩, hstop⟩
    · exact .inr ⟨[], met, events, rfl, by simp, hpass⟩

theorem stop_unique {past past' rest rest' : List Encounter} {met' : Encounter}
    (h : past ++ met :: rest = past' ++ met' :: rest') (hpast : ∀ earlier ∈ past, earlier.Passes)
    (hpast' : ∀ earlier ∈ past', earlier.Passes) (hstop : ¬met.Passes) (hstop' : ¬met'.Passes) :
    past = past' ∧ met = met' := by
  induction past generalizing past' with
  | nil =>
    cases past' with
    | nil =>
      cases h
      exact ⟨rfl, rfl⟩
    | cons =>
      cases h
      exact absurd (hpast' met List.mem_cons_self) hstop
  | cons first past ih =>
    cases past' with
    | nil =>
      cases h
      exact absurd (hpast met' List.mem_cons_self) hstop'
    | cons =>
      obtain ⟨rfl, htail⟩ := List.cons.inj h
      rw [List.forall_mem_cons] at hpast hpast'
      obtain ⟨rfl, rfl⟩ := ih htail hpast.2 hpast'.2
      exact ⟨rfl, rfl⟩

/-! ## Batches -/

theorem not_passes_of_asks {channelId : UInt16}
    (h : met.Asks .shutdownIfEmpty channelId) : ¬met.Passes := by
  obtain ⟨event, _⟩ := met
  obtain ⟨-, _, hframe, htype, -⟩ := h
  cases event with
  | failed => cases hframe
  | item received =>
    intro hpass
    cases hknown : received.frameType with
    | none => simp [Encounter.frame?, hknown] at hframe
    | some =>
      simp only [Encounter.Passes, hknown] at hpass
      simp only [Encounter.frame?, hknown, Option.map_some, Option.some.injEq] at hframe
      rw [← hframe] at htype
      exact hpass.2 htype

theorem written_of_passes {frame : MuxFrame} (hpass : met.Passes)
    (hframe : met.frame? = some frame) : met.written = true := by
  obtain ⟨event, _⟩ := met
  cases event with
  | failed => cases hframe
  | item received =>
    cases hknown : received.frameType with
    | none => simp [Encounter.frame?, hknown] at hframe
    | some =>
      simp only [Encounter.Passes, hknown] at hpass
      exact hpass.1

theorem handle_shutdown {host : Host} {frame : MuxFrame} (htype : frame.frameType = .shutdown) :
    (∃ reply ∈ (keeper.handle codec host frame).2, reply.frameType = .shutdownAck) ↔
      frame.channelId = 0 := by
  by_cases hlane : frame.channelId = 0
  · have hframed : MuxFrame.new .shutdownAck 0 [] = .ok ⟨.shutdownAck, 0, []⟩ := rfl
    simp [handle, dispatch, htype, hlane, hframed, one, owed, Except.map]
  · simp [handle, dispatch, htype, hlane, owed]

theorem acknowledged_iff (hpass : ∀ met ∈ events, met.Passes) :
    keeper.Acknowledged codec events ↔ ∃ met ∈ events, met.Asks .shutdown 0 := by
  constructor
  · rintro ⟨past, met, rest, frame, rfl, hframe, htype, hreply⟩
    have hmem : met ∈ past ++ met :: rest := by simp
    refine ⟨met, hmem, written_of_passes (hpass met hmem) hframe, frame, hframe, htype, ?_⟩
    exact (handle_shutdown htype).mp hreply
  · rintro ⟨met, hmem, -, frame, hframe, htype, hlane⟩
    obtain ⟨past, rest, rfl⟩ := List.append_of_mem hmem
    exact ⟨past, met, rest, frame, rfl, hframe, htype, (handle_shutdown htype).mpr hlane⟩

theorem any_asksShutdown_iff (hpass : ∀ met ∈ events, met.Passes) :
    events.any asksShutdown = true ↔ ∃ met ∈ events, ∃ channelId, met.Asks .shutdown channelId := by
  rw [List.any_eq_true]
  constructor
  · rintro ⟨met, hmem, hasks⟩
    obtain ⟨frame, hframe, htype⟩ := (Option.any_eq_true _ _).mp hasks
    exact ⟨met, hmem, frame.channelId, written_of_passes (hpass met hmem) hframe, frame, hframe,
      of_decide_eq_true htype, rfl⟩
  · rintro ⟨met, hmem, channelId, -, frame, hframe, htype, -⟩
    exact ⟨met, hmem, by simp [asksShutdown, hframe, htype]⟩

/-- A batch of events leaves a busy keeper up, and takes a `Shutdown` for answered only
when it was, exactly when it is orderly: the conditional shutdown the loop gets to is on
the control lane and finds a channel, and a `Shutdown` seen to the end has one on the
control lane beside it. -/
theorem neverRetires_iff (keeper : KeeperState) (codec : JsonCodec) (events : List Encounter) :
    keeper.NeverRetires codec events ↔ keeper.Orderly codec events := by
  rcases passes_or_stops events with hpass | ⟨past, met, rest, rfl, hpast, hstop⟩
  · unfold NeverRetires
    rw [answerEvents_all hpass, acknowledged_iff hpass]
    constructor
    · rintro ⟨_, hack⟩
      refine ⟨?_, ?_⟩
      · intro past met rest channelId hevents _ hasks
        subst hevents
        exact absurd (hpass met (by simp)) (not_passes_of_asks hasks)
      intro _ hasked
      apply hack
      rw [(any_asksShutdown_iff hpass).mpr hasked]
      rfl
    · intro hord
      refine ⟨by split <;> simp, ?_⟩
      intro hend
      apply hord.shutdown hpass
      rw [← any_asksShutdown_iff hpass]
      by_contra hnone
      simp [hnone] at hend
  · obtain ⟨hnot, hret⟩ := @answerEvents_stop (keeper.after codec past) codec met
      hstop (past.any asksShutdown) rest
    unfold NeverRetires
    rw [answerEvents_append hpast, Bool.false_or, hret]
    constructor
    · rintro ⟨hlane, _⟩
      refine ⟨?_, ?_⟩
      · intro past' met' rest' channelId hevents hpast' hasks
        obtain ⟨rfl, rfl⟩ := stop_unique hevents hpast hpast' hstop (not_passes_of_asks hasks)
        exact hlane channelId hasks
      · intro hpass
        exact absurd (hpass met (by simp)) hstop
    · intro hord
      refine ⟨fun channelId hasks => hord.ifEmpty past met rest channelId rfl hpast hasks, ?_⟩
      intro hreq
      exact absurd hreq hnot

/-- A conditional shutdown on a channel's lane retires a keeper that holds a shell, and a
`Shutdown` on a channel's lane is taken for answered though nothing was. -/
theorem retires_shell : shellKeeper.isEmpty = false ∧ ¬shellKeeper.NeverRetires shellCodec
        [⟨.item ⟨some .shutdownIfEmpty, 0xEC, 7, []⟩, calmHost, true⟩] ∧
      ¬shellKeeper.NeverRetires shellCodec
        [⟨.item ⟨some .shutdown, 0xE8, 7, []⟩, calmHost, true⟩] := by
  refine ⟨by decide +kernel, ?_, ?_⟩
  · rintro ⟨hnever, _⟩
    exact hnever (by decide +kernel)
  rintro ⟨_, hack⟩
  obtain ⟨past, met, rest, frame, hevents, hframe, htype, hreply⟩ :=
    hack (by decide +kernel)
  rw [handle_shutdown htype] at hreply
  cases past with
  | nil =>
    cases hevents
    cases hframe
    cases hreply
  | cons => simp at hevents

end KeeperState

end Roost.Keeper
