-- SUMMARY: Buffering decoders read a stream the same however it was split.
import Mathlib.Data.List.Induction

/-!
# Stream decoders

A stream decoder looks at the buffered prefix of a stream and either waits for
more, gives up, or takes an item off the front. Draining repeats that until it
waits; giving up discards the buffer. The laws a decoder carries say that a
verdict never depends on what has not arrived yet, and from them every way of
splitting a stream decodes to the same items.
-/

namespace Roost

/-- What one look at the buffer decides. -/
inductive Scan (ε α : Type) where
  | wait
  | fail (e : ε)
  | item (a : α) (used : Nat)

/-- What a decoder reports to its caller. -/
inductive Decoded (ε α : Type) where
  | item (a : α)
  | failed (e : ε)

/-- A decoder whose verdicts are final: an item or a failure found in a prefix is
still found when more of the stream is there. A failure may be described
differently then. -/
structure StreamDecoder (β ε α : Type) where
  scan : List β → Scan ε α
  used_pos : ∀ {buf a used}, scan buf = .item a used → 0 < used
  used_le : ∀ {buf a used}, scan buf = .item a used → used ≤ buf.length
  item_append : ∀ {buf a used} more, scan buf = .item a used → scan (buf ++ more) = .item a used
  fail_append : ∀ {buf e} more, scan buf = .fail e → ∃ e', scan (buf ++ more) = .fail e'

namespace StreamDecoder

variable {β ε α : Type} (D : StreamDecoder β ε α)

/-- Take every item the buffer holds; keep the rest, or nothing after a failure. -/
def drain (buf : List β) : List (Decoded ε α) × List β :=
  match _h : D.scan buf with
  | .wait => ([], buf)
  | .fail e => ([.failed e], [])
  | .item a used =>
    let rest := drain (buf.drop used)
    (.item a :: rest.1, rest.2)
termination_by buf.length
decreasing_by
  have hpos := D.used_pos _h
  have hle := D.used_le _h
  simp only [List.length_drop]
  omega

/-- Feed a stream chunk by chunk into a decoder that already buffers `buf`. -/
def feed : List β → List (List β) → List (Decoded ε α) × List β
  | buf, [] => ([], buf)
  | buf, chunk :: chunks =>
    let now := D.drain (buf ++ chunk)
    let later := feed now.2 chunks
    (now.1 ++ later.1, later.2)

/-- No failure was reported. -/
def Clean (events : List (Decoded ε α)) : Prop := ∀ e, .failed e ∉ events

@[simp] theorem clean_nil : Clean ([] : List (Decoded ε α)) := by simp [Clean]

variable {a : α} {e : ε} {xs ys events : List (Decoded ε α)} {buf more : List β} {chunks : List (List β)}

@[simp] theorem clean_item :
    Clean (.item a :: events) ↔ Clean events := by simp [Clean]

@[simp] theorem not_clean_failed : ¬Clean (.failed e :: events) := by
  intro h
  exact h e (by simp)

@[simp] theorem clean_append : Clean (xs ++ ys) ↔ Clean xs ∧ Clean ys := by
  simp only [Clean, List.mem_append, not_or]
  exact forall_and

theorem clean_map_item (xs : List α) : Clean (xs.map (Decoded.item (ε := ε))) := by
  simp [Clean]

variable {D}

theorem drain_wait (h : D.scan buf = .wait) : D.drain buf = ([], buf) := by
  rw [drain]
  split <;> simp_all

theorem drain_fail (h : D.scan buf = .fail e) : D.drain buf = ([.failed e], []) := by
  rw [drain]
  split <;> simp_all

theorem drain_item {used : Nat} (h : D.scan buf = .item a used) :
    D.drain buf = (.item a :: (D.drain (buf.drop used)).1, (D.drain (buf.drop used)).2) := by
  rw [drain]
  split <;> simp_all

theorem drain_item_append (h : D.scan buf = .item a buf.length) :
    D.drain (buf ++ more) = (.item a :: (D.drain more).1, (D.drain more).2) := by
  rw [drain_item (D.item_append more h), List.drop_left]

theorem drain_fail_append (h : D.scan buf = .fail e) : ¬Clean (D.drain (buf ++ more)).1 := by
  obtain ⟨_, h'⟩ := D.fail_append more h
  simp [drain_fail h']

theorem drop_append_of_item {used : Nat}
    (h : D.scan buf = .item a used) : (buf ++ more).drop used = buf.drop used ++ more :=
  List.drop_append_of_le_length (D.used_le h)

theorem scan_drain_rest (buf : List β) (clean : Clean (D.drain buf).1) :
    D.scan (D.drain buf).2 = .wait := by
  induction hn : buf.length using Nat.strongRecOn generalizing buf with
  | ind n ih =>
    cases h : D.scan buf with
    | wait => rw [drain_wait h]; exact h
    | fail => simp [drain_fail h] at clean
    | item a used =>
      have hpos := D.used_pos h
      have hle := D.used_le h
      rw [drain_item h] at clean ⊢
      exact ih (buf.drop used).length (by rw [List.length_drop]; omega) (buf.drop used)
        (clean_item.mp clean) rfl

theorem drain_append (buf more : List β) (clean : Clean (D.drain buf).1) : D.drain (buf ++ more) =
      ((D.drain buf).1 ++ (D.drain ((D.drain buf).2 ++ more)).1,
        (D.drain ((D.drain buf).2 ++ more)).2) := by
  induction hn : buf.length using Nat.strongRecOn generalizing buf with
  | ind n ih =>
    cases h : D.scan buf with
    | wait => simp [drain_wait h]
    | fail => simp [drain_fail h] at clean
    | item a used =>
      have hpos := D.used_pos h
      have hle := D.used_le h
      rw [drain_item h] at clean ⊢
      rw [drain_item (D.item_append more h), drop_append_of_item h,
        ih (buf.drop used).length (by rw [List.length_drop]; omega) (buf.drop used)
          (clean_item.mp clean) rfl]
      rfl

theorem clean_of_append (clean : Clean (D.drain (buf ++ more)).1) : Clean (D.drain buf).1 := by
  induction hn : buf.length using Nat.strongRecOn generalizing buf with
  | ind n ih =>
    cases h : D.scan buf with
    | wait => simp [drain_wait h]
    | fail => exact absurd clean (drain_fail_append h)
    | item a used =>
      have hpos := D.used_pos h
      have hle := D.used_le h
      rw [drain_item (D.item_append more h), clean_item, drop_append_of_item h] at clean
      rw [drain_item h, clean_item]
      exact ih (buf.drop used).length (by rw [List.length_drop]; omega) clean rfl

/-- A clean stream decodes alike however it is split. -/
theorem feed_eq_drain (hbuf : D.scan buf = .wait)
    (clean : Clean (D.drain (buf ++ chunks.flatten)).1) :
    D.feed buf chunks = D.drain (buf ++ chunks.flatten) := by
  induction chunks generalizing buf with
  | nil => simp [feed, drain_wait hbuf]
  | cons chunk chunks ih =>
    rw [List.flatten_cons, ← List.append_assoc] at clean ⊢
    have hfirst := clean_of_append clean
    rw [drain_append _ _ hfirst] at clean ⊢
    rw [feed, ih (scan_drain_rest _ hfirst) (clean_append.mp clean).2]

theorem clean_drain_of_feed (hbuf : D.scan buf = .wait)
    (clean : Clean (D.feed buf chunks).1) : Clean (D.drain (buf ++ chunks.flatten)).1 := by
  induction chunks generalizing buf with
  | nil => simp [drain_wait hbuf]
  | cons chunk chunks ih =>
    rw [feed, clean_append] at clean
    rw [List.flatten_cons, ← List.append_assoc, drain_append _ _ clean.1, clean_append]
    exact ⟨clean.1, ih (scan_drain_rest _ clean.1) clean.2⟩

/-! ## Streams that fail -/

def itemsBeforeFailure : List (Decoded ε α) → List α
  | [] => []
  | .failed _ :: _ => []
  | .item a :: events => a :: itemsBeforeFailure events

theorem itemsBeforeFailure_append_of_clean (clean : Clean xs) :
    itemsBeforeFailure (xs ++ ys) = itemsBeforeFailure xs ++ itemsBeforeFailure ys := by
  induction xs with
  | nil => rfl
  | cons x xs ih =>
    cases x with
    | failed => exact absurd clean not_clean_failed
    | item => simp [itemsBeforeFailure, ih (clean_item.mp clean)]

theorem itemsBeforeFailure_append_of_failed (failed : ¬Clean xs) :
    itemsBeforeFailure (xs ++ ys) = itemsBeforeFailure xs := by
  induction xs with
  | nil => exact absurd clean_nil failed
  | cons x xs ih =>
    cases x with
    | failed => rfl
    | item => simp [itemsBeforeFailure, ih (fun clean => failed (clean_item.mpr clean))]

theorem itemsBeforeFailure_drain_append (more : List β) (failed : ¬Clean (D.drain buf).1) :
    itemsBeforeFailure (D.drain (buf ++ more)).1 = itemsBeforeFailure (D.drain buf).1 := by
  induction hn : buf.length using Nat.strongRecOn generalizing buf with
  | ind n ih =>
    cases h : D.scan buf with
    | wait => simp [drain_wait h] at failed
    | fail =>
      obtain ⟨_, h'⟩ := D.fail_append more h
      rw [drain_fail h, drain_fail h']
      rfl
    | item a used =>
      have hpos := D.used_pos h
      have hle := D.used_le h
      rw [drain_item h, clean_item] at failed
      rw [drain_item h, drain_item (D.item_append more h), drop_append_of_item h]
      simp only [itemsBeforeFailure, List.cons.injEq, true_and]
      exact ih (buf.drop used).length (by rw [List.length_drop]; omega) failed rfl

theorem itemsBeforeFailure_feed (hbuf : D.scan buf = .wait) :
    itemsBeforeFailure (D.feed buf chunks).1 =
      itemsBeforeFailure (D.drain (buf ++ chunks.flatten)).1 := by
  induction chunks generalizing buf with
  | nil => simp [feed, drain_wait hbuf]
  | cons chunk chunks ih =>
    rw [feed, List.flatten_cons, ← List.append_assoc]
    by_cases hfirst : Clean (D.drain (buf ++ chunk)).1
    · rw [drain_append _ _ hfirst, itemsBeforeFailure_append_of_clean hfirst,
        itemsBeforeFailure_append_of_clean hfirst, ih (scan_drain_rest _ hfirst)]
    · rw [itemsBeforeFailure_drain_append _ hfirst, itemsBeforeFailure_append_of_failed hfirst]

theorem clean_feed_iff (hbuf : D.scan buf = .wait) :
    Clean (D.feed buf chunks).1 ↔ Clean (D.drain (buf ++ chunks.flatten)).1 := by
  refine ⟨clean_drain_of_feed hbuf, ?_⟩
  intro clean
  rw [feed_eq_drain hbuf clean]
  exact clean

theorem scan_drain_waits (hnil : D.scan [] = .wait) (buf : List β) :
    D.scan (D.drain buf).2 = .wait := by
  induction hn : buf.length using Nat.strongRecOn generalizing buf with
  | ind n ih =>
    cases h : D.scan buf with
    | wait => rw [drain_wait h]; exact h
    | fail => rw [drain_fail h]; exact hnil
    | item a used =>
      have hpos := D.used_pos h
      have hle := D.used_le h
      rw [drain_item h]
      exact ih (buf.drop used).length (by rw [List.length_drop]; omega) (buf.drop used) rfl

theorem scan_feed_waits (hnil : D.scan [] = .wait) (chunks : List (List β))
    (hbuf : D.scan buf = .wait) : D.scan (D.feed buf chunks).2 = .wait := by
  induction chunks generalizing buf with
  | nil => exact hbuf
  | cons chunk chunks ih => exact ih (scan_drain_waits hnil (buf ++ chunk))

end StreamDecoder
end Roost
