-- SUMMARY: A caller's request budget, whatever the other callers do.
import Roost.Base.Transducer
import Roost.Protocol.TerminalView.Record

/-!
# Request budgets

One bucket table serves every method and caller. A bucket is made when a window opens, and an
elapsed one stays until its own caller opens another or a full table is pruned. A caller's own
calls, in order, are those of a budget that knows no one else.
-/

namespace Roost.Coord

open List Transducer

/-- Instants and spans are counted in nanoseconds. -/
def rateLimitWindow : Nat := 60 * 10 ^ 9

def defaultTokensPerWindow : Nat := 100

def pairPollTokensPerWindow : Nat := 600

inductive RateLimitBucket where
  | sensitive | pairPoll
  deriving DecidableEq

namespace RateLimitBucket

/-- The requests this bucket allows per window. -/
def tokensPerWindow : RateLimitBucket → Nat
  | .sensitive => defaultTokensPerWindow
  | .pairPoll => pairPollTokensPerWindow

/-- The window this bucket is spent over. -/
def window : RateLimitBucket → Nat
  | .sensitive | .pairPoll => rateLimitWindow

end RateLimitBucket

inductive RateLimitRefusalReason where
  /-- The caller's own window budget is spent. -/
  | budget
  /-- The table is full and could not be pruned. -/
  | atCapacity
  deriving DecidableEq

structure RateLimitRefusal where
  bucket : RateLimitBucket
  reason : RateLimitRefusalReason
  retryAfterSeconds : Nat
  firstInWindow : Bool
  deriving DecidableEq

structure Bucket where
  remaining : Nat
  resetAt : Nat
  rate : RateLimitBucket
  refusalReported : Bool

structure BucketTable where
  buckets : Table (String × String) Bucket
  maxBuckets : Nat
  capacityReportedAt : Option Nat

/-- Whole seconds in a span, rounded up and never zero. -/
def secondsIn (span : Nat) : Nat := min (max ((span / 10 ^ 6 + 999) / 1000) 1) u64Max

/-- Spend one request from a live window, or refuse it without spending. -/
def charge (bucket : Bucket) (window now : Nat) : Bucket × Option RateLimitRefusal :=
  if bucket.remaining > 0 then ({ bucket with remaining := bucket.remaining - 1 }, none)
  else
    ({ bucket with refusalReported := true },
      some
        { bucket := bucket.rate
          reason := .budget
          retryAfterSeconds := secondsIn (min (bucket.resetAt - now) window)
          firstInWindow := !bucket.refusalReported })

namespace BucketTable

def new (maxBuckets : Nat) : BucketTable where
  buckets := ∅
  maxBuckets
  capacityReportedAt := none

/-- A full table forgets the buckets whose window has elapsed. -/
def pruned (table : BucketTable) (now : Nat) : Table (String × String) Bucket :=
  if table.buckets.keys.length ≥ table.maxBuckets then
    table.buckets.retain fun _ bucket => decide (now < bucket.resetAt)
  else table.buckets

/-- Open a window on a table that has room for it, or refuse. -/
def openWindow (table : BucketTable) (key : String × String) (rate : RateLimitBucket)
    (now : Nat) : BucketTable × Option RateLimitRefusal :=
  let buckets := table.pruned now
  if buckets.keys.length ≥ table.maxBuckets then
    ({ table with buckets },
      some
        { bucket := rate
          reason := .atCapacity
          retryAfterSeconds := secondsIn rate.window
          firstInWindow := table.capacityReportedAt.all fun reported =>
            decide (now ≥ reported + rate.window) })
  else
    ({ table with
        buckets := buckets.insert key
          { remaining := rate.tokensPerWindow - 1
            resetAt := now + rate.window
            rate
            refusalReported := false } },
      none)

/-- Spend one request from this caller's window, or refuse it. -/
def spend (table : BucketTable) (method caller : String) (rate : RateLimitBucket) (now : Nat) :
    BucketTable × Option RateLimitRefusal :=
  match table.buckets.lookup (method, caller) with
  | some bucket =>
    if now < bucket.resetAt ∧ bucket.rate = rate then
      let charged := charge bucket rate.window now
      ({ table with buckets := table.buckets.insert (method, caller) charged.1 }, charged.2)
    else table.openWindow (method, caller) rate now
  | none => table.openWindow (method, caller) rate now

end BucketTable

structure SpendCall where
  method : String
  caller : String
  now : Nat

def SpendCall.key (call : SpendCall) : String × String := (call.method, call.caller)

/-- The table over the calls of a run, with one rate for each method. -/
def spending (rateOf : String → RateLimitBucket) :
    Transducer BucketTable SpendCall (Option RateLimitRefusal) where
  step table call := table.spend call.method call.caller (rateOf call.method) call.now

/-! ## The budget of one caller -/

/-- A window: when it opened, what was admitted in it, and whether a refusal was told. -/
structure Window where
  opened : Nat
  spent : Nat
  reported : Bool

variable (rate : RateLimitBucket)

/-- A caller's budget, when there is no one else. -/
def budget : Transducer (Option Window) Nat (Option RateLimitRefusal) where
  step
    | some window, now =>
      if now < window.opened + rate.window then
        if window.spent < rate.tokensPerWindow then
          (some { window with spent := window.spent + 1 }, none)
        else
          (some { window with reported := true },
            some
              { bucket := rate
                reason := .budget
                retryAfterSeconds := secondsIn (min (window.opened + rate.window - now) rate.window)
                firstInWindow := !window.reported })
      else (some ⟨now, 1, false⟩, none)
    | none, now => (some ⟨now, 1, false⟩, none)

/-- The window an admission is in, given the start of the last one and what was admitted in it. -/
def enter : Option (Nat × Nat) → Nat → Option (Nat × Nat)
  | some (start, spent), now =>
    if now < start + rate.window then some (start, spent + 1) else some (now, 1)
  | none, now => some (now, 1)

/-- The last window of a caller's admissions: each is opened by the first admission after the
one before it ended. -/
def lastWindow (admissions : List Nat) : Option (Nat × Nat) :=
  admissions.foldl (enter rate) none

/-- What was admitted of a caller's calls. -/
def admitted (own : List (Nat × Option RateLimitRefusal)) : List Nat :=
  (own.filter fun entry => entry.2.isNone).map Prod.fst

/-- The windows of a budget are those of its admissions, and none is overspent. -/
theorem lastWindow_budget (nows : List Nat) :
    lastWindow rate (admitted ((budget rate).trace none nows)) =
        ((budget rate).run none nows).map (fun win => (win.opened, win.spent)) ∧
      ∀ win ∈ (budget rate).run none nows, win.spent ≤ rate.tokensPerWindow := by
  induction nows using List.reverseRecOn with
  | nil => exact ⟨rfl, fun _ hnone => nomatch hnone⟩
  | append_singleton nows now ih =>
    obtain ⟨hlast, hspent⟩ := ih
    have hpos : 1 ≤ rate.tokensPerWindow := by cases rate <;> decide
    rw [run_concat, trace_concat, admitted, filter_append, map_append, lastWindow, foldl_append]
    rw [lastWindow, admitted] at hlast
    rw [hlast]
    cases hrun : (budget rate).run none nows with
    | none =>
      simp only [Transducer.next, answer, budget]
      exact ⟨rfl, fun win hwindow => by cases hwindow; exact hpos⟩
    | some held =>
      have hheld := hspent held hrun
      simp only [Transducer.next, answer, budget]
      split_ifs with hlive hroom
      · refine ⟨by simp [enter, hlive], fun win hwindow => ?_⟩
        cases hwindow
        exact hroom
      · refine ⟨by simp, fun win hwindow => ?_⟩
        cases hwindow
        exact hheld
      · refine ⟨by simp [enter, hlive], fun win hwindow => ?_⟩
        cases hwindow
        exact hpos

theorem budget_opens {rate : RateLimitBucket} {win : Option Window} {now : Nat}
    (hover : ∀ held ∈ win, held.opened + rate.window ≤ now) :
    (budget rate).step win now = (some ⟨now, 1, false⟩, none) := by
  cases win with
  | none => rfl
  | some held => exact if_neg (Nat.not_lt.mpr (hover held rfl))

/-! ## The table follows the budgets -/

def Window.bucket (window : Window) : Bucket where
  remaining := rate.tokensPerWindow - window.spent
  resetAt := window.opened + rate.window
  rate
  refusalReported := window.reported

/-- A caller's entry is its window, unless that has elapsed and was forgotten. -/
def Follows (entry : Option Bucket) (window : Option Window)
    (now : Nat) : Prop :=
  entry = window.map (·.bucket rate) ∨
    entry = none ∧ ∀ held ∈ window, held.opened + rate.window ≤ now

/-- The refusal is the table's, not the budget's. -/
def atCapacity (answer : Option RateLimitRefusal) : Bool :=
  answer.any fun refusal => decide (refusal.reason = .atCapacity)

section Step

variable {table : BucketTable} {rate : RateLimitBucket} {window : Option Window} {now : Nat}
  {key : String × String}

theorem Follows.later {entry : Option Bucket} (h : Follows rate entry window now) {later : Nat}
    (hle : now ≤ later) : Follows rate entry window later := by
  obtain hsame | ⟨hnone, hover⟩ := h
  · exact .inl hsame
  · exact .inr ⟨hnone, fun held hheld => (hover held hheld).trans hle⟩

theorem Follows.pruned (h : Follows rate (table.buckets.lookup key) window now) :
    Follows rate ((table.pruned now).lookup key) window now := by
  unfold BucketTable.pruned
  split
  · rw [Table.lookup_retain]
    obtain hsame | ⟨hnone, hover⟩ := h
    · rw [hsame]
      cases window with
      | none => exact .inl rfl
      | some held =>
        by_cases hlive : now < held.opened + rate.window
        · exact .inl (by simp [Window.bucket, hlive])
        have hover : held.opened + rate.window ≤ now := Nat.not_lt.mp hlive
        refine .inr ⟨by simpa [Window.bucket] using hover, fun _ hheld => ?_⟩
        cases hheld
        exact hover
    · rw [hnone]
      exact .inr ⟨rfl, hover⟩
  · exact h

/-- A call is answered as the caller's budget answers it, or by a full table when the caller has no
window. -/
def Served (rate : RateLimitBucket) (key : String × String)
    (result : BucketTable × Option RateLimitRefusal) (window : Option Window) (now : Nat) : Prop :=
  (atCapacity result.2 = true ∧ (∀ held ∈ window, held.opened + rate.window ≤ now) ∧
      Follows rate (result.1.buckets.lookup key) window now) ∨
    atCapacity result.2 = false ∧ result.2 = (budget rate).answer window now ∧
      Follows rate (result.1.buckets.lookup key) ((budget rate).next window now) now

theorem openWindow_served (h : Follows rate (table.buckets.lookup key) win now)
    (hover : ∀ held ∈ win, held.opened + rate.window ≤ now) :
    Served rate key (table.openWindow key rate now) win now := by
  rw [Served, answer, Transducer.next, budget_opens hover]
  unfold BucketTable.openWindow
  dsimp only
  split
  · exact .inl ⟨rfl, hover, h.pruned⟩
  · refine .inr ⟨rfl, rfl, .inl ?_⟩
    rw [Table.lookup_insert, if_pos rfl]
    rfl

theorem spend_served {method caller : String}
    (h : Follows rate (table.buckets.lookup (method, caller)) window now) :
    Served rate (method, caller) (table.spend method caller rate now) window now := by
  have hopens := openWindow_served h
  unfold BucketTable.spend
  obtain hsame | ⟨hnone, hover⟩ := h
  · rw [hsame]
    cases window with
    | none => exact hopens fun _ hheld => nomatch hheld
    | some held =>
      dsimp only [Option.map_some]
      split
      · rename_i hbucket
        have hlive : now < held.opened + rate.window := hbucket.1
        have hroom : rate.tokensPerWindow - held.spent > 0 ↔ held.spent < rate.tokensPerWindow :=
          Nat.sub_pos_iff_lt
        -- A live window is charged as the budget is.
        refine .inr ?_
        simp only [Table.lookup_insert, if_true, answer, Transducer.next, budget, if_pos hlive,
          charge, Window.bucket, hroom]
        split <;> exact ⟨rfl, rfl, .inl rfl⟩
      · rename_i hdead
        refine hopens fun other hother => ?_
        cases hother
        exact Nat.not_lt.mp fun hlive => hdead ⟨hlive, rfl⟩
  · rw [hnone]
    exact hopens hover

theorem spend_others {method caller : String} {rate' : RateLimitBucket}
    (hkey : key ≠ (method, caller)) (h : Follows rate (table.buckets.lookup key) window now) :
    Follows rate ((table.spend method caller rate' now).1.buckets.lookup key) window now := by
  have hopened : Follows rate
      ((table.openWindow (method, caller) rate' now).1.buckets.lookup key) window now := by
    unfold BucketTable.openWindow
    dsimp only
    split
    · exact h.pruned
    · rw [Table.lookup_insert, if_neg hkey]
      exact h.pruned
  unfold BucketTable.spend
  split
  · split
    · dsimp only
      rw [Table.lookup_insert, if_neg hkey]
      exact h
    · exact hopened
  · exact hopened

/-- The table of buckets stays bounded. -/
theorem spend_bounded {method caller : String} (h : table.buckets.keys.length ≤ table.maxBuckets) :
    (table.spend method caller rate now).1.maxBuckets = table.maxBuckets ∧
      (table.spend method caller rate now).1.buckets.keys.length ≤ table.maxBuckets := by
  have hpruned : (table.pruned now).keys.length ≤ table.maxBuckets := by
    unfold BucketTable.pruned
    split
    · exact ((filter_sublist.map Sigma.fst).length_le).trans h
    · exact h
  have hopened : (table.openWindow (method, caller) rate now).1.maxBuckets = table.maxBuckets ∧
      (table.openWindow (method, caller) rate now).1.buckets.keys.length ≤ table.maxBuckets := by
    unfold BucketTable.openWindow
    dsimp only
    split
    · exact ⟨rfl, hpruned⟩
    · rename_i hroom
      exact ⟨rfl, Table.length_keys_insert_le.trans (Nat.not_le.mp hroom)⟩
  unfold BucketTable.spend
  split
  · rename_i hbucket
    split
    · refine ⟨rfl, ?_⟩
      dsimp only
      rw [Table.length_keys_insert hbucket]
      exact h
    · exact hopened
  · exact hopened

end Step

/-! ## Runs -/

section Runs

variable (rateOf : String → RateLimitBucket) (maxBuckets : Nat) (key : String × String)
  (calls : List SpendCall)

def tableAfter : BucketTable := (spending rateOf).run (.new maxBuckets) calls

/-- A caller's calls, each with its instant and its answer. -/
def answered : List (Nat × Option RateLimitRefusal) :=
  ((spending rateOf).trace (.new maxBuckets) calls).filterMap fun entry =>
    if entry.1.key = key then some (entry.1.now, entry.2) else none

/-- The calls among them that the budget decided. -/
def charged : List (Nat × Option RateLimitRefusal) :=
  (answered rateOf maxBuckets key calls).filter fun entry => !atCapacity entry.2

/-- The last window of what was admitted of a caller's calls. -/
def lastAdmitted : Option (Nat × Nat) :=
  lastWindow (rateOf key.1) (admitted (answered rateOf maxBuckets key calls))

def Chronological : Prop := calls.Pairwise fun earlier later => earlier.now ≤ later.now

variable {rateOf maxBuckets key calls}

theorem answered_concat (call : SpendCall) : answered rateOf maxBuckets key (calls ++ [call]) =
      answered rateOf maxBuckets key calls ++ if call.key = key then
          [(call.now, (spending rateOf).answer (tableAfter rateOf maxBuckets calls) call)]
        else [] := by
  rw [answered, trace_concat, filterMap_append]
  split
  · rename_i hkey
    simp [answered, tableAfter, hkey]
  · rename_i hkey
    simp [answered, hkey]

theorem answered_calls : (answered rateOf maxBuckets key calls).map Prod.fst =
    (calls.filter fun call => decide (call.key = key)).map SpendCall.now := by
  induction calls using List.reverseRecOn with
  | nil => rfl
  | append_singleton calls call ih =>
    rw [answered_concat, map_append, ih, filter_append, map_append]
    split
    · rename_i hkey
      simp [hkey]
    · rename_i hkey
      simp [hkey]

theorem admitted_charged : admitted (charged rateOf maxBuckets key calls) =
      admitted (answered rateOf maxBuckets key calls) := by
  rw [admitted, charged, filter_filter]
  refine congrArg (map Prod.fst) (filter_congr fun entry _ => ?_)
  cases entry.2 with
  | none | some => rfl

theorem charged_concat (call : SpendCall) : charged rateOf maxBuckets key (calls ++ [call]) =
      charged rateOf maxBuckets key calls ++
        if call.key = key ∧ atCapacity ((spending rateOf).answer
            (tableAfter rateOf maxBuckets calls) call) = false then
          [(call.now, (spending rateOf).answer (tableAfter rateOf maxBuckets calls) call)]
        else [] := by
  rw [charged, answered_concat, filter_append]
  by_cases hkey : call.key = key
  · cases hfull : atCapacity ((spending rateOf).answer (tableAfter rateOf maxBuckets calls) call) <;>
      simp [charged, hkey, hfull]
  · simp [charged, hkey]

/-- The calls a caller's budget decided are a run of that budget, and the caller's entry follows its
window. -/
theorem charged_run (rateOf : String → RateLimitBucket) (maxBuckets : Nat) (key : String × String)
    (horder : Chronological calls) :
    charged rateOf maxBuckets key calls = (budget (rateOf key.1)).trace none
        ((charged rateOf maxBuckets key calls).map Prod.fst) ∧
      ∀ now, (∀ call ∈ calls, call.now ≤ now) →
        Follows (rateOf key.1) ((tableAfter rateOf maxBuckets calls).buckets.lookup key)
          ((budget (rateOf key.1)).run none
            ((charged rateOf maxBuckets key calls).map Prod.fst)) now := by
  induction calls using List.reverseRecOn with
  | nil => exact ⟨rfl, fun _ _ => .inl rfl⟩
  | append_singleton calls call ih =>
    obtain ⟨hearlier, -, hlast⟩ := pairwise_append.mp horder
    obtain ⟨hanswer, hfollows⟩ := ih hearlier
    have hnow := hfollows call.now fun earlier hmem =>
      hlast earlier hmem call (mem_singleton_self call)
    suffices hnext : _ ∧ Follows _ _ _ call.now from
      ⟨hnext.1, fun now hle => hnext.2.later (hle call (by simp))⟩
    rw [tableAfter, run_concat, charged_concat]
    by_cases hkey : call.key = key
    · subst hkey
      obtain ⟨hfull, -, hkept⟩ | ⟨hroom, hanswers, hspent⟩ := spend_served hnow
      · -- A refusal of the full table is none of the budget's calls.
        rw [if_neg fun h => Bool.false_ne_true (h.2.symm.trans hfull), append_nil]
        exact ⟨hanswer, hkept⟩
      · rw [if_pos ⟨rfl, hroom⟩, map_append, map_singleton, trace_concat, run_concat, ← hanswer]
        exact ⟨congrArg (fun answer => _ ++ [(call.now, answer)]) hanswers, hspent⟩
    · rw [if_neg fun h => hkey h.1, append_nil]
      exact ⟨hanswer, spend_others (Ne.symm hkey) hnow⟩

/-- How a call is answered, given the last window of its caller's admissions. -/
structure Decides (rate : RateLimitBucket) (window : Option (Nat × Nat)) (now : Nat)
    (answer : Option RateLimitRefusal) : Prop where
  budget : (∃ refusal, answer = some refusal ∧ refusal.reason = .budget) ↔
    ∃ start, window = some (start, rate.tokensPerWindow) ∧ now < start + rate.window
  capacity : atCapacity answer = true →
    ∀ start spent, window = some (start, spent) → start + rate.window ≤ now

theorem decides_budget {rate : RateLimitBucket} {win : Option Window}
    (hspent : ∀ held ∈ win, held.spent ≤ rate.tokensPerWindow) (now : Nat) :
    Decides rate (win.map fun held => (held.opened, held.spent)) now
      ((budget rate).answer win now) := by
  cases win with
  | none => exact ⟨by simp [answer, budget], fun hfull => by cases hfull⟩
  | some held =>
    have hheld := hspent held rfl
    simp only [answer, budget]
    split_ifs with hlive hroom
    · exact ⟨by simp [hroom.ne], fun hfull => by cases hfull⟩
    · exact ⟨by simp [hlive, hheld.antisymm (Nat.not_lt.mp hroom)], fun hfull => by cases hfull⟩
    · refine ⟨?_, fun hfull => by cases hfull⟩
      simpa using fun _ => Nat.not_lt.mp hlive

theorem lastAdmitted_eq (rateOf : String → RateLimitBucket) (maxBuckets : Nat)
    (key : String × String) (horder : Chronological calls) : ∃ win : Option Window,
    lastAdmitted rateOf maxBuckets key calls = win.map (fun held => (held.opened, held.spent)) ∧
      (∀ held ∈ win, held.spent ≤ (rateOf key.1).tokensPerWindow) ∧
      ∀ now, (∀ call ∈ calls, call.now ≤ now) →
        Follows (rateOf key.1) ((tableAfter rateOf maxBuckets calls).buckets.lookup key) win
          now := by
  obtain ⟨hanswer, hfollows⟩ := charged_run rateOf maxBuckets key horder
  obtain ⟨hwindow, hspent⟩ := lastWindow_budget (rateOf key.1)
    ((charged rateOf maxBuckets key calls).map Prod.fst)
  rw [← hanswer, admitted_charged] at hwindow
  exact ⟨_, hwindow, hspent, hfollows⟩

/-- One more call is decided by its key's last admission alone. -/
theorem decides_next {call : SpendCall} (horder : Chronological (calls ++ [call])) :
    Decides (rateOf call.method) (lastAdmitted rateOf maxBuckets call.key calls) call.now
      ((spending rateOf).answer (tableAfter rateOf maxBuckets calls) call) := by
  obtain ⟨hearlier, -, hlast⟩ := pairwise_append.mp horder
  obtain ⟨win, hwindow, hspent, hfollows⟩ := lastAdmitted_eq rateOf maxBuckets call.key hearlier
  have hnow := hfollows call.now fun earlier hmem =>
    hlast earlier hmem call (mem_singleton_self call)
  rw [hwindow]
  obtain ⟨hfull, hover, -⟩ | ⟨-, hanswer, -⟩ := spend_served hnow
  · have hended : ∀ start spent, win.map (fun held => (held.opened, held.spent)) =
        some (start, spent) → start + (rateOf call.method).window ≤ call.now := by
      intro start spent hheld
      obtain ⟨held, rfl, heq⟩ := Option.map_eq_some_iff.mp hheld
      cases heq
      exact hover held rfl
    change atCapacity ((spending rateOf).answer _ call) = true at hfull
    refine ⟨⟨?_, ?_⟩, fun _ => hended⟩
    · rintro ⟨refusal, href, hbudget⟩
      simp [href, atCapacity, hbudget] at hfull
    · rintro ⟨start, hheld, hlive⟩
      exact absurd hlive (Nat.not_lt.mpr (hended start _ hheld))
  · change (spending rateOf).answer _ call = _ at hanswer
    rw [hanswer]
    exact decides_budget hspent call.now

/-- Whoever else uses the table, a caller none of whose calls the full table refused is answered by
its budget. -/
theorem answered_eq (horder : Chronological calls)
    (hroom : ∀ entry ∈ answered rateOf maxBuckets key calls, atCapacity entry.2 = false) :
    answered rateOf maxBuckets key calls = (budget (rateOf key.1)).trace none
      ((calls.filter fun call => decide (call.key = key)).map SpendCall.now) := by
  have hall : charged rateOf maxBuckets key calls = answered rateOf maxBuckets key calls :=
    filter_eq_self.mpr fun entry hmem => by rw [hroom entry hmem]; rfl
  have hanswer := (charged_run rateOf maxBuckets key horder).1
  rwa [hall, answered_calls] at hanswer

end Runs

/-- In every run of calls with non-decreasing instants and one rate per method: the table stays
within its size; a call is refused for its budget exactly when the tokens of the last window of its
caller's admissions are spent and the window has not ended, and by the full table only when that
window has; no window of admissions is overspent; and two runs that agree on a caller's calls, none
of which the full table refuses, answer them alike. -/
theorem budget_exact (rateOf : String → RateLimitBucket) (maxBuckets : Nat) :
    (∀ calls, (tableAfter rateOf maxBuckets calls).buckets.keys.length ≤ maxBuckets) ∧
      (∀ calls call, Chronological (calls ++ [call]) →
        Decides (rateOf call.method) (lastAdmitted rateOf maxBuckets call.key calls) call.now
          ((spending rateOf).answer (tableAfter rateOf maxBuckets calls) call)) ∧
      (∀ calls key start spent, Chronological calls →
        lastAdmitted rateOf maxBuckets key calls = some (start, spent) →
        spent ≤ (rateOf key.1).tokensPerWindow) ∧
      ∀ calls calls' maxBuckets' key, Chronological calls → Chronological calls' →
        calls.filter (fun call => decide (call.key = key)) =
          calls'.filter (fun call => decide (call.key = key)) →
        (∀ entry ∈ answered rateOf maxBuckets key calls, atCapacity entry.2 = false) →
        (∀ entry ∈ answered rateOf maxBuckets' key calls', atCapacity entry.2 = false) →
        answered rateOf maxBuckets key calls = answered rateOf maxBuckets' key calls' := by
  refine ⟨?bounded, fun calls call => decides_next, ?spent, ?alike⟩
  case bounded =>
    intro calls
    refine (invariant (P := fun table : BucketTable => table.maxBuckets = maxBuckets ∧
      table.buckets.keys.length ≤ maxBuckets) ⟨rfl, Nat.zero_le _⟩ ?_ calls).2
    rintro table call ⟨rfl, hlength⟩
    exact spend_bounded hlength
  case spent =>
    intro calls key start spent horder hwindow
    obtain ⟨_, heq, hspent, -⟩ := lastAdmitted_eq rateOf maxBuckets key horder
    obtain ⟨held, rfl, hheld⟩ := Option.map_eq_some_iff.mp (heq.symm.trans hwindow)
    cases hheld
    exact hspent held rfl
  case alike =>
    intro calls calls' maxBuckets' key horder horder' hown hroom hroom'
    rw [answered_eq horder hroom, answered_eq horder' hroom', hown]

/-- A caller's second call, while another caller holds a table of two. -/
theorem budget_exact_second :
    Decides .sensitive (lastAdmitted (fun _ => .sensitive) 2 ("m", "a") [⟨"m", "a", 0⟩, ⟨"m", "b", 1⟩])
      5 ((spending fun _ => .sensitive).answer
        (tableAfter (fun _ => .sensitive) 2 [⟨"m", "a", 0⟩, ⟨"m", "b", 1⟩]) ⟨"m", "a", 5⟩) :=
  (budget_exact (fun _ => .sensitive) 2).2.1 [⟨"m", "a", 0⟩, ⟨"m", "b", 1⟩] ⟨"m", "a", 5⟩
    (by simp [Chronological])

end Roost.Coord
