import RecordMapper.Keys

/-! Runs of a key source: calls by anyone, in any order, at any readings of the clock. The place of a node's clock, its
moment and sequence number as one number, grows with every key, and by no more than one where the reading is old. -/

namespace RecordMapper

/-- A call for a key: what the clock reads, and the node if one is named. -/
structure KeyCall where
  reading : Int
  node : Option Nat := none

/-- A call with the source before and after it. -/
structure KeyIssue where
  before : KeySource
  call : KeyCall
  outcome : Outcome Int64
  after : KeySource

namespace KeyIssue

def node (issue : KeyIssue) : Nat := issue.call.node.getD issue.before.defaultNode

/-- The moment and number that the key was made from, if one was issued. -/
def clock (issue : KeyIssue) : NodeClock := issue.after.clock issue.node

end KeyIssue

namespace NodeClock

def place (clock : NodeClock) : Nat := clock.moment * sequenceSpan + clock.sequence

/-- A tick takes the reading if it is new, and the next number or else the next moment if it is not. -/
theorem tick_cases (reading : Int) (clock : NodeClock) :
    (clock.moment : Int) < reading ∧ clock.tick reading = ⟨reading.toNat, 0⟩ ∨
      reading ≤ clock.moment ∧ clock.sequence = greatestSequence ∧ clock.tick reading = ⟨clock.moment + 1, 0⟩ ∨
      reading ≤ clock.moment ∧ clock.sequence ≠ greatestSequence ∧
        clock.tick reading = ⟨clock.moment, clock.sequence + 1⟩ := by
  unfold tick
  split
  next newer => exact .inl ⟨newer, rfl⟩
  next older =>
    split
    next full => exact .inr (.inl ⟨by omega, full, rfl⟩)
    next free => exact .inr (.inr ⟨by omega, free, rfl⟩)

theorem tick_sequence (reading : Int) {clock : NodeClock} (sound : clock.sequence ≤ greatestSequence) :
    (clock.tick reading).sequence ≤ greatestSequence := by
  obtain ⟨_, same⟩ | ⟨_, _, same⟩ | ⟨_, free, same⟩ := tick_cases reading clock
  all_goals
    rw [same]
    dsimp only
    omega

theorem reading_le_tick (reading : Int) (clock : NodeClock) : reading ≤ (clock.tick reading).moment := by
  obtain ⟨_, same⟩ | ⟨_, _, same⟩ | ⟨_, _, same⟩ := tick_cases reading clock
  all_goals
    rw [same]
    dsimp only
    omega

theorem place_lt_tick (reading : Int) {clock : NodeClock} (sound : clock.sequence ≤ greatestSequence) :
    clock.place < (clock.tick reading).place := by
  obtain ⟨_, same⟩ | ⟨_, _, same⟩ | ⟨_, _, same⟩ := tick_cases reading clock
  all_goals
    rw [same]
    simp only [place, sequenceSpan, greatestSequence] at *
    omega

theorem tick_place_le (reading : Int) (clock : NodeClock) :
    (clock.tick reading).place ≤ max (reading.toNat * sequenceSpan) (clock.place + 1) := by
  obtain ⟨_, same⟩ | ⟨_, _, same⟩ | ⟨_, _, same⟩ := tick_cases reading clock
  all_goals
    rw [same]
    simp only [place, sequenceSpan, greatestSequence] at *
    omega

end NodeClock

namespace KeySource

/-- Answers a call. A refused call leaves the source as it is. -/
def serve (call : KeyCall) (source : KeySource) : Outcome Int64 × KeySource :=
  match source.next call.reading call.node with
  | .ok (key, later) => (.ok key, later)
  | .error failure => (.error failure, source)

def serveAll (calls : List KeyCall) (source : KeySource) : KeySource :=
  calls.foldl (fun source call => (source.serve call).2) source

/-- Calls in order, each with what it came to. -/
def issues : List KeyCall → KeySource → List KeyIssue
  | [], _ => []
  | call :: rest, source => ⟨source, call, (source.serve call).1, (source.serve call).2⟩ :: issues rest (source.serve call).2

/-- Whether a call is for a node. -/
def asksFor (source : KeySource) (node : Nat) (call : KeyCall) : Bool := call.node.getD source.defaultNode = node

theorem clock_setClock (source : KeySource) (node other : Nat) (clock : NodeClock) :
    (source.setClock node clock).clock other = if other = node then clock else source.clock other := by
  by_cases same : other = node
  · simp [KeySource.clock, setClock, same]
  · have missed : ((node, clock) :: source.clocks.filter fun entry => entry.1 ≠ node).find? (fun entry => entry.1 = other) =
        source.clocks.find? fun entry => entry.1 = other := by
      rw [List.find?_cons_of_neg (by simpa using Ne.symm same), List.find?_filter]
      congr
      funext entry
      by_cases found : entry.1 = other <;> simp [found, same]
    simp only [KeySource.clock, setClock, missed, same, ↓reduceIte]

theorem serve_refused (source : KeySource) (call : KeyCall)
    (beyond : greatestNode < call.node.getD source.defaultNode) :
    source.serve call = (.error (.validation (.nodeTooLarge (call.node.getD source.defaultNode))), source) := by
  simp [serve, next, checkNode, Nat.not_le.mpr beyond]

theorem serve_issued (source : KeySource) (call : KeyCall) (valid : call.node.getD source.defaultNode ≤ greatestNode) :
    let node := call.node.getD source.defaultNode
    let clock := (source.clock node).tick call.reading
    source.serve call = (.ok (clock.key node), source.setClock node clock) := by
  simp [serve, next, checkNode, valid]

theorem serve_defaultNode (source : KeySource) (call : KeyCall) :
    (source.serve call).2.defaultNode = source.defaultNode := by
  by_cases valid : call.node.getD source.defaultNode ≤ greatestNode
  · rw [source.serve_issued call valid]
    rfl
  · rw [source.serve_refused call (by omega)]

/-- The clock of a node after a call: it ticks if the call was for the node, and no clock ticks for a refused call. -/
theorem serve_clock (source : KeySource) (call : KeyCall) (node : Nat) :
    (source.serve call).2.clock node =
      if source.asksFor node call ∧ node ≤ greatestNode then (source.clock node).tick call.reading
      else source.clock node := by
  by_cases valid : call.node.getD source.defaultNode ≤ greatestNode
  · rw [source.serve_issued call valid, clock_setClock]
    by_cases same : node = call.node.getD source.defaultNode
    · subst same
      simp [asksFor, valid]
    · simp [asksFor, same, Ne.symm same]
  · rw [source.serve_refused call (by omega)]
    by_cases same : call.node.getD source.defaultNode = node
    · simp [asksFor, ← same, valid]
    · simp [asksFor, same]

/-- No node has used a sequence number beyond the greatest one. -/
def Sound (source : KeySource) : Prop := ∀ node, (source.clock node).sequence ≤ greatestSequence

theorem Sound.serve {source : KeySource} (sound : source.Sound) (call : KeyCall) : (source.serve call).2.Sound := by
  intro node
  rw [serve_clock]
  split
  · exact NodeClock.tick_sequence call.reading (sound node)
  · exact sound node

theorem Sound.serveAll {source : KeySource} (sound : source.Sound) (calls : List KeyCall) :
    (source.serveAll calls).Sound := by
  induction calls generalizing source with
  | nil => exact sound
  | cons call rest ih => exact ih (sound.serve call)

theorem place_le_serveAll {source : KeySource} (sound : source.Sound) (calls : List KeyCall) (node : Nat) :
    (source.clock node).place ≤ ((source.serveAll calls).clock node).place := by
  induction calls generalizing source with
  | nil => exact Nat.le_refl _
  | cons call rest ih =>
    refine Nat.le_trans ?_ (ih (sound.serve call))
    rw [serve_clock]
    split
    · exact Nat.le_of_lt (NodeClock.place_lt_tick call.reading (sound node))
    · exact Nat.le_refl _

end KeySource

/-- The greatest reading among calls, zero if all are before the epoch. -/
def latest : List KeyCall → Nat
  | [] => 0
  | call :: rest => max call.reading.toNat (latest rest)

theorem latest_filter_le (keep : KeyCall → Bool) (calls : List KeyCall) : latest (calls.filter keep) ≤ latest calls := by
  induction calls with
  | nil => exact Nat.le_refl _
  | cons call rest ih =>
    rw [List.filter_cons]
    split
    · exact Nat.max_le.mpr ⟨Nat.le_max_left _ _, Nat.le_trans ih (Nat.le_max_right _ _)⟩
    · exact Nat.le_trans ih (Nat.le_max_right _ _)

theorem latest_append (first second : List KeyCall) : latest (first ++ second) = max (latest first) (latest second) := by
  induction first with
  | nil => simp [latest]
  | cons call rest ih => rw [List.cons_append, latest, ih, latest, Nat.max_assoc]

namespace KeySource

/-- A node's clock goes on from its place, or from the latest reading, by at most one for each call. -/
theorem serveAll_place_le {source : KeySource} (sound : source.Sound) (calls : List KeyCall) (node : Nat) :
    ((source.serveAll calls).clock node).place ≤
      max (source.clock node).place (latest (calls.filter (source.asksFor node)) * sequenceSpan) +
        (calls.filter (source.asksFor node)).length := by
  induction calls generalizing source with
  | nil => exact Nat.le_trans (Nat.le_max_left _ _) (Nat.le_add_right _ _)
  | cons call rest ih =>
    have same : (source.serve call).2.asksFor node = source.asksFor node := by
      funext other
      rw [asksFor, asksFor, serve_defaultNode]
    have later := ih (sound.serve call)
    have ticked := NodeClock.tick_place_le call.reading (source.clock node)
    rw [same, serve_clock] at later
    refine Nat.le_trans later ?_
    simp only [List.filter_cons]
    by_cases asked : source.asksFor node call = true
    · simp only [asked, true_and, ↓reduceIte, latest, List.length_cons, sequenceSpan, greatestSequence] at ticked ⊢
      split <;> omega
    · simp [asked]

theorem mem_issues {source : KeySource} {calls : List KeyCall} {issue : KeyIssue} (member : issue ∈ source.issues calls) :
    ∃ earlier later, calls = earlier ++ issue.call :: later ∧ issue.before = source.serveAll earlier ∧
      issue.before.serve issue.call = (issue.outcome, issue.after) := by
  induction calls generalizing source with
  | nil => cases member
  | cons call rest ih =>
    rcases List.mem_cons.mp member with rfl | inside
    · exact ⟨[], rest, rfl, rfl, rfl⟩
    · obtain ⟨earlier, later, rfl, before, served⟩ := ih inside
      exact ⟨call :: earlier, later, rfl, before, served⟩

theorem serveAll_append (source : KeySource) (earlier later : List KeyCall) :
    source.serveAll (earlier ++ later) = (source.serveAll earlier).serveAll later := List.foldl_append

/-- The clocks of all nodes stand still or go on between two calls. -/
theorem issues_ordered {source : KeySource} (sound : source.Sound) (calls : List KeyCall) :
    (source.issues calls).Pairwise fun first second =>
      ∀ node, (first.after.clock node).place ≤ (second.before.clock node).place := by
  induction calls generalizing source with
  | nil => exact .nil
  | cons call rest ih =>
    refine .cons (fun second member node => ?_) (ih (sound.serve call))
    obtain ⟨earlier, _, _, before, _⟩ := mem_issues member
    rw [before]
    exact place_le_serveAll (sound.serve call) earlier node

end KeySource

end RecordMapper
