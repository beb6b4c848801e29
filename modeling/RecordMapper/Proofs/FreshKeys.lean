import RecordMapper.Proofs.KeyUniqueness

/-! Keys issued after earlier ones. While no clock has left the moments that keys have room for, keys are positive and differ
from all that the source has issued before. -/

namespace RecordMapper.KeySource

variable {defaultNode : Nat} {source : KeySource} {calls : List KeyCall}

/-- No node's clock is beyond the moments that keys have room for. -/
def InRange (source : KeySource) : Prop := ∀ node ≤ greatestNode, (source.clock node).moment < momentSpan

theorem issues_append (source : KeySource) (earlier later : List KeyCall) :
    source.issues (earlier ++ later) = source.issues earlier ++ (source.serveAll earlier).issues later := by
  induction earlier generalizing source with
  | nil => rfl
  | cons call rest ih => exact congrArg _ (ih (source.serve call).2)

/-- Clocks never go back, so that whoever is in range at the end has been all the time. -/
theorem moment_le_serveAll (sound : source.Sound) (calls : List KeyCall) (node : Nat) :
    (source.clock node).moment ≤ ((source.serveAll calls).clock node).moment := by
  have later := place_le_serveAll sound calls node
  have small := (sound.serveAll calls) node
  simp only [NodeClock.place, sequenceSpan, greatestSequence] at later small
  omega

theorem issued_fits (sound : source.Sound) (range : (source.serveAll calls).InRange) {issue : KeyIssue}
    (member : issue ∈ source.issues calls) (valid : issue.node ≤ greatestNode) : issue.clock.Fits issue.node := by
  obtain ⟨earlier, later, split, before, served⟩ := mem_issues member
  have after := serveAll_issue before served
  have reached : source.serveAll calls = issue.after.serveAll later := by
    rw [split, ← after, ← serveAll_append, List.append_assoc]
    rfl
  have still : issue.after.Sound := after ▸ sound.serveAll _
  refine ⟨valid, ?_, still issue.node⟩
  refine Nat.lt_of_le_of_lt (moment_le_serveAll still later issue.node) ?_
  rw [← reached]
  exact range issue.node valid

theorem issued_pos (sound : source.Sound) (range : (source.serveAll calls).InRange) {issue : KeyIssue}
    (member : issue ∈ source.issues calls) {key : Int64} (outcome : issue.outcome = .ok key) :
    0 < key ∧ key = issue.clock.key issue.node ∧ issue.clock.Fits issue.node := by
  have valid := node_of_issued member outcome
  obtain ⟨made, _, grows⟩ := issued_key sound member valid
  have fits := issued_fits sound range member valid
  obtain rfl := Except.ok.inj (outcome.symm.trans made)
  exact ⟨NodeClock.key_pos fits (by omega), rfl, fits⟩

theorem issues_differ (sound : source.Sound) (range : (source.serveAll calls).InRange) :
    (source.issues calls).Pairwise fun first second =>
      ∀ key, first.outcome = .ok key → second.outcome ≠ .ok key := by
  refine (issues_ordered sound calls).imp_of_mem fun {first second} inFirst inSecond ordered key made again => ?_
  obtain ⟨_, same, fits⟩ := issued_pos sound range inFirst made
  obtain ⟨_, other, others⟩ := issued_pos sound range inSecond again
  obtain ⟨_, _, grows⟩ := issued_key sound inSecond others.node
  -- Keys of one node grow with its clock; those of two nodes name different nodes.
  by_cases shared : first.node = second.node
  · have between := ordered first.node
    rw [← shared] at others grows other
    have grown := NodeClock.key_lt_key fits others (Nat.lt_of_le_of_lt between grows)
    rw [← same, ← other] at grown
    exact Int64.lt_irrefl grown
  · exact NodeClock.key_ne_key fits others shared (same.symm.trans other)

/-- Keys drawn after earlier calls are positive and differ from each other and from all keys before. -/
theorem drawn_fresh (made : make defaultNode = .ok source) {past : List KeyCall}
    (range : (source.serveAll (past ++ calls)).InRange) {keys : List Int64}
    (drawn : ((source.serveAll past).issues calls).map KeyIssue.outcome = keys.map .ok) :
    keys.Nodup ∧ ∀ key ∈ keys, 0 < key ∧ ∀ issue ∈ source.issues past, issue.outcome ≠ .ok key := by
  have sound := sound_of_make made
  have differ := issues_differ sound range
  rw [issues_append, List.pairwise_append] at differ
  obtain ⟨_, apart, new⟩ := differ
  have issue {key : Int64} (member : key ∈ keys) :
      ∃ issue ∈ (source.serveAll past).issues calls, issue.outcome = .ok key := by
    have listed : (.ok key : Outcome Int64) ∈ keys.map .ok := List.mem_map_of_mem member
    rw [← drawn] at listed
    obtain ⟨issue, inside, outcome⟩ := List.mem_map.mp listed
    exact ⟨issue, inside, outcome⟩
  refine ⟨?_, fun key member => ?_⟩
  · have once : (keys.map Except.ok : List (Outcome Int64)).Nodup := by
      rw [← drawn, List.Nodup, List.pairwise_map]
      refine apart.imp_of_mem fun {first second} inside _ differ same => ?_
      have listed : first.outcome ∈ (keys.map .ok : List (Outcome Int64)) := drawn ▸ List.mem_map_of_mem inside
      obtain ⟨key, _, outcome⟩ := List.mem_map.mp listed
      exact differ key outcome.symm (same ▸ outcome.symm)
    exact once.of_map
  · obtain ⟨found, inside, outcome⟩ := issue member
    have listed : found ∈ source.issues (past ++ calls) := by
      rw [issues_append]
      exact List.mem_append_right _ inside
    refine ⟨(issued_pos sound range listed outcome).1, fun earlier before again => ?_⟩
    exact new earlier before found inside key again outcome

end RecordMapper.KeySource
