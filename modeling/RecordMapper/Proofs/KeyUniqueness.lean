import Mathlib
import RecordMapper.Proofs.KeyRuns
import RecordMapper.Proofs.Outcomes

/-! Keys never repeat. As long as moments fit 41 bits a key is positive and tells its node, moment and sequence number,
so that the keys of one node grow with its clock and those of different nodes differ. -/

namespace RecordMapper

/-- Moments that a positive key has room for: those of 41 bits. -/
def momentSpan : Nat := 2199023255552

namespace NodeClock

/-- What a key needs to tell its parts. -/
structure Fits (node : Nat) (clock : NodeClock) : Prop where
  node : node ≤ greatestNode
  moment : clock.moment < momentSpan
  sequence : clock.sequence ≤ greatestSequence

theorem toInt_key {node : Nat} {clock : NodeClock} (fits : clock.Fits node) :
    (clock.key node).toInt = (clock.moment * nodeSpan + node) * sequenceSpan + clock.sequence := by
  obtain ⟨inside, early, small⟩ := fits
  simp only [key, nodeSpan, sequenceSpan, greatestNode, greatestSequence, momentSpan] at *
  rw [Int64.toInt_ofInt_of_le (by omega) (by omega)]

theorem ofKey_key {node : Nat} {clock : NodeClock} (fits : clock.Fits node) :
    KeyParts.ofKey (clock.key node) = ⟨clock.moment, node, clock.sequence⟩ := by
  have digits := toInt_key fits
  obtain ⟨inside, early, small⟩ := fits
  simp only [KeyParts.ofKey, digits]
  simp only [nodeSpan, sequenceSpan, greatestNode, greatestSequence, momentSpan] at *
  congr <;> omega

theorem key_pos {node : Nat} {clock : NodeClock} (fits : clock.Fits node) (used : 0 < clock.place) :
    0 < clock.key node := by
  rw [Int64.lt_iff_toInt_lt, toInt_key fits]
  simp only [place, nodeSpan, sequenceSpan, greatestNode, greatestSequence] at *
  show (0 : Int) < _
  omega

theorem key_lt_key {node : Nat} {before after : NodeClock} (fits : before.Fits node) (later : after.Fits node)
    (grows : before.place < after.place) : before.key node < after.key node := by
  rw [Int64.lt_iff_toInt_lt, toInt_key fits, toInt_key later]
  obtain ⟨inside, _, small⟩ := fits
  have tiny := later.sequence
  simp only [place, nodeSpan, sequenceSpan, greatestNode, greatestSequence] at *
  omega

theorem key_ne_key {node other : Nat} {clock second : NodeClock} (fits : clock.Fits node) (others : second.Fits other)
    (different : node ≠ other) : clock.key node ≠ second.key other := by
  intro same
  have parts := congrArg (fun key => (KeyParts.ofKey key).node) same
  simp only [ofKey_key fits, ofKey_key others] at parts
  exact different parts

end NodeClock

theorem text_ne_empty (n : Int) : toString n ≠ "" := by
  rw [Int.toString_eq_repr, Int.repr_eq_if]
  split
  · exact Nat.repr_ne_empty
  · simp

theorem keyValue_text_inj {key other : Int64} (same : keyValue .text key = keyValue .text other) : key = other := by
  have written : toString key.toInt = toString other.toInt := Value.text.inj same
  rw [Int.toString_eq_repr, Int.toString_eq_repr, Int.repr_inj] at written
  exact Int64.toInt_inj.mp written

namespace KeySource

variable {defaultNode : Nat} {source : KeySource} {calls : List KeyCall}

theorem clock_of_make (made : make defaultNode = .ok source) (node : Nat) : source.clock node = {} := by
  obtain ⟨_, _, same⟩ := Outcome.bind_eq_ok.mp made
  rw [← Outcome.pure_eq_ok.mp same]
  rfl

theorem sound_of_make (made : make defaultNode = .ok source) : source.Sound := fun node => by
  rw [clock_of_make made]
  exact Nat.zero_le _

/-- A node that has been asked for so many keys stands at most so many numbers beyond the latest reading. -/
theorem moment_le (made : make defaultNode = .ok source) (calls : List KeyCall) (node : Nat) :
    ((source.serveAll calls).clock node).moment ≤
      latest (calls.filter (source.asksFor node)) + (calls.filter (source.asksFor node)).length / sequenceSpan := by
  have bound := serveAll_place_le (sound_of_make made) calls node
  rw [clock_of_make made] at bound
  simp only [NodeClock.place] at bound
  simp only [sequenceSpan, greatestSequence] at *
  omega

/-- Within the room there is, the clocks of a run fit keys. -/
theorem fits_serveAll (made : make defaultNode = .ok source)
    (room : latest calls + calls.length / sequenceSpan < momentSpan) (earlier later : List KeyCall)
    (split : calls = earlier ++ later) {node : Nat} (valid : node ≤ greatestNode) :
    ((source.serveAll earlier).clock node).Fits node := by
  have bound := moment_le made earlier node
  have reached := latest_filter_le (source.asksFor node) earlier
  have asked := List.length_filter_le (source.asksFor node) earlier
  refine ⟨valid, ?_, ?_⟩
  · rw [split, latest_append, List.length_append] at room
    simp only [sequenceSpan, greatestSequence] at *
    omega
  · exact (sound_of_make made).serveAll earlier node

/-- A call for a valid node gets the key of the node's clock, which has ticked. -/
theorem issued_key (sound : source.Sound) {issue : KeyIssue} (member : issue ∈ source.issues calls)
    (valid : issue.node ≤ greatestNode) :
    issue.outcome = .ok (issue.clock.key issue.node) ∧
      issue.clock = (issue.before.clock issue.node).tick issue.call.reading ∧
      (issue.before.clock issue.node).place < issue.clock.place := by
  obtain ⟨earlier, _, _, before, served⟩ := mem_issues member
  have ticked := issue.before.serve_issued issue.call valid
  rw [served] at ticked
  obtain ⟨outcome, set⟩ := Prod.mk.inj ticked
  have clock : issue.clock = (issue.before.clock issue.node).tick issue.call.reading := by
    rw [KeyIssue.clock, set, clock_setClock]
    exact if_pos rfl
  refine ⟨?_, clock, ?_⟩
  · rw [outcome, clock]
    rfl
  · rw [clock]
    refine NodeClock.place_lt_tick _ ?_
    rw [before]
    exact sound.serveAll earlier issue.node

theorem serveAll_issue {issue : KeyIssue} {earlier : List KeyCall} (before : issue.before = source.serveAll earlier)
    (served : issue.before.serve issue.call = (issue.outcome, issue.after)) :
    source.serveAll (earlier ++ [issue.call]) = issue.after := by
  rw [serveAll_append, ← before]
  exact congrArg Prod.snd served

/-- Within the room there is, the key that a call gets fits its clock. -/
theorem issued (made : make defaultNode = .ok source)
    (room : latest calls + calls.length / sequenceSpan < momentSpan) {issue : KeyIssue}
    (member : issue ∈ source.issues calls) (valid : issue.node ≤ greatestNode) :
    issue.outcome = .ok (issue.clock.key issue.node) ∧ issue.clock.Fits issue.node ∧
      (issue.before.clock issue.node).place < issue.clock.place ∧ issue.call.reading ≤ issue.clock.moment := by
  obtain ⟨outcome, ticked, grows⟩ := issued_key (sound_of_make made) member valid
  obtain ⟨earlier, later, split, before, served⟩ := mem_issues member
  have fits := fits_serveAll made room (earlier ++ [issue.call]) later (by simpa using split) valid
  rw [serveAll_issue before served] at fits
  refine ⟨outcome, fits, grows, ?_⟩
  rw [ticked]
  exact NodeClock.reading_le_tick _ _

theorem node_of_issued {issue : KeyIssue}
    (member : issue ∈ source.issues calls) {key : Int64} (outcome : issue.outcome = .ok key) :
    issue.node ≤ greatestNode := by
  obtain ⟨_, _, _, _, served⟩ := mem_issues member
  by_contra beyond
  have refused := issue.before.serve_refused issue.call (by simpa [KeyIssue.node] using beyond)
  rw [served, outcome] at refused
  cases (Prod.mk.inj refused).1

/-- Keys of one source never repeat, whoever asks for them, in whatever order and whatever the clock reads, as long as
moments stay within 41 bits. Each is positive and tells the node that was asked for and the moment and number it was made
from, and the keys of one node grow. A call for a node that there is not fails and changes nothing. No node runs further
ahead of the clock than one moment for all the numbers of a moment. -/
theorem keys_never_repeat (made : make defaultNode = .ok source) (calls : List KeyCall)
    (room : latest calls + calls.length / sequenceSpan < momentSpan) :
    (∀ issue ∈ source.issues calls,
      (greatestNode < issue.node →
        issue.outcome = .error (.validation (.nodeTooLarge issue.node)) ∧ issue.after = issue.before) ∧
      (issue.node ≤ greatestNode → ∃ key, issue.outcome = .ok key ∧ 0 < key ∧
        KeyParts.ofKey key = ⟨issue.clock.moment, issue.node, issue.clock.sequence⟩ ∧
        issue.clock.sequence ≤ greatestSequence ∧ issue.call.reading ≤ issue.clock.moment ∧
        ∃ text, keyValue .text key = .text text ∧ text ≠ "")) ∧
    ((source.issues calls).Pairwise fun first second =>
      ∀ key other, first.outcome = .ok key → second.outcome = .ok other →
        key ≠ other ∧ (first.node = second.node → key < other) ∧ keyValue .text key ≠ keyValue .text other) ∧
    ∀ node, ((source.serveAll calls).clock node).moment ≤
      latest (calls.filter (source.asksFor node)) + (calls.filter (source.asksFor node)).length / sequenceSpan := by
  refine ⟨fun issue member => ⟨fun beyond => ?_, fun valid => ?_⟩, ?_, moment_le made calls⟩
  · obtain ⟨_, _, _, _, served⟩ := mem_issues member
    have refused := issue.before.serve_refused issue.call beyond
    rw [served] at refused
    exact Prod.mk.inj refused
  · obtain ⟨outcome, fits, grows, recent⟩ := issued made room member valid
    exact ⟨_, outcome, NodeClock.key_pos fits (by omega), NodeClock.ofKey_key fits, fits.sequence, recent, _, rfl,
      text_ne_empty _⟩
  · refine (issues_ordered (sound_of_make made) calls).imp_of_mem fun {first second} inFirst inSecond ordered key other made₁ made₂ => ?_
    obtain ⟨outcome₁, fits₁, _, _⟩ := issued made room inFirst (node_of_issued inFirst made₁)
    obtain ⟨outcome₂, fits₂, grows, _⟩ := issued made room inSecond (node_of_issued inSecond made₂)
    obtain rfl := Except.ok.inj (made₁.symm.trans outcome₁)
    obtain rfl := Except.ok.inj (made₂.symm.trans outcome₂)
    have increasing : first.node = second.node → first.clock.key first.node < second.clock.key second.node := by
      intro same
      have between := ordered first.node
      rw [← same] at fits₂ grows ⊢
      exact NodeClock.key_lt_key fits₁ fits₂ (Nat.lt_of_le_of_lt between grows)
    have different : first.clock.key first.node ≠ second.clock.key second.node := by
      by_cases same : first.node = second.node
      · exact Int64.ne_of_lt (increasing same)
      · exact NodeClock.key_ne_key fits₁ fits₂ same
    exact ⟨different, increasing, fun same => different (keyValue_text_inj same)⟩

/-- A clock that steps back, two nodes and a call that is refused: the keys that are issued grow or differ. -/
theorem stepped_back_clock_repeats_no_key :
    let source : KeySource := ⟨1, []⟩
    let calls : List KeyCall := [⟨7, some 5⟩, ⟨-3, some 5⟩, ⟨9, some 1024⟩, ⟨7, none⟩]
    make 1 = .ok source ∧ latest calls + calls.length / sequenceSpan < momentSpan ∧
      ((source.issues calls).Pairwise fun first second =>
        ∀ key other, first.outcome = .ok key → second.outcome = .ok other →
          key ≠ other ∧ (first.node = second.node → key < other) ∧ keyValue .text key ≠ keyValue .text other) := by
  intro source calls
  have made : make 1 = .ok source := rfl
  have room : latest calls + calls.length / sequenceSpan < momentSpan := by decide
  exact ⟨made, room, (keys_never_repeat made calls room).2.1⟩

end KeySource

end RecordMapper
