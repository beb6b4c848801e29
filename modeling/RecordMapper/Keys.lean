import RecordMapper.Value

/-! Generated keys: 41 bits of milliseconds, ten bits of node and a sequence number of twelve bits. When the
sequence is used up, or the clock stands still or steps back, a node goes on with the next millisecond instead
of waiting, so the keys of one node always grow. -/

namespace RecordMapper

/-- Sequence numbers of one node in one millisecond run from zero to this. -/
def greatestSequence : Nat := 4095

/-- Numbers of one node in one millisecond. -/
def sequenceSpan : Nat := greatestSequence + 1

/-- Nodes that a key can name. -/
def nodeSpan : Nat := greatestNode + 1

/-- The moment and sequence number of a node's last key. A fresh node stands at zero, before its first key. -/
structure NodeClock where
  moment : Nat := 0
  sequence : Nat := 0
  deriving DecidableEq

namespace NodeClock

/-- The moment and number for the next key, given the clock's reading in milliseconds. -/
def tick (reading : Int) (clock : NodeClock) : NodeClock :=
  if (clock.moment : Int) < reading then ⟨reading.toNat, 0⟩
  else if clock.sequence = greatestSequence then ⟨clock.moment + 1, 0⟩
  else ⟨clock.moment, clock.sequence + 1⟩

/-- The key made from a node's clock: the moment, the node and the sequence number as three digits of one number,
the two lower ones in their own bases. -/
def key (node : Nat) (clock : NodeClock) : Int64 :=
  Int64.ofInt ((clock.moment * nodeSpan + node) * sequenceSpan + clock.sequence)

end NodeClock

def checkNode (node : Nat) : Outcome Unit :=
  if node ≤ greatestNode then .ok () else .error (.validation (.nodeTooLarge node))

/-- Where keys come from: the node to use if none is named, and the clocks of the nodes used so far. -/
structure KeySource where
  defaultNode : Nat
  clocks : List (Nat × NodeClock) := []

namespace KeySource

def make (defaultNode : Nat) : Outcome KeySource := do
  checkNode defaultNode
  return ⟨defaultNode, []⟩

def clock (source : KeySource) (node : Nat) : NodeClock :=
  match source.clocks.find? fun entry => entry.1 = node with
  | some entry => entry.2
  | none => {}

def setClock (source : KeySource) (node : Nat) (clock : NodeClock) : KeySource :=
  { source with clocks := (node, clock) :: source.clocks.filter fun entry => entry.1 ≠ node }

/-- The next key of a node, at a reading of the clock. -/
def next (reading : Int) (node : Option Nat) (source : KeySource) : Outcome (Int64 × KeySource) :=
  let node := node.getD source.defaultNode
  match checkNode node with
  | .error failure => .error failure
  | .ok () =>
    let clock := (source.clock node).tick reading
    .ok (clock.key node, source.setClock node clock)

/-- As many keys as asked for, all at one reading. -/
def draw (reading : Int) (node : Option Nat) : Nat → KeySource → Outcome (List Int64 × KeySource)
  | 0, source => .ok ([], source)
  | count + 1, source => do
    let (key, source) ← source.next reading node
    let (keys, source) ← draw reading node count source
    return (key :: keys, source)

end KeySource

/-- The parts of a key. -/
structure KeyParts where
  /-- Milliseconds since the start of 2020, negative for a negative key. -/
  moment : Int
  node : Nat
  sequence : Nat
  deriving DecidableEq

def KeyParts.ofKey (key : Int64) : KeyParts :=
  let bits := key.toInt
  ⟨bits / sequenceSpan / nodeSpan, (bits / sequenceSpan % nodeSpan).toNat, (bits % sequenceSpan).toNat⟩

/-- The value that a new key has in a column of the kind. -/
def keyValue (kind : Kind) (key : Int64) : Value :=
  match kind with
  | .text => .text (toString key.toInt)
  | _ => .int key

end RecordMapper
