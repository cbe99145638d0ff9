import SensorSim.Bus.Error

/-!
# The message bus

The bus keeps what stages declare, and the messages of the event in progress in the order in which
they were dispatched. A message is visible to a detector when it is for that detector or for none in
particular. Within an event no two messages of one kind are visible to the same detector.
-/

namespace SensorSim.Bus

/-- A dispatched message and the stage that dispatched it. -/
structure Entry where
  producer : StageId
  message : Message
deriving Repr, Inhabited

/-- Whether a message is visible to a detector. -/
def Message.visibleTo (m : Message) (d : String) : Bool :=
  m.detector == none || m.detector == some d

end SensorSim.Bus

namespace SensorSim

open Bus (Subscription Publication Entry Requirement Message BusError StageId Kind)

/-- The state of the bus. -/
structure Bus where
  subscriptions : List Subscription := []
  publications : List Publication := []
  event : Option Nat := none
  store : List Entry := []
deriving Inhabited

namespace Bus

def empty : Bus := {}

/-- Adds a subscription: one like it takes the stricter requirement and keeps its place. -/
def merge (s : Subscription) : List Subscription → List Subscription
  | [] => [s]
  | t :: rest =>
    if t.alike s then { t with requirement := t.requirement.strictest s.requirement } :: rest
    else t :: merge s rest

def subscribe (b : Bus) (s : Subscription) : Except BusError Bus :=
  match b.event with
  | some event => .error (.closed s.stage event)
  | none => .ok { b with subscriptions := merge s b.subscriptions }

/-- Declares a publication. Repeating one changes nothing. -/
def publish (b : Bus) (p : Publication) : Except BusError Bus :=
  match b.event with
  | some event => .error (.closed p.stage event)
  | none =>
    .ok (if p ∈ b.publications then b else { b with publications := b.publications ++ [p] })

def beginEvent (b : Bus) (event : Nat) : Bus :=
  { b with event := some event, store := [] }

/-- Ends the event in progress and drops its messages. -/
def endEvent (b : Bus) : Bus :=
  { b with event := none, store := [] }

/-- The number of messages dispatched in the event in progress. -/
def count (b : Bus) : Nat :=
  b.store.length

def firstOfKind? (b : Bus) (kind : Kind) : Option Entry :=
  b.store.find? fun e => e.message.kind == kind

/-- The stored message of a kind for exactly the given detector, or for none in particular. -/
def stored? (b : Bus) (kind : Kind) (detector : Option String) : Option Entry :=
  b.store.find? fun e => e.message.kind == kind && e.message.detector == detector

/-- The stored message of a kind for a detector, or else the one for none in particular. -/
def find? (b : Bus) (kind : Kind) (d : String) : Option Entry :=
  (b.stored? kind (some d)).or (b.stored? kind none)

/-- The stored message that keeps a message of a kind from being dispatched. -/
def conflict? (b : Bus) (kind : Kind) : Option String → Option Entry
  | some d => b.find? kind d
  | none => b.firstOfKind? kind

/-- Dispatches a message: the message as it was stored, and the bus afterwards. -/
def dispatch (b : Bus) (producer : StageId) (m : Message) : Except BusError (Message × Bus) :=
  match b.event with
  | none => .error (.noEvent producer m.kind)
  | some event =>
    match b.conflict? m.kind m.detector with
    | some e => .error (.duplicateProducer m.kind m.detector event e.producer producer)
    | none =>
      let sent := { m with event }
      .ok (sent, { b with store := b.store ++ [⟨producer, sent⟩] })

/-- The subscriptions of a stage to a kind that cover a detector. -/
def covering (b : Bus) (stage : StageId) (kind : Kind) (d : String) : List Subscription :=
  b.subscriptions.filter fun s => s.stage == stage && s.kind == kind && s.scope.covers (some d)

/-- The strictest of some requirements. -/
def strictest? : List Requirement → Option Requirement
  | [] => none
  | r :: rs => some (rs.foldl Requirement.strictest r)

/-- The event in progress; an error raised outside of one bears the number zero. -/
def eventNumber (b : Bus) : Nat :=
  b.event.getD 0

/-- The message of a kind that a stage sees for a detector. The strictest covering subscription says
whether it may be missing. -/
def fetch (b : Bus) (stage : StageId) (kind : Kind) (d : String) : Except BusError (Option Message) :=
  match strictest? ((b.covering stage kind d).map Subscription.requirement) with
  | none => .error (.notSubscribed stage kind (some d))
  | some requirement =>
    match b.find? kind d, requirement with
    | some e, _ => .ok (some e.message)
    | none, .optional => .ok none
    | none, .required => .error (.noMessage stage kind (some d) b.eventNumber)

/-- All messages of a kind, for a stage that subscribed to the kind for any detector. -/
def fetchAll (b : Bus) (stage : StageId) (kind : Kind) : Except BusError (List Message) :=
  match b.subscriptions.find? fun s => s.stage == stage && s.kind == kind && s.scope == .any with
  | none => .error (.notSubscribed stage kind none)
  | some s =>
    let found := (b.store.map Entry.message).filter fun m => m.kind == kind
    if found = [] ∧ s.requirement = .required then .error (.noMessage stage kind none b.eventNumber)
    else .ok found

end Bus

end SensorSim
