import TriggerScript.Parsing.Body

/-!
# Triggers and the switchboard

Which triggers there are, and which of them listen to which kinds of events.

* `Counter` : hands out the numbers from a start on, as long as they are in range.
* `TriggerId` : the number of a trigger; later triggers have higher numbers.
* `Ticks.text` : how a span of ticks is written.
* `Trigger` : a header with a body, ready to run.
* `itemText` : an item as it would be written.
* `Switchboard` : for each kind of events the triggers that listen to it, by number.
* `Switchboard.register`, `Switchboard.unregister` : add and remove a trigger.
* `Switchboard.listeners` : the triggers for an event, each once and in order.
-/

namespace TriggerScript

open TriggerScript.Flow TriggerScript.Parsing

/-! ### Numbering -/

/-- The source of numbers for one kind of thing. The counter itself is 64 bits wide. -/
structure Counter where
  next : UInt64
  deriving DecidableEq, Repr, Inhabited

/-- Takes the next number. It is lost if it exceeds `limit`. -/
def Counter.draw (limit : Nat) (c : Counter) : Option Nat × Counter :=
  (if c.next.toNat ≤ limit then some c.next.toNat else none, ⟨c.next + 1⟩)

/-- Takes several numbers in a row. -/
def Counter.drawMany (limit : Nat) (c : Counter) : Nat → List (Option Nat)
  | 0 => []
  | n + 1 => let (id, c) := c.draw limit; id :: c.drawMany limit n

/-- The number of a trigger. -/
structure TriggerId where
  number : Nat
  deriving DecidableEq, Repr, Inhabited

/-- The highest number that a trigger can have. -/
def TriggerId.limit : Nat := UInt32.size - 1

def TriggerId.text (id : TriggerId) : String := "#" ++ toString id.number

/-- A span of ticks in words. -/
def Ticks.text (n : UInt64) : String :=
  if n == 1 then "1 tick" else toString n.toNat ++ " ticks"

/-! ### Triggers -/

/-- An item of a trigger. -/
abbrev ScriptItem := Item Condition Effect Expression

/-- The line of an item as it would be written. -/
def itemText (debug : Bool) (item : ScriptItem) : String :=
  match item.kind with
  | .check c => c.describe debug
  | .act e => e.describe debug
  | .choose branches =>
    match branches.head?.bind (·.1) with
    | some c => "if " ++ c.describe debug
    | none => "else"
  | .loop values _ => "loop " ++ values.describe debug
  | .whileHolds c _ => "while " ++ c.describe debug

/-- A trigger of a script. -/
structure Trigger where
  id : TriggerId
  location : Location
  header : Header
  /-- The kinds of events that it is about. -/
  kinds : List EventKind
  graph : ScriptGraph
  deriving Inhabited

namespace Trigger

/-- The header as it would be written. -/
def describe (t : Trigger) : String :=
  "on " ++ t.header.describe false

/-- The place of an item. -/
def itemLocation (t : Trigger) (id : ItemId) : Location :=
  match t.graph.get? id with
  | some item => ⟨t.location.script, item.line⟩
  | none => t.location

/-- What is running when a walk is at an item, and where. -/
def placeText (t : Trigger) (place : Option ItemId) : String × Location :=
  match place with
  | some id => (((t.graph.get? id).map (itemText true)).getD "", t.itemLocation id)
  | none => (t.describe, t.location)

/-- The trigger in words. -/
def summary (t : Trigger) (active : Bool) : String :=
  "Trigger \x7b id: TriggerId(" ++ toString t.id.number ++ "), event: " ++
    Text.literal t.describe ++ ", location: " ++ Text.literal t.location.text ++ ", items: " ++
    toString t.graph.size ++ ", active: " ++ Value.boolText active ++ " \x7d"

end Trigger

/-! ### The switchboard -/

/-- The listening triggers by the name of the kind of events. No list is empty. -/
structure Switchboard where
  rows : List (String × List Trigger)
  deriving Inhabited

namespace Switchboard

def empty : Switchboard := ⟨[]⟩

/-- Puts a trigger behind those with lower numbers. -/
def insertTrigger (t : Trigger) : List Trigger → List Trigger
  | [] => [t]
  | u :: rest => if u.id.number < t.id.number then u :: insertTrigger t rest else t :: u :: rest

/-- Adds a trigger to a list, unless its number is there already. -/
def addTo (t : Trigger) (list : List Trigger) : List Trigger :=
  if list.any (·.id == t.id) then list else insertTrigger t list

/-- Adds a trigger for one kind of events. -/
def addRow (kind : String) (t : Trigger) : List (String × List Trigger) →
    List (String × List Trigger)
  | [] => [(kind, [t])]
  | row :: rest =>
    if row.1 == kind then (row.1, addTo t row.2) :: rest else row :: addRow kind t rest

/-- Adds a trigger for all its kinds of events. -/
def register (s : Switchboard) (t : Trigger) : Switchboard :=
  ⟨t.kinds.foldl (fun rows kind => addRow kind.name t rows) s.rows⟩

/-- Removes a trigger everywhere. -/
def unregister (s : Switchboard) (id : TriggerId) : Switchboard :=
  ⟨(s.rows.map fun row => (row.1, row.2.filter (·.id != id))).filter (!·.2.isEmpty)⟩

/-- The triggers that listen to exactly one kind of events. -/
def row (s : Switchboard) (kind : String) : List Trigger :=
  (s.rows.lookup kind).getD []

/-- Leaves out a trigger whose number has just come before. -/
def dropRepeats : List Trigger → List Trigger
  | [] => []
  | [t] => [t]
  | t :: u :: rest =>
    if t.id == u.id then
      match dropRepeats (u :: rest) with
      | [] => [t]
      | _ :: others => t :: others
    else t :: dropRepeats (u :: rest)

/-- The triggers that listen to a kind of events or to one it derives from, ordered by number,
each once. -/
def listeners (s : Switchboard) (kind : EventKind) : List Trigger :=
  dropRepeats ((kind.lineage.flatMap s.row).mergeSort fun t u => t.id.number ≤ u.id.number)

/-- The numbers of all registered triggers, each once. -/
def ids (s : Switchboard) : List TriggerId :=
  (s.rows.flatMap fun row => row.2.map (·.id)).eraseDups

/-- How many triggers are registered. -/
def size (s : Switchboard) : Nat := s.ids.length

def isEmpty (s : Switchboard) : Bool := s.rows.isEmpty

end Switchboard

end TriggerScript
