import TriggerScript.Vocabulary.BuiltIn
import TriggerScript.Text.Cut

/-!
# The vocabulary of a chat console

A host whose players are names typed on a console.

* `chat` : the kind of event that a line of chat is.
* `chatRegistry` : the built-in vocabulary with players and chat.
* `chatLine?`, `chatEvent?` : the player and the message of a line, and the event that it is.
-/

namespace TriggerScript.Vocabulary

def playerType : String := "player"

/-- Somebody said something. Lines are read elsewhere, so they are handed to the main thread. -/
def chat : EventKind := ⟨"chat", [], [playerType, textType], true, true⟩

def players : TypeInfo :=
  { TypeInfo.named playerType "player¦s" with
    eventDefault := true, writer := some fun v => v.asKey?.getD "" }

def playerToText (v : Value) : Option Value :=
  v.asKey?.map .text

/-- Whether the message of an event holds a text, given in lower case. -/
def messageHolds (wanted : String) (e : Occurrence) : Bool :=
  match (e.value? textType).bind Value.asText? with
  | some message => Text.isInfix wanted.toList (Text.lower message.toList)
  | none => false

/-- The listener for all chat, or for chat that holds a text, given in lower case. -/
def chatListener : Option String → Listener
  | none => { describe := fun _ => "chat", accepts := fun _ => true }
  | some wanted =>
    { describe := fun _ => "chat containing \"" ++ wanted ++ "\"", accepts := messageHolds wanted }

/-- `chat`, or `chat containing` a constant text. -/
def onChat (_ : Scope) (c : Capture) : Setup Header :=
  let wanted := ((c.part? 0).bind (·.constants?)).bind fun values =>
    values.head?.bind Value.asText?
  .accept (.listens (chatListener (wanted.map Text.lowerString)))

/-- Registers players and chat. -/
def addChat (r : Registration) : Except Fault Registration := do
  let r ← r.addType players
  let r := r.addConversion playerType textType playerToText
  pure (r.addHeader ⟨"chat", [chat], ["chat [containing %-*text%]"], onChat⟩)

/-- The registry of the chat console. -/
def chatRegistry : Except Fault Registry := do
  let r ← addAll .empty
  let r ← addChat r
  r.close

/-- The player and the message of a line: a name without blanks, a colon, and the rest. -/
def chatLine? (line : String) : Option (String × String) :=
  match Text.cutAt? ':' line.toList with
  | none => none
  | some (name, message) =>
    let name := Text.trim name
    if name.isEmpty || name.any Text.isBlank then none
    else some (String.ofList name, String.ofList (Text.trim message))

/-- The event that a player says something. -/
def chatEvent (id : Nat) (player message : String) : Occurrence :=
  { id, kind := chat, asynchronous := true
    values := [(playerType, .object playerType player), (textType, .text message)] }

/-- The event that a line of chat is. -/
def chatEvent? (id : Nat) (line : String) : Option Occurrence :=
  (chatLine? line).map fun said => chatEvent id said.1 said.2

/-- The kinds of events that are always known. -/
def knownEvents : List EventKind := [scriptLoad, periodic, chat]

end TriggerScript.Vocabulary
