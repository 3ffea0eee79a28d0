import TriggerScript.Diagnostics.Log

/-!
# Attempts

Reading a text tries many ways. Each attempt has a result or none, and leaves entries.

* `Attempt` : a result with the entries left on the way.
* `Attempt.framed` : an attempt in a frame of its own: if it succeeds only warnings remain, and
  if it fails only the best error.
* `Attempt.firstOf` : the first of several attempts that succeeds, with the entries of all that
  were made.
-/

namespace TriggerScript

/-- The outcome of an attempt. -/
structure Attempt (α : Type) where
  result : Option α
  entries : List Entry
  deriving Repr

namespace Attempt

variable {α β : Type}

/-- Success without entries. -/
def ok (a : α) : Attempt α := ⟨some a, []⟩

/-- Failure without a reason of its own. -/
def no : Attempt α := ⟨none, []⟩

/-- Failure with an error. -/
def refuse (location : Option Location) (message : String) (quality : Quality) : Attempt α :=
  ⟨none, [.error location message quality]⟩

/-- Success exactly if there is a value. -/
def ofOption (a : Option α) : Attempt α := ⟨a, []⟩

/-- Puts entries in front. -/
def after (entries : List Entry) (a : Attempt α) : Attempt α :=
  ⟨a.result, entries ++ a.entries⟩

/-- Goes on with the result, if there is one. -/
def bind (a : Attempt α) (f : α → Attempt β) : Attempt β :=
  match a.result with
  | some x => (f x).after a.entries
  | none => ⟨none, a.entries⟩

def map (f : α → β) (a : Attempt α) : Attempt β :=
  ⟨a.result.map f, a.entries⟩

/-- Goes on with another attempt if there is no result. -/
def orElse (a : Attempt α) (b : Unit → Attempt α) : Attempt α :=
  match a.result with
  | some _ => a
  | none => (b ()).after a.entries

/-- What remains of entries when an attempt has failed: the best error, or a default. -/
def bestOf (default : Option Entry) (entries : List Entry) : List Entry :=
  ((bestError entries).or default).toList

/-- The attempt as its surroundings see it. -/
def framed (default : Option Entry) (a : Attempt α) : Attempt α :=
  match a.result with
  | some x => ⟨some x, warningsOf a.entries⟩
  | none => ⟨none, bestOf default a.entries⟩

/-- Tries candidates in order until one succeeds. -/
def firstOf (f : α → Attempt β) : List α → Attempt β
  | [] => no
  | a :: rest => (f a).orElse fun _ => firstOf f rest

@[simp] theorem result_after (entries : List Entry) (a : Attempt α) :
    (a.after entries).result = a.result := rfl

@[simp] theorem result_map (f : α → β) (a : Attempt α) :
    (a.map f).result = a.result.map f := rfl

@[simp] theorem result_framed (default : Option Entry) (a : Attempt α) :
    (a.framed default).result = a.result := by
  unfold framed
  split <;> simp_all

end Attempt

end TriggerScript
