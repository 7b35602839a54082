/-
The durable intent store of `app/services/intent_store.py`, over the table of the intents API.

The store speaks about intents of the intent package and keeps each of them as the JSON body of
a row, with some fields repeated in columns.  `get` and `list` read the body only, while
`update_state` checks the transition against the column.  A body is the dictionary of an intent,
so `from_dict` gives back what `put` was given; the identifier in it is the row's.
-/
import ControlPlane.Services.IntentsApi

namespace ControlPlane.IntentStore

open IntentsApi

/-- An intent as the intent package has it. -/
structure AuthorisedExecutionIntent where
  intentId : String
  body : IntentBody
deriving DecidableEq

/-- `AuthorisedExecutionIntent.from_dict(json.loads(record.body))`. -/
def fromRecord (record : IntentRecord) : AuthorisedExecutionIntent :=
  ⟨record.intentId, record.body⟩

/-- `list` without a subject: the intents in order of creation, which is the table's. -/
def list (table : IntentTable) : List AuthorisedExecutionIntent :=
  table.map fromRecord

/-- `update_state`.  Nothing comes back when it raises, and then nothing is written. -/
def updateState (rules : TransitionRules) (intentId : String) (newState : IntentLifecycle)
    (now : Time) (table : IntentTable) : Option IntentTable :=
  match table.get? intentId with
  | none => none
  | some record =>
      if rules.allows record.lifecycleState newState then
        some (table.put (record.moved newState now))
      else none

end ControlPlane.IntentStore
