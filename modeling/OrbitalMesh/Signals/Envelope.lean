import OrbitalMesh.Base.Dictionaries
import OrbitalMesh.Decision.Trigger

/-!
# From raw signals to triggers

`IngestService` turns a raw signal into an envelope.  The envelope's context starts
from defaults, takes over whatever the client sent along, and is enriched with what
was learned.  `TriggerService` turns the envelope into a trigger, unless the signal
is suppressed.  What the kinds of signals share is defined here.
-/

namespace OrbitalMesh.Signals

open OrbitalMesh.Decision

variable (d : Dict) (key : String)

/-- `d[key]`, where the schema has made it a text. -/
def textAt : String := (getOr d key .null).asStr

/-- `d[key]`, where the schema has made it an object. -/
def objectAt : Dict := ((d.get? key).bind Json.asObj?).getD []

/-- `d[key]`, where the schema has made it an array. -/
def itemsAt : List Json :=
  match d.get? key with
  | some (.arr items) => items
  | _ => []

/-- `d[key]`, where the schema has made it an array of objects. -/
def objectsAt : List Dict := (itemsAt d key).filterMap Json.asObj?

/-- `int(d[key])`, where the schema has made it a whole number. -/
def wholeAt : Int :=
  match d.get? key with
  | some (.int n) => n
  | _ => 0

/-- `EventEnvelope`, of a normalised signal. -/
structure EventEnvelope where
  objectId : String
  emittedAt : String
  payload : Dict

/-- The members of `enrich_context` that are read. -/
structure Enrichment where
  similarPriorCases : Int
  rollbacksLast24h : Int
  regressionsLast7d : Int

/-- `learning_store.enrich_context(service, endpoint)`, where there is a store. -/
abbrev LearningStore := Option (String → Option String → Enrichment)

/-- One pass through the loop of `_enrich_from_learning`. -/
def enrichMember (context : Dict) (key : String) (learned : Int) : Dict :=
  if Json.pyEq (getOr context key (.int 0)) (.int 0) && decide (0 < learned) then
    context.set key (.int learned)
  else context

def enrichFromLearning (store : LearningStore) (context : Dict) (service : String)
    (endpoint : Option String) : Dict :=
  match store with
  | none => context
  | some store =>
    if service.isEmpty then context
    else
      let learned := store service endpoint
      let context := enrichMember context "similar_prior_cases" learned.similarPriorCases
      let context := enrichMember context "rollbacks_last_24h" learned.rollbacksLast24h
      enrichMember context "regressions_last_7d" learned.regressionsLast7d

def enrichedKeys : List String :=
  ["similar_prior_cases", "rollbacks_last_24h", "regressions_last_7d"]

/-- `active_suppression or incident_owned_by_human or known_upstream_outage`. -/
def suppressed (context : Dict) : Bool :=
  flagAt context "active_suppression" false || flagAt context "incident_owned_by_human" false ||
    flagAt context "known_upstream_outage" false

def triggerContextSchema : Schema where
  types := [.object]
  required := ["release_id", "active_incidents", "similar_prior_cases"]
  properties :=
    [("release_id", { types := [.string, .null] }),
     ("active_incidents", { types := [.integer] }),
     ("similar_prior_cases", { types := [.integer] }),
     ("rollbacks_last_24h", { types := [.integer] }),
     ("regressions_last_7d", { types := [.integer] })]

/-- `trigger.validate()`: only the context holds what the client sent unchecked. -/
def validateTrigger (trigger : Trigger) : Except PyError Unit :=
  validateNode (.obj trigger.relatedContext) triggerContextSchema "$.related_context"

variable {keys : List String} {context context' : Dict}

theorem enrichMember_agrees (context : Dict) {key : String} (hkey : key ∈ keys) (learned : Int) :
    Dict.AgreeOff keys context (enrichMember context key learned) := by
  unfold enrichMember
  split
  · exact (Dict.AgreeOff.refl keys context).set_right hkey _
  · exact Dict.AgreeOff.refl keys context

theorem enrichFromLearning_agrees (hkeys : enrichedKeys ⊆ keys) (store : LearningStore)
    (context : Dict) (service : String) (endpoint : Option String) :
    Dict.AgreeOff keys context (enrichFromLearning store context service endpoint) := by
  unfold enrichFromLearning
  split
  · exact Dict.AgreeOff.refl keys context
  · split
    · exact Dict.AgreeOff.refl keys context
    · refine ((enrichMember_agrees context (hkeys ?_) _).trans
        (enrichMember_agrees _ (hkeys ?_) _)).trans (enrichMember_agrees _ (hkeys ?_) _)
      all_goals simp [enrichedKeys]

theorem enrichFromLearning_distinct (hcontext : context.Distinct) (store : LearningStore)
    (service : String) (endpoint : Option String) :
    (enrichFromLearning store context service endpoint).Distinct := by
  have hmember : ∀ {d : Dict}, d.Distinct → ∀ key learned,
      (enrichMember d key learned).Distinct := by
    intro d hd key learned
    unfold enrichMember
    split
    · exact hd.set key _
    · exact hd
  unfold enrichFromLearning
  split
  · exact hcontext
  · split
    · exact hcontext
    · exact hmember (hmember (hmember hcontext _ _) _ _) _ _

section

variable (h : Dict.AgreeOff keys context context')

include h

theorem getOr_of_agree {key : String} (hkey : key ∉ keys)
    (default : Json) : getOr context key default = getOr context' key default := by
  rw [getOr, getOr, h key hkey]

theorem objectAt_of_agree
    {key : String} (hkey : key ∉ keys) : objectAt context key = objectAt context' key := by
  rw [objectAt, objectAt, h key hkey]

theorem objectsAt_of_agree
    {key : String} (hkey : key ∉ keys) : objectsAt context key = objectsAt context' key := by
  rw [objectsAt, objectsAt, itemsAt, itemsAt, h key hkey]

end

end OrbitalMesh.Signals
