import StyleUsage.Analysis.Summary
import StyleUsage.Template.Registry
import StyleUsage.Walk.Script

/-!
# Replaying a walk

A script tells the steps of its walk: the bindings, then for each element its start, its styles,
its dynamic styles and its end. Replaying takes these steps on a fresh analysis of the template
that the registry rebuilds.
-/

namespace StyleUsage

/-- Why a script cannot be replayed. -/
inductive ReplayError where
  | template (cause : DescriptorError)
  | reference (cause : WalkError)
  | step (cause : ProtocolError)
  deriving DecidableEq, Repr

def ReplayError.message : ReplayError → String
  | .template cause => cause.message
  | .reference cause => cause.message
  | .step cause => cause.message

namespace WalkScript

def elementSteps (s : WalkScript) (e : WalkElement) :
    Except WalkError (List (WalkStep String StyleRef)) := do
  let styles ← e.styles.mapM s.resolve
  let dynamic ← e.dynamic.mapM s.resolve
  .ok (.start :: styles.map .add ++ dynamic.map .mark ++ [.finish])

def steps (s : WalkScript) : Except WalkError (List (WalkStep String StyleRef)) := do
  let elements ← s.elements.mapM s.elementSteps
  .ok (s.bound.map (fun name => .bind name name) ++ elements.flatten)

def replay (s : WalkScript) (registry : Registry) :
    Except ReplayError (Analysis String StyleRef) := do
  let template ← (registry.rebuild s.template).mapError .template
  let steps ← s.steps.mapError .reference
  ((Analysis.begin template).runAll steps).mapError .step

end WalkScript

end StyleUsage
