import RailLayout.Command.Trigger

/-!
What a command implies and what it switches off. The graph holds two registered relations between triggers:
causes, with their results, and actors, with what they switch off. Each relation is filed both ways, so that either
member of a pair finds the other. Queries follow one step and may spell their answers as aliases, in canonical form,
or both.
-/

namespace RailLayout

/-- Sets of triggers, each filed under a trigger. -/
abbrev TriggerIndex := List (Trigger × TriggerSet)

namespace TriggerIndex

/-- The set that is filed under a trigger, if there is one. -/
def get? (index : TriggerIndex) (t : Trigger) : Option TriggerSet :=
  (index.find? fun entry => entry.1 == t).map Prod.snd

/-- Put `u` into the set that is filed under `t`. -/
def add (t u : Trigger) : TriggerIndex → TriggerIndex
  | [] => [(t, [u])]
  | (key, set) :: rest =>
    if key = t then (key, TriggerSet.insert u set) :: rest else (key, set) :: add t u rest

end TriggerIndex

/-- A relation between triggers, filed both ways. -/
structure Links where
  /-- The second members of the pairs, by the first one. -/
  targets : TriggerIndex
  /-- The first members of the pairs, by the second one. -/
  origins : TriggerIndex
  deriving DecidableEq

namespace Links

def empty : Links := ⟨[], []⟩

def link (t : Trigger) (links : Links) (u : Trigger) : Links :=
  ⟨links.targets.add t u, links.origins.add u t⟩

/-- File a trigger with each of a list of others. -/
def linkAll (links : Links) (t : Trigger) (us : List Trigger) : Links :=
  us.foldl (link t) links

end Links

/-- The two relations. -/
structure EffectGraph where
  /-- Causes and what they result in. -/
  causes : Links
  /-- Actors and what they switch off. -/
  toggles : Links
  deriving DecidableEq

namespace EffectGraph

def empty : EffectGraph := ⟨.empty, .empty⟩

/-- Register results of a cause. An alias also registers them for what it spells, which is no alias itself. -/
def registerCauses (graph : EffectGraph) (cause : Trigger) (results : List Trigger) : EffectGraph :=
  let own := graph.causes.linkAll cause results
  match cause.canonical? with
  | some canonical => { graph with causes := own.linkAll canonical results }
  | none => { graph with causes := own }

/-- Register what an actor switches off. The converse is not implied. -/
def registerToggles (graph : EffectGraph) (actor : Trigger) (toggled : List Trigger) : EffectGraph :=
  { graph with toggles := graph.toggles.linkAll actor toggled }

/-- How a query spells one trigger: an alias as itself, in canonical form, both or not at all. -/
def spell (dereference keepAliases : Bool) (t : Trigger) : List Trigger :=
  match t.canonical? with
  | some canonical => (if keepAliases then [t] else []) ++ (if dereference then [canonical] else [])
  | none => [t]

/-- The set of triggers in a list, spelled as asked. -/
def harvest (dereference keepAliases : Bool) (triggers : List Trigger) : TriggerSet :=
  TriggerSet.ofList (triggers.flatMap (spell dereference keepAliases))

/-- A harvest, and `t` spelled as asked unless it is there already. -/
def withSelf (dereference keepAliases : Bool) (t : Trigger) (found : TriggerSet) : TriggerSet :=
  if found.contains t then found else found.insertAll (spell dereference keepAliases t)

/-- What a trigger results in, itself included. An alias without results of its own has those of what it
spells; a trigger without results stands as it is. -/
def resultsIn (graph : EffectGraph) (t : Trigger) (dereference keepAliases : Bool) : TriggerSet :=
  match graph.causes.targets.get? t with
  | some results => withSelf dereference keepAliases t (harvest dereference keepAliases results)
  | none =>
    match t.canonical? with
    | some canonical =>
      match graph.causes.targets.get? canonical with
      | some results =>
        (harvest dereference keepAliases results).insertAll (spell dereference keepAliases t)
      | none => [t]
    | none => [t]

def causedBy (graph : EffectGraph) (t : Trigger) (dereference keepAliases : Bool) : TriggerSet :=
  match graph.causes.origins.get? t with
  | some causes => withSelf dereference keepAliases t (harvest dereference keepAliases causes)
  | none => [t]

def enabledBy (graph : EffectGraph) (t : Trigger) (dereference keepAliases : Bool) : TriggerSet :=
  harvest dereference keepAliases (graph.causedBy t false true)

/-- What switches a trigger off: what it toggles, and the direct causes of that. -/
def disabledBy (graph : EffectGraph) (t : Trigger) (dereference keepAliases : Bool) : TriggerSet :=
  match graph.toggles.targets.get? t with
  | some toggled =>
    let first := harvest dereference keepAliases toggled
    first.foldl
      (fun acc u => acc.insertAll (harvest dereference keepAliases (graph.causedBy u false true)))
      first
  | none => []

/-- What was registered as switching a trigger off. -/
def toggledBy (graph : EffectGraph) (t : Trigger) : TriggerSet :=
  (graph.toggles.origins.get? t).getD []

/-! ## The stock graph -/

def legacy (op : EngineOp) : Trigger := (Operation.engine .legacy op).trigger

def tmcc (op : EngineOp) : Trigger := (Operation.engine .tmcc op).trigger

/-- What a stopped Legacy engine falls back to. -/
def atRest : List Trigger :=
  [legacy .speedStopHold, legacy .dieselRpm, legacy .engineLaborDefault]

/-- The operations that change the direction of an engine. -/
def turns : List EngineOp := [.forwardDirection, .reverseDirection, .toggleDirection]

def smokeLevels : List EngineOp := [.smokeOff, .smokeLow, .smokeMedium, .smokeHigh]

/-- Causes of the stock graph, each with its results. -/
def stockCauses : List (Trigger × List Trigger) :=
  [(legacy .systemHalt, [legacy .speedStopHold]),
   (legacy .reset,
     [legacy .stopImmediate, legacy .forwardDirection, legacy .startUpImmediate, legacy .bellOff,
      legacy .dieselRpm, legacy .engineLaborDefault, legacy .aux1Off, legacy .aux2Off, legacy .numeric]),
   (legacy .stopImmediate, atRest)] ++
  turns.map (fun op => (legacy op, legacy .stopImmediate :: atRest)) ++
  [(legacy .shutdownImmediate,
     [legacy .speedStopHold, legacy .stopImmediate, legacy .dieselRpm, legacy .engineLaborDefault]),
   (tmcc .reset,
     [tmcc .speedStopHold, tmcc .forwardDirection, tmcc .rpmDown, tmcc .aux1Off, tmcc .aux2Off,
      tmcc .numeric])] ++
  turns.map (fun op => (tmcc op, [tmcc .speedStopHold]))

/-- Actors of the stock graph, each with what it switches off. -/
def stockToggles : List (Trigger × List Trigger) :=
  [((Operation.switch .out).trigger, [(Operation.switch .through).trigger]),
   ((Operation.switch .through).trigger, [(Operation.switch .out).trigger]),
   ((Operation.accessory .aux1OptOne).trigger, [(Operation.accessory .aux2OptOne).trigger]),
   ((Operation.accessory .aux2OptOne).trigger, [(Operation.accessory .aux1OptOne).trigger]),
   (legacy .forwardDirection, [legacy .reverseDirection]),
   (legacy .reverseDirection, [legacy .forwardDirection])] ++
  smokeLevels.map fun level => (legacy level, (smokeLevels.filter (· != level)).map legacy)

def register (graph : EffectGraph) (causes toggles : List (Trigger × List Trigger)) : EffectGraph :=
  let caused := causes.foldl (fun g entry => g.registerCauses entry.1 entry.2) graph
  toggles.foldl (fun g entry => g.registerToggles entry.1 entry.2) caused

def stock : EffectGraph := empty.register stockCauses stockToggles

end EffectGraph
end RailLayout
