import Gateway.Health.ProbeUri
import Gateway.Router.Registry

namespace Gateway

/-! The passing of time. Probes are answered by their destinations: a scene is a
gateway together with the answers that its destinations have in store. -/

/-- The answer to one probe: after a delay it ends with an outcome, or it crashes. -/
structure ProbeAnswer where
  delay : Nat := 0
  outcome : Option ProbeOutcome
  deriving Repr, DecidableEq, Inhabited

def ProbeAnswer.usual : ProbeAnswer := { outcome := some (.answered 200) }

/-- The answers of each destination id, next one first. The last answer of a
destination is given again and again. -/
abbrev ProbeScript := Keyed (List ProbeAnswer)

namespace ProbeScript

def take (script : ProbeScript) (destination : String) : ProbeAnswer × ProbeScript :=
  match script.get? destination with
  | none | some [] => (.usual, script)
  | some [last] => (last, script)
  | some (answer :: rest) => (answer, script.insert destination rest)

end ProbeScript

structure Scene where
  router : Router
  script : ProbeScript := {}

/-- A batch of probes that has been sent: how long it takes and how it ends. -/
structure Batch where
  duration : Nat
  outcome : BatchEnd

namespace Batch

def instantCrash : Batch := { duration := 0, outcome := .crashed }

/-- Adds the answer to a probe to what comes of the probes after it. The batch
lasts as long as its slowest probe, or limit its first crash. -/
def add (record : Nat) (answer : ProbeAnswer) (batch : Batch) : Batch :=
  match answer.outcome, batch.outcome with
  | none, .completed _ => { duration := answer.delay, outcome := .crashed }
  | none, .crashed => { duration := min answer.delay batch.duration, outcome := .crashed }
  | some _, .crashed => batch
  | some outcome, .completed results =>
      { duration := max answer.delay batch.duration
        outcome := .completed ((record, outcome) :: results) }

end Batch

/-- Sends a probe to every candidate in turn. A probe whose address is no URI
fails by itself; one that crashes at once keeps the later ones from being sent. -/
def sendProbes (config : ActiveCheckConfig) (script : ProbeScript) :
    List Candidate → Effect (Batch × ProbeScript)
  | [] => pure ({ duration := 0, outcome := .completed [] }, script)
  | candidate :: rest => do
      match probeUri candidate.destination.config config.path with
      | .error fault => do
          Traced.emit (.probe candidate.id none config.timeout)
          let (batch, script) ← sendProbes config script rest
          pure (batch.add candidate.record { outcome := some (.failed fault) }, script)
      | .ok uri => do
          Traced.emit (.probe candidate.id (some uri.render) config.timeout)
          let (answer, script) := script.take candidate.id
          if answer.outcome.isNone ∧ answer.delay = 0 then pure (.instantCrash, script)
          else do
            let (batch, script) ← sendProbes config script rest
            pure (batch.add candidate.record answer, script)

namespace Router

/-- The next tick of a loop is due one interval after the end of the last one. -/
def scheduleTick (router : Router) (ref : ClusterRef) (loop : Nat) : Router :=
  match router.cluster? ref with
  | none => router
  | some cluster =>
      let interval := max 1 cluster.model.config.healthCheck.active.interval
      router.setAlarm
        { due := router.now + interval, cluster := ref, wakeup := .tick loop }

/-- Judges the results of a batch of probes together. A batch that crashed has none. -/
def judge (router : Router) (ref : ClusterRef) (policy : ActivePolicy) :
    BatchEnd → Effect Router
  | .completed results =>
      Prod.fst <$> router.withCluster ref () (fun cluster =>
        (fun cluster => (cluster, ())) <$> cluster.settleProbes policy results)
  | .crashed => pure router

def settle (router : Router) (ref : ClusterRef) (loop : Nat) (policy : ActivePolicy)
    (outcome : BatchEnd) : Effect Router := do
  if outcome = .crashed then Effect.tellOf ref.id .probingCrashed
  let router ← router.judge ref policy outcome
  pure (router.scheduleTick ref loop)

end Router

namespace Scene

/-- Sends probes to the current destinations of a cluster, if there is a policy
to judge the results. -/
def send (scene : Scene) (ref : ClusterRef) :
    Effect (Scene × Option (ActivePolicy × Batch)) :=
  match scene.router.cluster? ref with
  | none => pure (scene, none)
  | some cluster =>
      match cluster.model.active with
      | none => pure (scene, none)
      | some policy => do
          let (batch, script) ←
            sendProbes cluster.model.config.healthCheck.active scene.script
              (cluster.candidates cluster.current.values)
          pure ({ scene with script }, some (policy, batch))

def tick (scene : Scene) (ref : ClusterRef) (loop : Nat) : Effect Scene := do
  let (scene, sent) ← scene.send ref
  let router := scene.router
  match sent with
  | none => pure { scene with router := router.scheduleTick ref loop }
  | some (policy, batch) =>
      if batch.duration = 0 then do
        let router ← router.settle ref loop policy batch.outcome
        pure { scene with router }
      else
        let alarm : Alarm :=
          { due := router.now + batch.duration
            cluster := ref
            wakeup := .settle loop policy batch.outcome }
        pure { scene with router := router.setAlarm alarm }

def wake (scene : Scene) (alarm : Alarm) : Effect Scene :=
  match alarm.wakeup with
  | .reactivate exclusion => do
      let (router, _) ← scene.router.withCluster alarm.cluster () (fun cluster =>
        (fun cluster => (cluster, ())) <$> cluster.reactivate exclusion)
      pure { scene with router }
  | .beginProbing loop => do
      Effect.tellOf alarm.cluster.id .probingStarted
      scene.tick alarm.cluster loop
  | .tick loop => scene.tick alarm.cluster loop
  | .settle loop policy outcome => do
      let router ← scene.router.settle alarm.cluster loop policy outcome
      pure { scene with router }

/-- Lets alarms that are due before an instant ring, at most as many as the first
argument says. -/
def ring : Nat → (horizon : Nat) → Scene → Effect Scene
  | 0, _, scene => pure scene
  | count + 1, horizon, scene =>
      match nextAlarm? scene.router.agenda with
      | none => pure scene
      | some (alarm, others) =>
          if alarm.due < horizon then do
            let now := max scene.router.now alarm.due
            let router := { scene.router with now, agenda := others }
            let scene ← { scene with router }.wake alarm
            scene.ring count horizon
          else pure scene

/-- An alarm that rings sets at most one other, for a later time. So this many
alarms can ring before an instant. -/
def alarmsBefore (scene : Scene) (horizon : Nat) : Nat :=
  scene.router.agenda.foldl (fun count alarm => count + (horizon - alarm.due)) 0

/-- Lets time pass up to an instant. Every alarm that is due earlier rings, in order. -/
def advanceBefore (scene : Scene) (horizon : Nat) : Effect Scene := do
  let scene ← scene.ring (scene.alarmsBefore horizon) horizon
  pure { scene with router := { scene.router with now := max scene.router.now horizon } }

/-- Lets time pass up to an instant. Every alarm that is due by then rings, in
order. -/
def advance (scene : Scene) (limit : Nat) : Effect Scene := do
  let scene ← scene.ring (scene.alarmsBefore (limit + 1)) (limit + 1)
  pure { scene with router := { scene.router with now := max scene.router.now limit } }

def catchUp (scene : Scene) : Effect Scene :=
  scene.advance scene.router.now

/-- Probes a cluster by hand and waits for the results. They are judged before
any other work that is due when they arrive. -/
def checkOnce (scene : Scene) (ref : ClusterRef) : Effect Scene := do
  let (scene, sent) ← scene.send ref
  match sent with
  | none => pure scene
  | some (policy, batch) => do
      let scene ← scene.advanceBefore (scene.router.now + batch.duration)
      let router ← scene.router.judge ref policy batch.outcome
      pure { scene with router }

end Scene

end Gateway
