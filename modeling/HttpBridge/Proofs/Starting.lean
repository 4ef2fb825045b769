import HttpBridge.Connect.Host
import HttpBridge.Proofs.Results

namespace HttpBridge

@[simp] theorem Setup.run_ofExcept {α : Type} (x : Except ConfigFault α) :
    (ofExcept x).run.value = x := rfl

namespace Start

variable {τ α β : Type} (place : τ × QueueRegistry)

theorem run_bind (x : Start τ α) (f : α → Start τ β) :
    ((x >>= f).run.run place).value = match (x.run.run place).value with
      | (.ok a, place) => ((f a).run.run place).value
      | (.error e, place) => (.error e, place) := by
  change (ExceptT.bindCont f (x place).value.1 (x place).value.2).value =
    match (x place).value with
      | (.ok a, place) => (f a place).value
      | (.error e, place) => (.error e, place)
  generalize (x place).value = ran
  obtain ⟨result, place⟩ := ran
  cases result with
  | ok a => rfl
  | error e => rfl

@[simp] theorem run_check (x : Setup α) :
    ((check x).run.run place).value = (x.run.value, place) := rfl

@[simp] theorem run_log (x : Logged Unit) : ((log x).run.run place).value = (.ok (), place) := rfl

@[simp] theorem run_queue (name : String) : ((queue name).run.run place).value =
    (.ok (place.2.queue name).value.1, (place.1, (place.2.queue name).value.2)) := rfl

@[simp] theorem run_nameOf (handle : QueueHandle) :
    ((nameOf handle).run.run place).value = (.ok (place.2.nameOf handle), place) := rfl

@[simp] theorem run_become (t : τ) :
    ((become t).run.run place).value = (.ok (), (t, place.2)) := rfl

variable {place}

theorem fresh_eq_ok {x : Start τ Unit} {new : τ} {queues : QueueRegistry} :
    (fresh x new queues).run.value = .ok place ↔
      (x.run.run (new, queues)).value = (.ok (), place) := by
  change (x.run.run (new, queues)).value.1.map (fun _ => (x.run.run (new, queues)).value.2) = _ ↔ _
  generalize (x.run.run (new, queues)).value = ran
  obtain ⟨result, place'⟩ := ran
  cases result with
  | ok a => simp [Except.map]
  | error f => simp [Except.map]

/-- What a start comes to, by what it reads: a fault leaves its place as it is, and what is made
does not depend on what was there. -/
def settle (make : Except ConfigFault (QueueRegistry → τ × QueueRegistry))
    (place : τ × QueueRegistry) : Except ConfigFault Unit × (τ × QueueRegistry) :=
  match make with
  | .ok made => (.ok (), made place.2)
  | .error f => (.error f, place)

theorem settle_eq_ok {make : Except ConfigFault (QueueRegistry → τ × QueueRegistry)}
    {place' : τ × QueueRegistry} :
    settle make place = (.ok (), place') ↔ ∃ made, make = .ok made ∧ made place.2 = place' := by
  cases make with
  | ok made => simp [settle]
  | error f => simp [settle]

end Start

variable {σ : Type} (w : World σ) (files : Files) (s : Settings)

def Sink.read : Except ConfigFault (SinkSettings × Registry σ) := do
  let settings ← SinkSettings.ofSettings s
  let registry ← (Registry.ofSettings w files s).run.value
  return (settings, registry)

def SinkTask.made (settings : SinkSettings) (registry : Registry σ) (queues : QueueRegistry) :
    SinkTask σ × QueueRegistry :=
  if settings.publishes then
    let (handle, queues) := (queues.queue settings.queueName).value
    (⟨some ⟨settings, ⟨w, registry⟩, some handle⟩⟩, queues)
  else (⟨some ⟨settings, ⟨w, registry⟩, none⟩⟩, queues)

theorem SinkTask.made_started (settings : SinkSettings) (registry : Registry σ)
    (queues : QueueRegistry) : ∃ sink, (made w settings registry queues).1 = ⟨some sink⟩ := by
  unfold made
  split
  · exact ⟨_, rfl⟩
  · exact ⟨_, rfl⟩

def SourceTask.made (settings : SourceSettings) (queues : QueueRegistry) :
    SourceTask × QueueRegistry :=
  let (handle, queues) := (queues.queue settings.queueName).value
  (⟨some ⟨settings, handle⟩⟩, queues)

def SinkTask.make : Except ConfigFault (QueueRegistry → SinkTask σ × QueueRegistry) :=
  (Sink.read w files s).map fun read => made w read.1 read.2

def SourceTask.make : Except ConfigFault (QueueRegistry → SourceTask × QueueRegistry) :=
  (SourceSettings.ofSettings s).map made

def SinkConnector.make : Except ConfigFault (QueueRegistry → SinkConnector × QueueRegistry) :=
  (Sink.read w files s).map fun _ queues => (⟨some s⟩, queues)

def SourceConnector.make : Except ConfigFault (QueueRegistry → SourceConnector × QueueRegistry) :=
  (SourceSettings.ofSettings s).map fun _ queues => (⟨some s⟩, queues)

def Kind.make : (k : Kind) → Except ConfigFault (QueueRegistry → k.State σ × QueueRegistry)
  | sinkTask => SinkTask.make w files s
  | sourceTask => SourceTask.make s
  | sinkConnector => SinkConnector.make w files s
  | sourceConnector => SourceConnector.make s

variable {w files s}

theorem Sink.read_eq_ok {settings : SinkSettings} {registry : Registry σ} :
    read w files s = .ok (settings, registry) ↔
      SinkSettings.ofSettings s = .ok settings ∧
        (Registry.ofSettings w files s).run.value = .ok registry := by
  simp only [read, bind_eq_ok]
  constructor
  · rintro ⟨_, first, _, second, ⟨⟩⟩
    exact ⟨first, second⟩
  · rintro ⟨first, second⟩
    exact ⟨_, first, _, second, rfl⟩

theorem SinkTask.restart_run (place : SinkTask σ × QueueRegistry) :
    ((restart w files s).run.run place).value =
      Start.settle (make w files s) place := by
  simp only [restart, Start.run_bind, Start.run_check, Setup.run_ofExcept, make, Sink.read]
  cases SinkSettings.ofSettings s with
  | error f => rfl
  | ok settings =>
    cases (Registry.ofSettings w files s).run.value with
    | error f => rfl
    | ok registry =>
      change _ = (Except.ok (), made w settings registry place.2)
      by_cases publishes : settings.publishes
      · simp only [if_pos publishes, made, Start.run_bind, Start.run_queue, Start.run_nameOf,
          Start.run_log, Start.run_become]
      · simp only [if_neg publishes, made, Start.run_bind, Start.run_log, Start.run_become]

theorem SourceTask.restart_run (place : SourceTask × QueueRegistry) :
    ((restart s).run.run place).value = Start.settle (make s) place := by
  simp only [restart, Start.run_bind, Start.run_check, Setup.run_ofExcept, make]
  cases SourceSettings.ofSettings s with
  | error f => rfl
  | ok settings => rfl

theorem SinkConnector.restart_run (place : SinkConnector × QueueRegistry) :
    ((restart w files s).run.run place).value =
      Start.settle (make w files s) place := by
  simp only [restart, Start.run_bind, Start.run_check, Setup.run_ofExcept, make, Sink.read]
  cases SinkSettings.ofSettings s with
  | error f => rfl
  | ok settings =>
    cases (Registry.ofSettings w files s).run.value with
    | error f => rfl
    | ok registry => rfl

theorem SourceConnector.restart_run (place : SourceConnector × QueueRegistry) :
    ((restart s).run.run place).value =
      Start.settle (make s) place := by
  simp only [restart, Start.run_bind, Start.run_check, Setup.run_ofExcept, make]
  cases SourceSettings.ofSettings s with
  | error f => rfl
  | ok settings => rfl

theorem Kind.restart_run (k : Kind) (place : k.State σ × QueueRegistry) :
    ((k.restart w files s).run.run place).value = Start.settle (k.make w files s) place := by
  cases k with
  | sinkTask => exact SinkTask.restart_run place
  | sourceTask => exact SourceTask.restart_run place
  | sinkConnector => exact SinkConnector.restart_run place
  | sourceConnector => exact SourceConnector.restart_run place

end HttpBridge
