import HttpBridge.Proofs.Bridge.Batches
import HttpBridge.Proofs.Bridge.Content

namespace HttpBridge.Bridge

variable {σ : Type}

/-- However calls and polls follow one another, what was polled and then what is queued is what the
queue took, in this order and each call once. A record that was polled tells of its exchange as it
was given back, with key and headers of the record it came from, and on the topic that is for it;
no poll loses a record. -/
theorem conserves_exchanges {name : String} {s : State σ} (h : Reachable name s) :
    (s.polled.map (fun p => Exchange.decode p.record.value) ++
        (s.fx.queues.content name).map (fun r => .ok r.exchange) =
      s.accepted.map fun a => .ok a.exchange) ∧
    (∀ (i : Nat) (p : Polled), s.polled[i]? = some p → ∃ a, s.accepted[i]? = some a ∧ Tells p a ∧
      (a.exchange.response.isTransportFailure = true →
        p.record.topic = p.settings.errorTopic)) ∧
    (s.accepted.Pairwise fun a a' => (a.batch, a.place) ≠ (a'.batch, a'.place)) ∧
    (∀ answer ∈ s.answers, ∀ a ∈ s.accepted, a.batch = answer.batch →
      answer.records[a.place]? = some a.record ∧
        answer.exchanges[a.place]? = some a.exchange) ∧
    ∀ source ∈ s.sources, ∃ records queues,
      ((⟨some source⟩ : SourceTask).poll s.fx.queues).value = (some records, queues) ∧
        records.length + (queues.content name).length = (s.fx.queues.content name).length := by
  have kept := h.kept
  have matched := h.matched
  refine ⟨kept.conserves, fun i p there => ?_, matched.once, matched.answers,
    fun source started => kept.poll_length started⟩
  obtain ⟨a, taken, tells⟩ := kept.polled i p there
  exact ⟨a, taken, tells, kept.topic (List.mem_of_getElem? taken) tells⟩

def plainSettings : Settings :=
  .ofList [(publishKey, "true"), (successTopicKey, "done"), (errorTopicKey, "failed"),
    (configurationKeys defaultConfigurationId ++ RetryPolicy.retriesKey, "0")]

def plainRecord : Record :=
  ⟨"requests", some "key", (Request.get "http://a").serialize.toOption.getD "", [("name", "value")]⟩

theorem conserves_exchanges_failed : ∃ (s : State Nat) (p : Polled) (a : Accepted),
    Reachable "default" s ∧ s.polled = [p] ∧ s.accepted[0]? = some a ∧ Tells p a ∧
      p.record.topic = "failed" := by
  have run : (SinkTask.start Retry.clockWorld .empty (.new 1) plainSettings).run.value.toOption.any
      (fun sink => (SourceTask.start sink.2 plainSettings).run.value.toOption.any fun source =>
        sink.1.state.isSome && source.1.state.isSome &&
        (source.1.poll (sink.1.put [plainRecord] [0] ⟨source.2, .empty, 0⟩).value.2.queues).value.1.any
          fun records => records.map (·.topic) == ["failed"]) = true := by
    decide +kernel
  obtain ⟨⟨⟨sink⟩, queues⟩, started, run⟩ := (Option.any_eq_true ..).mp run
  obtain ⟨⟨⟨source⟩, queues'⟩, started', run⟩ := (Option.any_eq_true ..).mp run
  simp only [Bool.and_eq_true, Option.isSome_iff_exists, Option.any_eq_true] at run
  obtain ⟨⟨⟨sink, rfl⟩, source, rfl⟩, records, polls, topics⟩ := run
  obtain ⟨record, rfl, topic⟩ := List.map_eq_singleton_iff.mp (eq_of_beq topics)
  have r₁ := (Reachable.start 1 .empty 0).next (.startSink rfl (Setup.gives_of_toOption started))
  have r₂ := r₁.next (.startSource rfl (Setup.gives_of_toOption started'))
  generalize puts : ((⟨some sink⟩ : SinkTask Nat).put [plainRecord] [0] ⟨queues', .empty, 0⟩).value =
    result at polls
  obtain ⟨result, fx⟩ := result
  obtain ⟨s, r₃, rfl, tasks, -⟩ := r₂.put List.mem_cons_self (.refl [0]) puts
  have r₄ := r₃.next (.poll (tasks.sources ▸ List.mem_cons_self) (Prod.ext polls rfl))
  obtain ⟨a, taken, tells, -⟩ := (conserves_exchanges r₄).2.1 0 ⟨source.settings, record⟩ (by
    simp [tasks.polled, State.start])
  exact ⟨_, _, a, r₄, by simp [tasks.polled, State.start], taken, tells, topic⟩

end HttpBridge.Bridge
