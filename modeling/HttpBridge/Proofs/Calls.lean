import HttpBridge.Proofs.Refusal
import HttpBridge.Proofs.Sending

namespace HttpBridge

variable {σ : Type}

abbrev World.Noting (σ : Type) := σ × List (Time.Moment × Submission)

def World.Sends (P : Submission → Prop) (before after : World.Noting σ) : Prop :=
  ∃ sent, after.2 = before.2 ++ sent ∧ ∀ note ∈ sent, P note.2

namespace World.Sends

variable {P Q : Submission → Prop} {st st' st'' : World.Noting σ}

theorem nothing (same : st'.2 = st.2) : Sends P st st' :=
  ⟨[], same.trans (List.append_nil _).symm, List.forall_mem_nil _⟩

theorem trans (h : Sends P st st') (h' : Sends P st' st'') : Sends P st st'' := by
  obtain ⟨first, noted, all⟩ := h
  obtain ⟨rest, noted', all'⟩ := h'
  refine ⟨first ++ rest, ?_, fun note member => ?_⟩
  · rw [noted', noted, List.append_assoc]
  · exact (List.mem_append.mp member).elim (all note) (all' note)

theorem mono (h : Sends P st st') (imp : ∀ s, P s → Q s) : Sends Q st st' := by
  obtain ⟨sent, noted, all⟩ := h
  exact ⟨sent, noted, fun note member => imp _ (all note member)⟩

theorem send {w : World σ} {s : Submission} (kind : P s) (st : World.Noting σ) :
    Sends P st (w.noting.send s st).2 :=
  ⟨[(w.now st.1, s)], rfl, fun _ member => List.mem_singleton.mp member ▸ kind⟩

end World.Sends

open World (Sends Noting)

def Request.Makes (r : Request) (s : Submission) : Prop :=
  ∃ (i : Implementation) (boundary : String), i.build (i.handed boundary r) = some s

variable {w : World σ} {r : Request} {st : Noting σ}

namespace Client

theorem respond_sends (w : World σ) (i : Implementation) (r : Request) (st : Noting σ) :
    Sends r.Makes st (respond w.noting i r st).value.2 := by
  cases i with
  | lenient =>
    simp only [respond, lenient, Logged.value_bind]
    split
    · exact .nothing rfl
    · rename_i built builds
      split
      · exact .nothing rfl
      · have makes : r.Makes built.submission :=
          ⟨.lenient, (w.noting.boundary st).1, by
            simp only [Implementation.build, Implementation.handed, Implementation.typeName, builds]
            rfl⟩
        exact .send makes (w.noting.boundary st).2
  | strict =>
    simp only [respond, strict, Logged.value_bind]
    split
    · exact .nothing rfl
    · rename_i target builds
      split
      · exact .nothing rfl
      · have makes : r.Makes
            (Submission.of Strict.typeName (w.noting.boundary st).1 r).value.lowered :=
          ⟨.strict, (w.noting.boundary st).1, by
            simp only [Implementation.build, Implementation.handed, Implementation.typeName, builds]
            rfl⟩
        exact .send makes (w.noting.boundary st).2

theorem BuiltIn.call_sends {c : Client (Noting σ)} (h : c.BuiltIn w.noting) (r : Request)
    (attempt : UInt32) (st : Noting σ) : Sends r.Makes st (c.call r attempt st).value.2 := by
  obtain ⟨i, settings, rfl⟩ := h
  exact respond_sends w i r st

end Client

theorem Retry.runFrom_sends {c : Client (Noting σ)} (h : c.BuiltIn w.noting) (p : RetryPolicy)
    (r : Request) (attempt : UInt32) (st : Noting σ) :
    Sends r.Makes st (runFrom w.noting c p r attempt st).value.state := by
  have calls {attempt st result st'} (call : (c.call r attempt st).value = (result, st')) :
      Sends r.Makes st st' := by
    have sends := h.call_sends r attempt st
    rwa [call] at sends
  have draws (attempt : UInt32) (st : Noting σ) :
      Sends r.Makes st (drawDelay w.noting p attempt st).2 :=
    .nothing (drawDelay_beside w p attempt st)
  apply runFrom_induct (motive := fun _ st run => Sends r.Makes st run.state)
  case fault => exact fun call => calls call
  case last => exact fun call _ => calls call
  case stop => exact fun call _ _ => (calls call).trans (draws ..)
  case again =>
    intro attempt st e st' wait st'' run call _ drawn _ rest
    have draws := draws attempt st'
    rw [drawn] at draws
    have sleeps : Sends r.Makes st'' (w.noting.sleep wait st'') := .nothing rfl
    exact (((calls call).trans draws).trans sleeps).trans rest

theorem HttpTask.call_sends {t : HttpTask (Noting σ)} (world : t.world = w.noting)
    (h : t.registry.BuiltIn w.noting) (r : Request) (st : Noting σ) :
    Sends r.Makes st (t.call r st).value.state := by
  simp only [call, Logged.value_bind, world]
  exact Retry.runFrom_sends (h r) ..

namespace Sink

variable {sink : SinkState (Noting σ)}

theorem complete_sends (world : sink.task.world = w.noting)
    (h : sink.task.registry.BuiltIn w.noting) (job : Job) (fx : Effects (Noting σ)) :
    Sends job.2.Makes fx.state (complete sink job fx).value.2.state := by
  have calls := HttpTask.call_sends world h job.2 fx.state
  simp only [complete, Logged.value_bind]
  split
  · exact calls
  · split <;> exact calls

theorem completeAll_sends (world : sink.task.world = w.noting)
    (h : sink.task.registry.BuiltIn w.noting) (jobs : List Job) (places : List Nat)
    (fx : Effects (Noting σ)) :
    Sends (fun s => ∃ job ∈ jobs, job.2.Makes s) fx.state
      (completeAll sink jobs places fx).value.2.state := by
  induction places generalizing fx with
  | nil => exact .nothing rfl
  | cons place places ih =>
    rw [completeAll]
    cases there : jobs[place]? with
    | none => exact ih fx
    | some job =>
      have first : Sends (fun s => ∃ job ∈ jobs, job.2.Makes s) fx.state
          (complete sink job fx).value.2.state :=
        (complete_sends world h job fx).mono fun s makes =>
          ⟨job, List.mem_of_getElem? there, makes⟩
      simp only [Logged.value_bind]
      split
      · rename_i fx' ends
        rw [ends] at first
        exact first
      · rename_i fx' ends
        rw [ends] at first
        exact first.trans (ih fx')

def Enriches (w : World σ) (s : SinkSettings) (record : Record) (enriched : Request) : Prop :=
  ∃ r st, Decodes record r ∧ enriched = (enrich w s r st).1

theorem readBatch_enriches {τ : Type} {w : World τ} {s : SinkSettings} {index : Nat}
    {records : List Record} {st : τ} {jobs : List Job}
    (h : (readBatch w s index records st).value.1 = .ok jobs) :
    ∀ job ∈ jobs, job.1 ∈ records ∧ Enriches w s job.1 job.2 := by
  induction records generalizing index st jobs with
  | nil =>
    cases h
    exact List.forall_mem_nil _
  | cons record records ih =>
    cases first : Request.decode record.value with
    | error f =>
      simp [readBatch, readRequest_error first] at h
    | ok r =>
      simp only [readBatch, Logged.value_bind, readRequest_ok first] at h
      obtain ⟨rest, reads, rfl⟩ := map_eq_ok.mp h
      have own : Enriches w s record (enrich w s r st).1 := ⟨r, st, first, rfl⟩
      refine List.forall_mem_cons.mpr ⟨⟨List.mem_cons_self, own⟩, fun job member => ?_⟩
      obtain ⟨later, enriches⟩ := ih reads job member
      exact ⟨List.mem_cons_of_mem _ later, enriches⟩

end Sink

/-- What is sent for a batch is made of the requests of its records, with what the settings ask
for. -/
theorem SinkTask.put_sends {sink : SinkState (Noting σ)} (world : sink.task.world = w.noting)
    (h : sink.task.registry.BuiltIn w.noting) (records : List Record) (order : List Nat)
    (fx : Sink.Effects (Noting σ)) :
    Sends (fun s => ∃ record ∈ records, ∃ enriched,
        Sink.Enriches w.noting sink.settings record enriched ∧ enriched.Makes s)
      fx.state ((⟨some sink⟩ : SinkTask _).put records order fx).value.2.state := by
  have reads := (Sink.readBatch_identifies w.noting sink.settings 0 records fx.state).noting
  have enriches := @Sink.readBatch_enriches _ w.noting sink.settings 0 records fx.state
  simp only [put, Logged.value_bind, world]
  generalize (Sink.readBatch w.noting sink.settings 0 records fx.state).value = read at *
  obtain ⟨result, st⟩ := read
  cases result with
  | error f => exact .nothing reads
  | ok jobs =>
    let begun := jobs.foldl (fun m job => sink.task.begin m job.2) fx.metrics
    have completes := Sink.completeAll_sends world h jobs order ⟨fx.queues, begun, st⟩
    refine .trans (.nothing reads) (completes.mono ?_)
    rintro s ⟨job, member, makes⟩
    obtain ⟨own, enriched⟩ := enriches rfl job member
    exact ⟨job.1, own, job.2, enriched, makes⟩

end HttpBridge
