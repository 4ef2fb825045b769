import HttpBridge.Proofs.Calls
import HttpBridge.Proofs.Idempotence

namespace HttpBridge

namespace Sink

variable {σ : Type} {w : World σ} {s : SinkSettings} {r : Request} {st : σ} {id : String}

def StaysHollow (s : SinkSettings) (r : Request) (id : String) : Prop :=
  (∀ h ∈ s.staticHeaders, Text.sameName h.1 id = false) ∧ r.headers.Hollow id

theorem fresh_of_unset (unset : ∀ h ∈ s.staticHeaders, Text.sameName h.1 id = false)
    {name : String} (same : Text.sameName name id = true) :
    name ∉ s.staticHeaders.map (·.1) := by
  intro listed
  obtain ⟨h, member, rfl⟩ := List.mem_map.mp listed
  rw [unset h member] at same
  cases same

theorem gathered_enrich_eq_nil (asked : (true, id) ∈ identifiers s) :
    (enrich w s r st).1.headers.gathered id = [] ↔ StaysHollow s r id := by
  rw [StaysHollow, Headers.Hollow, Headers.gathered_eq_nil, Headers.gathered_eq_nil]
  constructor
  · intro none
    have empty {key : String} {values : List String} (same : Text.sameName key id = true)
        (found : (enrich w s r st).1.headers.find? key = some values) : values = [] :=
      none (key, values) ⟨Dict.mem_iff_find?.mpr found, same⟩
    have unset : ∀ h ∈ s.staticHeaders, Text.sameName h.1 id = false := by
      intro h member
      refine Bool.eq_false_iff.mpr fun same => ?_
      cases last : s.staticHeaders.reverse.lookup h.1 with
      | none => exact lookup_reverse_eq_none.mp last (List.mem_map_of_mem member)
      | some value => cases empty same (find?_enrich_static w r st last)
    -- no identifier was added, as it would have a value
    have kept {key : String} (same : Text.sameName key id = true) :
        (enrich w s r st).1.headers.find? key = r.headers.find? key := by
      rcases find?_enrich_other w r st (fresh_of_unset unset same) with
        kept | ⟨-, -, value, added⟩
      · exact kept
      · cases empty same added
    obtain ⟨e, spells⟩ := Request.hasHeader_iff.mp (hasHeader_enrich w r st asked)
    have there : r.headers.find? e.1 = some e.2 := (kept spells.2).symm.trans spells.find?
    exact ⟨unset, ⟨e, Dict.mem_iff_find?.mpr there, spells.2⟩,
      fun e' old => empty old.2 ((kept old.2).trans old.find?)⟩
  · rintro ⟨unset, ⟨e, there⟩, none⟩ e' spells
    rcases find?_enrich_other w r st (fresh_of_unset unset spells.2) with
      kept | ⟨-, ⟨-, lacks⟩, -⟩
    · exact none e' ⟨Dict.mem_iff_find?.mpr (kept.symm.trans spells.find?), spells.2⟩
    · have same := Text.sameName_trans there.2 (Text.sameName_symm spells.2)
      exact absurd ⟨e, there.1, same⟩ lacks

theorem apart_of_identifier (asked : (true, id) ∈ identifiers s) :
    Text.sameName Implementation.loginName id = false ∧
      Text.sameName id contentTypeName = false := by
  rcases mem_identifiers.mp asked with ⟨-, rfl⟩ | ⟨-, rfl⟩ <;> decide

end Sink

theorem Request.Makes.valuesOf {r : Request} {built : Submission} (h : r.Makes built)
    {s : SinkSettings} {id : String} (asked : (true, id) ∈ Sink.identifiers s) :
    Header.valuesOf id built.headers = r.headers.gathered id := by
  obtain ⟨i, boundary, builds⟩ := h
  obtain ⟨login, type⟩ := Sink.apart_of_identifier asked
  rw [valuesOf_built builds (.inl login),
    valuesOf_sentHeaders (Implementation.spells_typeName i) fun same => ?_]
  rw [type] at same
  cases same

section Put

variable {σ : Type}

/-- Where the settings ask for an identifier, a request has a value for it in the end, and so has
every call that a library makes of it, unless the request came with the header, without a value
under any spelling, and no static header is that one. So it is with all that is sent for a batch. -/
theorem SinkTask.put_identified {w : World σ} {sink : SinkState (World.Noting σ)}
    (world : sink.task.world = w.noting) (builtIn : sink.task.registry.BuiltIn w.noting)
    {id : String} (asked : (true, id) ∈ Sink.identifiers sink.settings) (records : List Record)
    (order : List Nat) (fx : Sink.Effects (World.Noting σ)) :
    (∀ r st,
      let enriched := (Sink.enrich w.noting sink.settings r st).1
      (enriched.headers.gathered id = [] ↔ Sink.StaysHollow sink.settings r id) ∧
        ∀ built, enriched.Makes built →
          Header.valuesOf id built.headers = enriched.headers.gathered id) ∧
      World.Sends (fun s => ∃ record ∈ records, ∃ r st, Sink.Decodes record r ∧
          (Sink.enrich w.noting sink.settings r st).1.Makes s ∧
          (Header.valuesOf id s.headers = [] ↔ Sink.StaysHollow sink.settings r id))
        fx.state ((⟨some sink⟩ : SinkTask _).put records order fx).value.2.state := by
  refine ⟨fun r st => ⟨Sink.gathered_enrich_eq_nil asked, fun _ makes => makes.valuesOf asked⟩, ?_⟩
  refine (SinkTask.put_sends world builtIn records order fx).mono ?_
  rintro built ⟨record, member, enriched, ⟨r, st, decodes, rfl⟩, makes⟩
  refine ⟨record, member, r, st, decodes, makes, ?_⟩
  rw [makes.valuesOf asked, Sink.gathered_enrich_eq_nil asked]

def tracing : SinkState (World.Noting Nat) where
  settings := { (default : SinkSettings) with generatesRequestId := true }
  task :=
    { world := Retry.clockWorld.noting
      registry :=
        { configurations := []
          default := .withPolicy (.new defaultConfigurationId
            (.of Retry.clockWorld.noting .lenient .default)) .none } }
  queue := none

theorem builtIn_tracing : tracing.task.registry.BuiltIn Retry.clockWorld.noting :=
  fun _ => ⟨.lenient, .default, rfl⟩

def tracedRecord (r : Request) : Record :=
  .new "requests" r.text

theorem decodes_tracedRecord (r : Request) : Sink.Decodes (tracedRecord r) r :=
  Request.decode_text r

theorem SinkTask.put_identified_missing :
    ∃ sent, ((⟨some tracing⟩ : SinkTask _).put [tracedRecord (.get "http://svc.test/a")] [0]
        ⟨.new 1, .empty, (0, [])⟩).value.2.state.2 = [sent] ∧
      Header.valuesOf requestIdHeader sent.2.headers ≠ [] := by
  have asked : (true, requestIdHeader) ∈ Sink.identifiers tracing.settings := List.mem_cons_self
  obtain ⟨-, sent, noted, all⟩ := SinkTask.put_identified rfl builtIn_tracing asked
    [tracedRecord (.get "http://svc.test/a")] [0] ⟨.new 1, .empty, (0, [])⟩
  have once : (((⟨some tracing⟩ : SinkTask _).put [tracedRecord (.get "http://svc.test/a")] [0]
      ⟨.new 1, .empty, (0, [])⟩).value.2.state.2).length = 1 := by
    decide +kernel
  rw [noted] at once
  obtain ⟨note, rfl⟩ := List.length_eq_one_iff.mp once
  refine ⟨note, noted, fun none => ?_⟩
  obtain ⟨record, member, r, _, decodes, -, hollow⟩ := all note List.mem_cons_self
  rw [List.mem_singleton.mp member] at decodes
  have same := (decodes_tracedRecord (.get "http://svc.test/a")).symm.trans decodes
  obtain ⟨-, ⟨e, there, -⟩, -⟩ := hollow.mp none
  rw [← Except.ok.inj same] at there
  cases there

def untracedRequest : Request :=
  (Request.get "http://svc.test/a").withHeaders (.ofList [("X-Request-ID", [])])

/-- It goes out with no header at all. -/
theorem SinkTask.put_identified_hollow :
    (true, requestIdHeader) ∈ Sink.identifiers tracing.settings ∧
      Request.decode untracedRequest.text = .ok untracedRequest ∧
      ((⟨some tracing⟩ : SinkTask _).put [tracedRecord untracedRequest] [0]
        ⟨.new 1, .empty, (0, [])⟩).value.2.state.2.map (·.2.headers) = [[]] :=
  ⟨List.mem_cons_self, Request.decode_text untracedRequest, by decide +kernel⟩

end Put

end HttpBridge
