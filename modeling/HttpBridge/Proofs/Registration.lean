import HttpBridge.Proofs.Registry

namespace HttpBridge.RegistryBuilder

variable {σ : Type} {calls : List (Call σ)}

def Call.configuration : Call σ → Configuration σ
  | register c => c
  | withDefault c => c

def replaced (calls : List (Call σ)) : List (Configuration σ) :=
  (calls.filterMap Call.default?).dropLast

def kept (calls : List (Call σ)) : List (Configuration σ) :=
  (lastDefault calls).toList ++ others calls

/-- Says why no registry comes of some calls: there is no default configuration, or a name is there
again, and it is the first one that is. -/
inductive Refused (calls : List (Call σ)) : ConfigFault → Prop
  | missing (missing : lastDefault calls = none) : Refused calls .missingDefault
  | repeated {d : Configuration σ} {before after : List String} {id : String}
      (default : lastDefault calls = some d)
      (split : (kept calls).map (·.id) = before ++ id :: after) (again : id ∈ before)
      (first : before.Nodup) : Refused calls (.duplicate id)

theorem Call.default_or_other (call : Call σ) :
    call.default? = some call.configuration ∧ call.other? = none ∨
      call.default? = none ∧ call.other? = some call.configuration := by
  cases call with
  | register c => by_cases named : c.id = defaultConfigurationId <;>
      simp [default?, other?, configuration, named]
  | withDefault c => exact .inl ⟨rfl, rfl⟩

theorem replaced_append (calls : List (Call σ)) :
    replaced calls ++ (lastDefault calls).toList = calls.filterMap Call.default? := by
  rw [replaced, lastDefault]
  cases last : (calls.filterMap Call.default?).getLast? with
  | none =>
    rw [List.getLast?_eq_none_iff.mp last]
    rfl
  | some d =>
    obtain ⟨earlier, split⟩ := List.getLast?_eq_some_iff.mp last
    rw [split, List.dropLast_concat]
    rfl

theorem configurations_perm (calls : List (Call σ)) :
    (calls.map Call.configuration).Perm (replaced calls ++ kept calls) := by
  rw [kept, ← List.append_assoc, replaced_append]
  induction calls with
  | nil => exact .nil
  | cons call calls ih =>
    rw [List.map_cons, others_cons]
    rcases call.default_or_other with ⟨makes, adds⟩ | ⟨makes, adds⟩
    · rw [List.filterMap_cons_some makes, adds]
      exact ih.cons _
    · rw [List.filterMap_cons_none makes, adds]
      exact (ih.cons _).trans List.perm_middle.symm

theorem kept_of_default {d : Configuration σ} (default : lastDefault calls = some d) :
    kept calls = d :: others calls := by
  rw [kept, default]
  rfl

theorem firstRepeated_of_split {seen before : List String} {id : String} (after : List String)
    (again : id ∈ seen ∨ id ∈ before) (first : before.Nodup)
    (apart : ∀ other ∈ before, other ∉ seen) :
    firstRepeated seen (before ++ id :: after) = some id := by
  -- each name that is passed over joins those that were seen
  induction before generalizing seen with
  | nil =>
    have again : seen.contains id = true := List.contains_iff_mem.mpr (by simpa using again)
    rw [List.nil_append, firstRepeated, if_pos again]
  | cons b before ih =>
    obtain ⟨new, first⟩ := List.nodup_cons.mp first
    obtain ⟨fresh, apart⟩ := List.forall_mem_cons.mp apart
    rw [List.cons_append, firstRepeated, if_neg fun known => fresh (List.contains_iff_mem.mp known)]
    refine ih ?_ first fun other member known => ?_
    · rcases again with again | again
      · exact .inl (List.mem_cons_of_mem _ again)
      · rcases List.mem_cons.mp again with rfl | again
        · exact .inl List.mem_cons_self
        · exact .inr again
    · rcases List.mem_cons.mp known with rfl | known
      · exact new member
      · exact apart other member known

theorem build_ofCalls {d : Configuration σ} (default : lastDefault calls = some d) :
    (ofCalls calls).build = match firstRepeated [d.id] ((others calls).map (·.id)) with
      | some id => .error (.duplicate id)
      | none => .ok ⟨others calls, d⟩ := by
  rw [ofCalls_eq]
  exact build_of_default default

theorem build_eq_error {f : ConfigFault} : (ofCalls calls).build = .error f ↔ Refused calls f := by
  cases default : lastDefault calls with
  | none =>
    have missing : (ofCalls calls).build = .error .missingDefault := by
      rw [ofCalls_eq, build, default]
    rw [missing]
    constructor
    · rintro ⟨⟩
      exact .missing default
    · rintro (_ | ⟨named, -, -, -⟩)
      · rfl
      · cases default.symm.trans named
  | some d =>
    rw [build_ofCalls default]
    constructor
    · intro refused
      split at refused
      · rename_i id repeated
        cases refused
        -- the search starts behind the default name, which is the first of the names that are kept
        obtain ⟨before, after, split, again, first, apart⟩ := firstRepeated_split repeated
        have fresh : d.id ∉ before := fun member => apart _ member (List.mem_singleton_self _)
        have all : (kept calls).map (·.id) = (d.id :: before) ++ id :: after := by
          rw [kept_of_default default, List.map_cons, split]
          rfl
        refine .repeated default all ?_ (List.nodup_cons.mpr ⟨fresh, first⟩)
        rcases again with again | again
        · exact List.mem_cons.mpr (.inl (List.mem_singleton.mp again))
        · exact List.mem_cons_of_mem _ again
      · cases refused
    · intro refused
      cases refused with
      | missing missing => cases default.symm.trans missing
      | @repeated _ before after id _ split again first =>
        rw [kept_of_default default, List.map_cons] at split
        cases before with
        | nil => cases again
        | cons b before =>
          obtain ⟨rfl, rest⟩ := List.cons.inj split
          obtain ⟨fresh, first⟩ := List.nodup_cons.mp first
          have again : id ∈ [d.id] ∨ id ∈ before := by simpa using again
          rw [rest, List.append_eq, firstRepeated_of_split after again first]
          rintro other member known
          exact fresh (List.mem_singleton.mp known ▸ member)

theorem build_kept {r : Registry σ} (built : (ofCalls calls).build = .ok r) :
    r.default :: r.configurations = kept calls ∧ (r.default.id :: r.ids).Nodup := by
  rw [ofCalls_eq] at built
  obtain ⟨default, same, distinct⟩ := build_eq_ok.mp built
  refine ⟨?_, distinct⟩
  rw [kept_of_default default]
  exact congrArg _ same.symm

theorem get?_eq_some_iff {r : Registry σ} (built : (ofCalls calls).build = .ok r)
    {c : Configuration σ} : r.get? c.id = some c ↔ c ∈ kept calls := by
  obtain ⟨all, distinct⟩ := build_kept built
  rw [← all]
  refine ⟨fun found => ?_, Registry.get?_of_mem distinct⟩
  rw [Registry.get?_eq] at found
  exact List.mem_of_find?_eq_some found

theorem exists_ok_iff {d : Configuration σ} (default : lastDefault calls = some d) :
    (∃ r, (ofCalls calls).build = .ok r) ↔ ((kept calls).map (·.id)).Nodup := by
  rw [kept_of_default default, List.map_cons]
  constructor
  · rintro ⟨r, built⟩
    obtain ⟨all, distinct⟩ := build_kept built
    rw [kept_of_default default] at all
    obtain ⟨same, same'⟩ := List.cons.inj all
    rwa [Registry.ids, same, same'] at distinct
  · intro distinct
    exact ⟨⟨others calls, d⟩, build_eq_ok.mpr (by rw [ofCalls_eq]; exact ⟨default, rfl, distinct⟩)⟩

/-- Of the configurations that are put in, those are lost without a word that are the default one
until another one is. Whether a registry comes of the others does not depend on them: there has to
be a default one among the others, and no two of these may have one name, or the first name that is
there again is reported. In a registry, what is left is found under its name, and what was replaced
is not, unless it is left as well. -/
theorem ofCalls_loses_replaced (calls : List (Call σ)) :
    (calls.map Call.configuration).Perm (replaced calls ++ kept calls) ∧
    (∀ f, (ofCalls calls).build = .error f ↔ Refused calls f) ∧
    (∀ d, lastDefault calls = some d →
      ((∃ r, (ofCalls calls).build = .ok r) ↔ ((kept calls).map (·.id)).Nodup)) ∧
    ∀ r, (ofCalls calls).build = .ok r →
      r.default :: r.configurations = kept calls ∧
      (∀ c, r.get? c.id = some c ↔ c ∈ kept calls) ∧
      ((∀ call ∈ calls, r.get? call.configuration.id = some call.configuration) ↔
        ∀ c ∈ replaced calls, c ∈ kept calls) := by
  refine ⟨configurations_perm calls, fun f => build_eq_error, fun d => exists_ok_iff,
    fun r built => ⟨(build_kept built).1, fun c => get?_eq_some_iff built, ?_⟩⟩
  have put : (∀ call ∈ calls, call.configuration ∈ kept calls) ↔
      ∀ c ∈ replaced calls ++ kept calls, c ∈ kept calls := by
    simp only [← (configurations_perm calls).mem_iff, List.mem_map, forall_exists_index, and_imp,
      forall_apply_eq_imp_iff₂]
  simp only [get?_eq_some_iff built, put, List.mem_append]
  exact ⟨fun all c gone => all c (.inl gone), fun all c => Or.rec (all c) id⟩

theorem ofCalls_loses_replaced_own :
    let named := fun id => Configuration.new id Retry.deadClient
    ∃ r, (ofCalls [.withDefault (named "a"), .register (named "b"),
        .register (named "default")]).build = .ok r ∧
      r.get? "b" = some (named "b") ∧ r.get? "a" ≠ some (named "a") := by
  intro named
  obtain ⟨-, -, exact, built⟩ := ofCalls_loses_replaced [.withDefault (named "a"),
    .register (named "b"), .register (named "default")]
  obtain ⟨r, ok⟩ := (exact (named "default") rfl).mpr (by decide)
  obtain ⟨-, found, -⟩ := built r ok
  have other := (found (named "b")).mpr (List.mem_cons_of_mem _ List.mem_cons_self)
  refine ⟨r, ok, other, fun lost => ?_⟩
  have ids := List.mem_map_of_mem (f := Configuration.id) ((found (named "a")).mp lost)
  exact absurd ids (by decide)

/-- Two configurations called the default one, of which the first one retries: the second one is all
that there is. -/
theorem ofCalls_loses_named_default :
    let first := Configuration.new "default" Retry.deadClient
    let second := first.withPolicy .none
    ∃ r, (ofCalls [.register first, .register second]).build = .ok r ∧ r.size = 1 ∧
      (r.get? first.id).map (·.policy.maxRetries) ≠ some first.policy.maxRetries :=
  ⟨⟨[], (Configuration.new "default" Retry.deadClient).withPolicy .none⟩, rfl, rfl, by decide⟩

end HttpBridge.RegistryBuilder
