import HttpBridge.Proofs.Faults
import HttpBridge.Proofs.Items
import HttpBridge.Proofs.Registry

namespace HttpBridge

variable {σ : Type}

structure Configuration.MadeOf (w : World σ) (id : String) (s : Settings) (c : Configuration σ) :
    Prop where
  named : c.id = id
  client : ∃ i settings, Client.implementation id s = .ok i ∧
    (ClientSettings.ofSettings s).Gives settings ∧ c.client = .of w i settings
  predicate : ∃ p, RequestPredicate.ofSettings s = .ok p ∧ c.matcher = .predicate p
  policy : RetryPolicy.ofSettings s = .ok c.policy

theorem Configuration.madeOf {w : World σ} {files : Files} {id : String} {s : Settings}
    {c : Configuration σ} (h : (ofSettings w files id s).Gives c) : c.MadeOf w id s := by
  unfold ofSettings Client.ofSettings at h
  simp only [Setup.gives_bind, Setup.gives_ofExcept] at h
  obtain ⟨client, ⟨i, kind, settings, read, -, -, -, -, made⟩, p, predicate, policy, known, last⟩ :=
    h
  cases Setup.gives_pure.mp made
  cases Setup.gives_pure.mp last
  exact ⟨rfl, ⟨i, settings, kind, read, rfl⟩, ⟨p, predicate, rfl⟩, known⟩

namespace Registry

/-- Says which configurations settings name: those of their list, and the default one at the end if
the list does not hold it. -/
def Names (s : Settings) (ids : List String) : Prop :=
  ∃ listed, (match s.get? configurationIdsKey with
    | some raw => Settings.Lists raw.toList listed
    | none => listed = []) ∧
    ids = if defaultConfigurationId ∈ listed then listed else listed ++ [defaultConfigurationId]

theorem names_idsOf (s : Settings) : Names s (idsOf s) := by
  refine ⟨s.list configurationIdsKey, ?_, by simp [idsOf]⟩
  rw [Settings.list]
  cases s.get? configurationIdsKey with
  | none => rfl
  | some raw => exact Settings.listItems_iff.mp rfl

def isOther (id : String) : Bool :=
  id ≠ defaultConfigurationId

inductive Reads (read : String → Except ConfigFault (Configuration σ)) (ids : List String) :
    Except ConfigFault (Registry σ) → Prop
  | refused {before after : List String} {id : String} {f : ConfigFault}
      (split : ids = before ++ id :: after) (earlier : ∀ other ∈ before, ∃ c, read other = .ok c)
      (fault : read id = .error f) : Reads read ids (.error f)
  | repeated {before after : List String} {id : String}
      (all : ∀ other ∈ ids, ∃ c, read other = .ok c) (split : ids = before ++ id :: after)
      (other : isOther id = true) (again : id ∈ before) (first : (before.filter isOther).Nodup) :
      Reads read ids (.error (.duplicate id))
  | built {r : Registry σ} (distinct : (ids.filter isOther).Nodup)
      (names : r.ids = ids.filter isOther)
      (found : ∀ id ∈ ids, ∃ c, read id = .ok c ∧ r.get? id = some c) : Reads read ids (.ok r)

def read (w : World σ) (files : Files) (s : Settings) (id : String) :
    Except ConfigFault (Configuration σ) :=
  (Configuration.ofSettings w files id (s.under (configurationKeys id))).run.value

section Adding

variable (w : World σ) (files : Files) (s : Settings)

theorem run_value_addFrom (b : RegistryBuilder σ) (id : String) :
    (addFrom w files s b id).run.value = (read w files s id).map b.register := by
  rw [addFrom, Setup.run_value_bind, ← read]
  cases read w files s id <;> rfl

theorem addAll_cases (ids : List String) (b : RegistryBuilder σ) :
    (∃ before id after f, ids = before ++ id :: after ∧
      (∀ other ∈ before, ∃ c, read w files s other = .ok c) ∧ read w files s id = .error f ∧
      (ids.foldlM (addFrom w files s) b).run.value = .error f) ∨
    ∃ cs : List (Configuration σ), cs.map (·.id) = ids ∧ (∀ c ∈ cs, read w files s c.id = .ok c) ∧
      (ids.foldlM (addFrom w files s) b).run.value = .ok (cs.foldl .register b) := by
  induction ids generalizing b with
  | nil => exact .inr ⟨[], rfl, List.forall_mem_nil _, rfl⟩
  | cons id ids ih =>
    rw [List.foldlM_cons, Setup.run_value_bind, run_value_addFrom]
    cases here : read w files s id with
    | error f => exact .inl ⟨[], id, ids, f, rfl, List.forall_mem_nil _, here, rfl⟩
    | ok c =>
      rcases ih (b.register c) with ⟨before, id', after, f, rfl, earlier, fault, ends⟩ |
        ⟨cs, rfl, all, ends⟩
      · refine .inl ⟨id :: before, id', after, f, rfl, ?_, fault, ends⟩
        exact List.forall_mem_cons.mpr ⟨⟨c, here⟩, earlier⟩
      · have named : c.id = id := (Configuration.madeOf here).named
        refine .inr ⟨c :: cs, by rw [List.map_cons, named], ?_, ends⟩
        exact List.forall_mem_cons.mpr ⟨named ▸ here, all⟩

end Adding

section Building

open RegistryBuilder (Call others lastDefault)

theorem isOther_eq_false {id : String} : isOther id = false ↔ id = defaultConfigurationId := by
  simp [isOther]

theorem others_register (cs : List (Configuration σ)) :
    others (cs.map .register) = cs.filter fun c => isOther c.id := by
  induction cs with
  | nil => rfl
  | cons c cs ih =>
    rw [List.map_cons, RegistryBuilder.others_cons, ih, Call.other?, List.filter_cons]
    split
    · rename_i default
      simp [isOther_eq_false.mpr default]
    · rename_i other
      simp [isOther, other]

theorem lastDefault_register_mem {cs : List (Configuration σ)} {d : Configuration σ}
    (h : lastDefault (cs.map .register) = some d) : d ∈ cs ∧ d.id = defaultConfigurationId := by
  have member := List.mem_of_getLast? h
  rw [List.filterMap_map, List.mem_filterMap] at member
  obtain ⟨c, member, makes⟩ := member
  simp only [Function.comp_apply, Call.default?, Option.ite_none_right_eq_some] at makes
  obtain ⟨default, same⟩ := makes
  cases same
  exact ⟨member, default⟩

theorem lastDefault_register {cs : List (Configuration σ)}
    (h : defaultConfigurationId ∈ cs.map (·.id)) :
    ∃ d, lastDefault (cs.map .register) = some d := by
  obtain ⟨c, member, default⟩ := List.mem_map.mp h
  apply Option.ne_none_iff_exists'.mp
  rw [lastDefault, Ne, List.getLast?_eq_none_iff]
  apply List.ne_nil_of_mem (a := c)
  rw [List.mem_filterMap]
  exact ⟨.register c, List.mem_map_of_mem member, if_pos default⟩

theorem ids_others (cs : List (Configuration σ)) :
    (others (cs.map .register)).map (·.id) = (cs.map (·.id)).filter isOther := by
  rw [others_register, List.filter_map]
  rfl

theorem split_filter {ids before after : List String} {id : String}
    (h : ids.filter isOther = before ++ id :: after) :
    ∃ before' after', ids = before' ++ id :: after' ∧ before'.filter isOther = before := by
  obtain ⟨l, l', rfl, rfl, rest⟩ := List.filter_eq_append_iff.mp h
  obtain ⟨skipped, after', rfl, none, -, -⟩ := List.filter_eq_cons_iff.mp rest
  refine ⟨l ++ skipped, after', (List.append_assoc ..).symm, ?_⟩
  rw [List.filter_append, List.filter_eq_nil_iff.mpr none, List.append_nil]

variable {read : String → Except ConfigFault (Configuration σ)}

theorem reads_build {cs : List (Configuration σ)} (all : ∀ c ∈ cs, read c.id = .ok c)
    (there : defaultConfigurationId ∈ cs.map (·.id)) :
    Reads read (cs.map (·.id)) (cs.foldl .register .empty : RegistryBuilder σ).build := by
  have calls : (cs.foldl .register .empty : RegistryBuilder σ) =
      RegistryBuilder.ofCalls (cs.map .register) := by
    rw [RegistryBuilder.ofCalls, List.foldl_map]
    rfl
  obtain ⟨d, default⟩ := lastDefault_register there
  obtain ⟨member, named⟩ := lastDefault_register_mem default
  have names := ids_others cs
  rw [calls, RegistryBuilder.ofCalls_eq, default, RegistryBuilder.build_of_default rfl]
  cases repeated : RegistryBuilder.firstRepeated [d.id]
      ((others (cs.map .register)).map (·.id)) with
  | some id =>
    obtain ⟨before, after, split, again, nodup, -⟩ := RegistryBuilder.firstRepeated_split repeated
    rw [names] at split
    have other : isOther id = true :=
      (List.mem_filter.mp (split ▸ List.mem_append_right _ List.mem_cons_self)).2
    -- the builder saw the names without the default one; the list has it in between
    obtain ⟨before', after', whole, rfl⟩ := split_filter split
    refine .repeated ?_ whole other ?_ nodup
    · intro id known
      obtain ⟨c, member, rfl⟩ := List.mem_map.mp known
      exact ⟨c, all c member⟩
    · rcases again with again | again
      · rw [List.mem_singleton.mp again, named] at other
        cases other
      · exact (List.mem_filter.mp again).1
  | none =>
    have distinct : (d.id :: (others (cs.map .register)).map (·.id)).Nodup :=
      RegistryBuilder.distinct_iff (b := ⟨_, some d⟩).mp repeated
    change Reads read _ (.ok ⟨others (cs.map .register), d⟩)
    refine .built (names ▸ (List.nodup_cons.mp distinct).2) names fun id known => ?_
    obtain ⟨c, member', rfl⟩ := List.mem_map.mp known
    by_cases same : c.id = defaultConfigurationId
    · rw [same, ← named]
      exact ⟨d, all d member, get?_of_mem distinct List.mem_cons_self⟩
    · have listed : c ∈ others (cs.map .register) := by
        rw [others_register]
        exact List.mem_filter.mpr ⟨member', by simpa [isOther] using same⟩
      exact ⟨c, all c member', get?_of_mem distinct (List.mem_cons_of_mem _ listed)⟩

end Building

theorem reads_ofSettings (w : World σ) (files : Files) (s : Settings) :
    Reads (read w files s) (idsOf s) (ofSettings w files s).run.value := by
  rw [ofSettings, Setup.run_value_bind]
  rcases addAll_cases w files s (idsOf s) .empty with
    ⟨before, id, after, f, split, earlier, fault, ends⟩ | ⟨cs, names, all, ends⟩
  · rw [ends]
    exact .refused split earlier fault
  · rw [ends, ← names]
    apply reads_build all
    rw [names, idsOf]
    split
    · rename_i listed
      exact List.contains_iff_mem.mp listed
    · exact List.mem_append_right _ List.mem_cons_self

/-- A registry is read from the settings of the names they list, and of the default one. The first
name whose settings have a fault is reported, and if there is none, the first name but the default
one that is listed again; otherwise there is a registry of these names in order, and under each
name is the configuration that its settings describe. The default configuration is never missing. -/
theorem ofSettings_reads (w : World σ) (files : Files) (s : Settings) :
    (∃ ids, Names s ids ∧ Reads (read w files s) ids (ofSettings w files s).run.value) ∧
    (∀ id c, read w files s id = .ok c → c.MadeOf w id (s.under (configurationKeys id))) ∧
    (ofSettings w files s).run.value ≠ .error .missingDefault := by
  have reads := reads_ofSettings w files s
  refine ⟨⟨idsOf s, names_idsOf s, reads⟩, fun id c => Configuration.madeOf, fun missing => ?_⟩
  rw [missing] at reads
  cases reads with
  | refused _ _ fault => exact Configuration.ofSettings_blames w files _ _ _ fault

end Registry

end HttpBridge
