import HttpBridge.Config.Registry
import HttpBridge.Proofs.Retry

namespace HttpBridge

variable {σ : Type}

namespace RegistryBuilder

inductive Call (σ : Type)
  | register (c : Configuration σ)
  | withDefault (c : Configuration σ)

namespace Call

def default? : Call σ → Option (Configuration σ)
  | register c => if c.id = defaultConfigurationId then some c else none
  | withDefault c => some c

def other? : Call σ → Option (Configuration σ)
  | register c => if c.id = defaultConfigurationId then none else some c
  | withDefault _ => none

end Call

def take (b : RegistryBuilder σ) : Call σ → RegistryBuilder σ
  | .register c => b.register c
  | .withDefault c => b.withDefault c

def ofCalls (calls : List (Call σ)) : RegistryBuilder σ :=
  calls.foldl take .empty

def lastDefault (calls : List (Call σ)) : Option (Configuration σ) :=
  (calls.filterMap Call.default?).getLast?

def others (calls : List (Call σ)) : List (Configuration σ) :=
  calls.filterMap Call.other?

theorem take_eq (b : RegistryBuilder σ) (call : Call σ) :
    b.take call = ⟨b.configurations ++ call.other?.toList, call.default?.or b.default⟩ := by
  cases call with
  | register c =>
    simp only [take, register, Call.default?, Call.other?]
    split
    · simp [withDefault]
    · simp
  | withDefault c => simp [take, withDefault, Call.default?, Call.other?]

theorem lastDefault_cons (call : Call σ) (calls : List (Call σ)) :
    lastDefault (call :: calls) = (lastDefault calls).or call.default? := by
  unfold lastDefault
  cases makes : call.default? with
  | none => simp [List.filterMap_cons_none makes]
  | some c =>
    rw [List.filterMap_cons_some makes, List.getLast?_cons]
    cases (calls.filterMap Call.default?).getLast? <;> rfl

theorem others_cons (call : Call σ) (calls : List (Call σ)) :
    others (call :: calls) = call.other?.toList ++ others calls := by
  unfold others
  cases adds : call.other? with
  | none => simp [List.filterMap_cons_none adds]
  | some c => simp [List.filterMap_cons_some adds]

theorem foldl_take (b : RegistryBuilder σ) (calls : List (Call σ)) :
    calls.foldl take b = ⟨b.configurations ++ others calls, (lastDefault calls).or b.default⟩ := by
  induction calls generalizing b with
  | nil => simp [others, lastDefault]
  | cons call calls ih =>
    rw [List.foldl_cons, ih, take_eq, others_cons, lastDefault_cons, List.append_assoc,
      Option.or_assoc]

theorem ofCalls_eq (calls : List (Call σ)) : ofCalls calls = ⟨others calls, lastDefault calls⟩ := by
  rw [ofCalls, foldl_take]
  simp [empty]

theorem firstRepeated_eq_none {seen ids : List String} :
    firstRepeated seen ids = none ↔ ids.Nodup ∧ ∀ id ∈ ids, id ∉ seen := by
  induction ids generalizing seen with
  | nil => simp [firstRepeated]
  | cons id ids ih =>
    rw [firstRepeated, List.nodup_cons, List.forall_mem_cons]
    split
    · rename_i repeated
      simp [List.contains_iff_mem.mp repeated]
    · rename_i fresh
      have fresh : id ∉ seen := fun member => fresh (List.contains_iff_mem.mpr member)
      have apart : (∀ other ∈ ids, other ∉ id :: seen) ↔
          id ∉ ids ∧ ∀ other ∈ ids, other ∉ seen := by
        simp only [List.mem_cons, not_or, forall_and]
        exact and_congr_left fun _ =>
          ⟨fun ne member => ne id member rfl, fun new other member same => new (same ▸ member)⟩
      rw [ih, apart]
      simp only [fresh, not_false_eq_true, true_and]
      exact ⟨fun ⟨nodup, new, apart⟩ => ⟨⟨new, nodup⟩, apart⟩,
        fun ⟨⟨new, nodup⟩, apart⟩ => ⟨nodup, new, apart⟩⟩

theorem firstRepeated_split {seen ids : List String} {id : String}
    (h : firstRepeated seen ids = some id) : ∃ before after, ids = before ++ id :: after ∧
      (id ∈ seen ∨ id ∈ before) ∧ before.Nodup ∧ ∀ other ∈ before, other ∉ seen := by
  induction ids generalizing seen with
  | nil => cases h
  | cons first ids ih =>
    rw [firstRepeated] at h
    split at h
    · rename_i repeated
      cases h
      exact ⟨[], ids, rfl, .inl (List.contains_iff_mem.mp repeated), .nil, nofun⟩
    · rename_i fresh
      obtain ⟨before, after, rfl, again, nodup, apart⟩ := ih h
      have new : first ∉ before := fun member => apart first member List.mem_cons_self
      refine ⟨first :: before, after, rfl, ?_, List.nodup_cons.mpr ⟨new, nodup⟩, ?_⟩
      · rcases again with again | again
        · rcases List.mem_cons.mp again with rfl | again
          · exact .inr List.mem_cons_self
          · exact .inl again
        · exact .inr (List.mem_cons_of_mem _ again)
      · rw [List.forall_mem_cons]
        exact ⟨fun member => fresh (List.contains_iff_mem.mpr member),
          fun other member known => apart other member (List.mem_cons_of_mem _ known)⟩

theorem build_of_default {b : RegistryBuilder σ} {d : Configuration σ} (h : b.default = some d) :
    b.build = match firstRepeated [d.id] (b.configurations.map (·.id)) with
      | some id => .error (.duplicate id)
      | none => .ok ⟨b.configurations, d⟩ := by
  obtain ⟨cs, default⟩ := b
  cases h
  rfl

theorem distinct_iff {d : Configuration σ} {b : RegistryBuilder σ} :
    firstRepeated [d.id] (b.configurations.map (·.id)) = none ↔
      (d.id :: b.configurations.map (·.id)).Nodup := by
  rw [firstRepeated_eq_none, List.nodup_cons, and_comm]
  simp only [List.mem_singleton]
  exact and_congr_left fun _ => ⟨fun ne member => ne _ member rfl,
    fun new other member same => new (same ▸ member)⟩

theorem build_eq_ok {b : RegistryBuilder σ} {r : Registry σ} :
    b.build = .ok r ↔ b.default = some r.default ∧ b.configurations = r.configurations ∧
      (r.default.id :: r.ids).Nodup := by
  cases default : b.default with
  | none => simp [build, default]
  | some d =>
    have distinct := distinct_iff (d := d) (b := b)
    rw [build_of_default default]
    cases repeated : firstRepeated [d.id] (b.configurations.map (·.id)) with
    | some id =>
      simp only [repeated, reduceCtorEq, false_iff] at distinct
      simp only [reduceCtorEq, false_iff]
      rintro ⟨⟨⟩, same, nodup⟩
      exact distinct (same ▸ nodup)
    | none =>
      simp only [repeated, true_iff] at distinct
      constructor
      · rintro ⟨⟩
        exact ⟨rfl, rfl, distinct⟩
      · rintro ⟨⟨⟩, same, -⟩
        rw [same]

end RegistryBuilder

namespace Registry

variable {r : Registry σ} {request : Request} {id : String} {c : Configuration σ}

/-- Says that a configuration is the first one that fits a request, or the default one if none
does. -/
inductive Selects (r : Registry σ) (request : Request) : Configuration σ → Prop
  | first {before after : List (Configuration σ)} {c : Configuration σ}
      (split : r.configurations = before ++ c :: after) (fits : c.isMatch request = true)
      (skipped : ∀ other ∈ before, other.isMatch request = false) : Selects r request c
  | default (skipped : ∀ other ∈ r.configurations, other.isMatch request = false) :
      Selects r request r.default

theorem selects_select (r : Registry σ) (request : Request) :
    r.Selects request (r.select request) := by
  rw [select]
  cases found : r.configurations.find? (·.isMatch request) with
  | none => exact .default fun c member => by simpa using List.find?_eq_none.mp found c member
  | some c =>
    obtain ⟨fits, before, after, split, skipped⟩ := List.find?_eq_some_iff_append.mp found
    exact .first split fits fun other member => by simpa using skipped other member

theorem Selects.mem (h : r.Selects request c) : c ∈ r.default :: r.configurations := by
  cases h with
  | first split _ _ =>
    exact List.mem_cons_of_mem _ (split ▸ List.mem_append_right _ List.mem_cons_self)
  | default _ => exact List.mem_cons_self

theorem get?_eq (r : Registry σ) (id : String) :
    r.get? id = (r.default :: r.configurations).find? (·.id == id) := by
  rw [get?, List.find?_cons]
  split
  · rename_i same
    simp [same]
  · rename_i ne
    rw [beq_false_of_ne (Ne.symm ne)]

theorem get?_of_mem (distinct : (r.default.id :: r.ids).Nodup)
    (member : c ∈ r.default :: r.configurations) : r.get? c.id = some c := by
  have distinct : ((r.default :: r.configurations).map (·.id)).Nodup := distinct
  rw [get?_eq]
  generalize r.default :: r.configurations = all at distinct member
  induction all with
  | nil => cases member
  | cons first rest ih =>
    obtain ⟨fresh, distinct⟩ := List.nodup_cons.mp distinct
    rw [List.find?_cons]
    rcases List.mem_cons.mp member with rfl | member
    · simp
    · have ne : first.id ≠ c.id := fun same =>
        fresh (List.mem_map.mpr ⟨c, member, same.symm⟩)
      rw [beq_false_of_ne ne]
      exact ih distinct member

theorem isSome_get? : (r.get? id).isSome ↔ id = r.default.id ∨ id ∈ r.ids := by
  rw [get?_eq, List.find?_isSome]
  simp only [beq_iff_eq, List.mem_cons, exists_eq_or_imp, ids, List.mem_map]
  rw [eq_comm]

end Registry

/-- However configurations are put in, a registry comes of it just if a default one was named and
its name and those of all others are different from one another. Then a request goes to the first
configuration that it fits, or to the default one if it fits none, the name of that configuration
leads to it as well, and the names that lead anywhere are those of the default one and of the
others. -/
theorem RegistryBuilder.ofCalls_coherent (calls : List (Call σ)) :
    ((∃ r, (ofCalls calls).build = .ok r) ↔
      ∃ d, lastDefault calls = some d ∧ (d.id :: (others calls).map (·.id)).Nodup) ∧
    ∀ r, (ofCalls calls).build = .ok r →
      lastDefault calls = some r.default ∧ others calls = r.configurations ∧
      (∀ request, r.Selects request (r.select request) ∧
        r.get? (r.select request).id = some (r.select request)) ∧
      (∀ id, (r.get? id).isSome ↔ id = r.default.id ∨ id ∈ r.ids) ∧
      r.size = r.ids.length + 1 := by
  simp only [build_eq_ok, ofCalls_eq]
  refine ⟨⟨?_, ?_⟩, ?_⟩
  · rintro ⟨r, default, same, distinct⟩
    exact ⟨r.default, default, same ▸ distinct⟩
  · rintro ⟨d, default, distinct⟩
    exact ⟨⟨others calls, d⟩, default, rfl, distinct⟩
  · rintro r ⟨default, same, distinct⟩
    refine ⟨default, same, fun request => ?_, fun id => Registry.isSome_get?, ?_⟩
    · have selects := r.selects_select request
      exact ⟨selects, Registry.get?_of_mem distinct selects.mem⟩
    · rw [Registry.size, Registry.ids, List.length_map]

theorem RegistryBuilder.ofCalls_coherent_replaced :
    let named := fun id => Configuration.new id Retry.deadClient
    ∃ r, (ofCalls [.withDefault (named "a"), .register (named "a"),
        .register (named "default")]).build = .ok r ∧
      (r.get? "a").isSome ∧ (r.get? "default").isSome ∧ ¬ (r.get? "b").isSome := by
  intro named
  obtain ⟨exact, coherent⟩ := ofCalls_coherent [.withDefault (named "a"), .register (named "a"),
    .register (named "default")]
  obtain ⟨r, built⟩ := exact.mpr ⟨named "default", rfl, by decide⟩
  obtain ⟨default, others, -, names, -⟩ := coherent r built
  have ids : r.ids = ["a"] := by
    rw [Registry.ids, ← others]
    rfl
  have default : r.default.id = "default" := by
    rw [← Option.some.inj default]
    rfl
  refine ⟨r, built, ?_⟩
  rw [names, names, names, ids, default]
  decide

end HttpBridge
