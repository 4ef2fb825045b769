import HttpBridge.Proofs.Isolation

namespace HttpBridge

variable {α β σ : Type} {keys : List String} {s : Settings}

def ConfigFault.About (keys : List String) : ConfigFault → Prop
  | missingSetting key => key ∈ keys
  | invalidValue key _ _ => key ∈ keys
  | invalidPattern key => key ∈ keys
  | unknownClient _ _ => ClientSettings.implementationKey ∈ keys
  | trustStore _ _ => Tls.pathKey ∈ keys
  | missingDefault => False
  | duplicate _ => False

def Blames (keys : List String) (x : Except ConfigFault α) : Prop :=
  ∀ f, x = .error f → f.About keys

theorem blames_ok (a : α) : Blames keys (.ok a) :=
  nofun

theorem blames_error {f : ConfigFault} (about : f.About keys) :
    Blames keys (.error f : Except ConfigFault α) := by
  rintro _ ⟨⟩
  exact about

theorem Blames.bind {x : Except ConfigFault α} {f : α → Except ConfigFault β} (h : Blames keys x)
    (rest : ∀ a, Blames keys (f a)) : Blames keys (x >>= f) := by
  cases x with
  | ok a => exact rest a
  | error e => exact blames_error (h e rfl)

theorem Blames.steps {x : Setup α} {f : α → Setup β} (h : Blames keys x.run.value)
    (rest : ∀ a, Blames keys (f a).run.value) : Blames keys (x >>= f).run.value := by
  rw [Setup.run_value_bind]
  exact h.bind rest

namespace Settings

variable {key : String}

theorem parsed_blames (member : key ∈ keys) (parse : Parser α) :
    Blames keys (s.parsed key parse) := by
  unfold parsed
  split
  · exact blames_ok _
  · split
    · exact blames_ok _
    · exact blames_error member

theorem parsedOr_blames (member : key ∈ keys) (parse : Parser α) (default : α) :
    Blames keys (s.parsedOr key parse default) := by
  have read := parsed_blames (s := s) member parse
  unfold parsedOr
  cases parsed : s.parsed key parse with
  | ok a => exact blames_ok _
  | error f => exact blames_error (read f parsed)

theorem pattern_blames (member : key ∈ keys) : Blames keys (s.pattern key) := by
  unfold pattern
  split
  · exact blames_ok _
  · split
    · exact blames_ok _
    · exact blames_error member

end Settings

open Settings

theorem Tls.readType_blames (member : typeKey ∈ keys) : Blames keys (readType s) := by
  unfold readType
  split
  · exact blames_ok _
  · split
    · exact blames_ok _
    · exact blames_error member

theorem Tls.ofSettings_blames (sub : Tls.keys ⊆ keys) : Blames keys (ofSettings s).run.value := by
  have type : Blames keys (readType s) := readType_blames (sub (by simp [Tls.keys]))
  have alwaysTrust : Blames keys (s.boolean alwaysTrustKey false) :=
    parsedOr_blames (sub (by simp [Tls.keys])) _ _
  refine Blames.steps type fun _ => Blames.steps alwaysTrust fun _ => ?_
  dsimp only
  split
  · exact blames_ok _
  · exact blames_ok _

theorem Tls.load_blames (member : pathKey ∈ keys) (files : Files) (t : Tls) :
    Blames keys (t.load files).run.value := by
  unfold load
  split
  · exact blames_ok _
  · split
    · exact blames_ok _
    · split
      · exact blames_error member
      · split
        · exact blames_ok _
        · exact blames_error member

theorem Tls.withoutStore_blames (member : pathKey ∈ keys) (t : Tls) :
    Blames keys t.withoutStore.run.value := by
  unfold withoutStore
  split
  · exact blames_ok _
  · split
    · exact blames_ok _
    · exact blames_error member

theorem ClientSettings.ofSettings_blames (sub : ClientSettings.keys ⊆ keys) :
    Blames keys (ofSettings s).run.value := by
  have success : Blames keys (s.pattern successKey) :=
    pattern_blames (sub (by simp [ClientSettings.keys]))
  have timeout : Blames keys (s.parsedOr timeoutKey .uint64 defaultTimeout) :=
    parsedOr_blames (sub (by simp [ClientSettings.keys])) _ _
  have message : Blames keys (s.parsed messageLimitKey .uint64) :=
    parsed_blames (sub (by simp [ClientSettings.keys])) _
  have body : Blames keys (s.parsed bodyLimitKey .uint64) :=
    parsed_blames (sub (by simp [ClientSettings.keys])) _
  have tls : Blames keys (Tls.ofSettings s).run.value :=
    Tls.ofSettings_blames fun _ member => sub (List.mem_append_right _ member)
  exact Blames.steps success fun _ => Blames.steps timeout fun _ => Blames.steps message fun _ =>
    Blames.steps body fun _ => Blames.steps tls fun _ => blames_ok _

theorem Client.implementation_blames (member : ClientSettings.implementationKey ∈ keys)
    (id : String) : Blames keys (implementation id s) := by
  unfold implementation
  split
  · exact blames_ok _
  · split
    · exact blames_ok _
    · exact blames_error member

theorem Client.checkTls_blames (member : Tls.pathKey ∈ keys) (files : Files) (t : Tls)
    (i : Implementation) : Blames keys (checkTls files t i).run.value := by
  cases i with
  | lenient => exact t.load_blames member files
  | strict => exact t.withoutStore_blames member

theorem Client.ofSettings_blames (sub : Client.keys ⊆ keys) (w : World σ) (files : Files)
    (id : String) : Blames keys (ofSettings w files id s).run.value := by
  have kind : Blames keys (implementation id s) :=
    implementation_blames (sub List.mem_cons_self) id
  have settings : Blames keys (ClientSettings.ofSettings s).run.value :=
    ClientSettings.ofSettings_blames fun _ member => sub (List.mem_cons_of_mem _ member)
  have store : Tls.pathKey ∈ keys := sub (by simp [Client.keys, ClientSettings.keys, Tls.keys])
  exact Blames.steps kind fun i => Blames.steps settings fun c =>
    Blames.steps (blames_ok _) fun _ =>
    Blames.steps (checkTls_blames store files c.tls i) fun _ => blames_ok _

theorem RequestPredicate.ofSettings_blames (sub : RequestPredicate.keys ⊆ keys) :
    Blames keys (ofSettings s) := by
  have url : Blames keys (s.pattern urlKey) :=
    pattern_blames (sub (by simp [RequestPredicate.keys]))
  have method : Blames keys (s.parsed methodKey .method) :=
    parsed_blames (sub (by simp [RequestPredicate.keys])) _
  have bodyType : Blames keys (s.parsed bodyTypeKey .bodyType) :=
    parsed_blames (sub (by simp [RequestPredicate.keys])) _
  have value : Blames keys (s.pattern headerValueKey) :=
    pattern_blames (sub (by simp [RequestPredicate.keys]))
  refine Blames.bind url fun _ => Blames.bind method fun _ => Blames.bind bodyType fun _ => ?_
  split
  · exact Blames.bind value fun _ => blames_ok _
  · split
    · exact blames_error (sub (by simp [RequestPredicate.keys]))
    · exact blames_ok _

theorem RetryPolicy.ofSettings_blames (sub : RetryPolicy.keys ⊆ keys) :
    Blames keys (ofSettings s) := by
  have retries : Blames keys (s.parsedOr retriesKey .uint32 default.maxRetries) :=
    parsedOr_blames (sub (by simp [RetryPolicy.keys])) _ _
  have delay : Blames keys (s.parsedOr delayKey .uint64 default.baseDelay) :=
    parsedOr_blames (sub (by simp [RetryPolicy.keys])) _ _
  have maxDelay : Blames keys (s.parsedOr maxDelayKey .uint64 default.maxDelay) :=
    parsedOr_blames (sub (by simp [RetryPolicy.keys])) _ _
  have factor : Blames keys (s.parsedOr factorKey .float default.factor) :=
    parsedOr_blames (sub (by simp [RetryPolicy.keys])) _ _
  have jitter : Blames keys (s.parsedOr jitterKey .uint64 default.jitter) :=
    parsedOr_blames (sub (by simp [RetryPolicy.keys])) _ _
  have retried : Blames keys (s.pattern patternKey) :=
    pattern_blames (sub (by simp [RetryPolicy.keys]))
  refine Blames.bind retries fun _ => Blames.bind delay fun _ => Blames.bind maxDelay fun _ =>
    Blames.bind factor fun _ => Blames.bind jitter fun _ => ?_
  split
  · exact blames_error (sub (by simp [RetryPolicy.keys]))
  · exact Blames.bind retried fun _ => blames_ok _

/-- A configuration that cannot be read has a fault in one of its own settings. -/
theorem Configuration.ofSettings_blames (w : World σ) (files : Files) (id : String)
    (s : Settings) : Blames Configuration.keys (ofSettings w files id s).run.value := by
  have client : Blames Configuration.keys (Client.ofSettings w files id s).run.value :=
    Client.ofSettings_blames (List.subset_append_left ..) w files id
  have predicate : Blames Configuration.keys (RequestPredicate.ofSettings s) :=
    RequestPredicate.ofSettings_blames fun _ member =>
      List.mem_append_right _ (List.mem_append_left _ member)
  have policy : Blames Configuration.keys (RetryPolicy.ofSettings s) :=
    RetryPolicy.ofSettings_blames fun _ member =>
      List.mem_append_right _ (List.mem_append_right _ member)
  exact Blames.steps client fun _ => Blames.steps predicate fun _ => Blames.steps policy fun _ =>
    blames_ok _

end HttpBridge
