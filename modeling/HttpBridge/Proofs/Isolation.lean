import HttpBridge.Proofs.Retry
import HttpBridge.Proofs.Slices

namespace HttpBridge

def Settings.Agree (keys : List String) (s s' : Settings) : Prop :=
  ∀ key ∈ keys, s.get? key = s'.get? key

namespace Settings.Agree

variable {α : Type} {keys : List String} {k : String} {s s' : Settings}

theorem mono {fewer : List String} (h : Agree keys s s') (sub : fewer ⊆ keys) :
    Agree fewer s s' :=
  fun key member => h key (sub member)

theorem contains (h : Agree keys s s') (member : k ∈ keys) :
    s.contains k = s'.contains k :=
  congrArg Option.isSome (h k member)

theorem parsed (h : Agree keys s s') (member : k ∈ keys) (parse : Parser α) :
    s.parsed k parse = s'.parsed k parse := by
  rw [Settings.parsed, h k member, Settings.parsed]

theorem parsedOr (h : Agree keys s s') (member : k ∈ keys) (parse : Parser α) (default : α) :
    s.parsedOr k parse default = s'.parsedOr k parse default := by
  rw [Settings.parsedOr, h.parsed member, Settings.parsedOr]

theorem pattern (h : Agree keys s s') (member : k ∈ keys) : s.pattern k = s'.pattern k := by
  rw [Settings.pattern, h k member, Settings.pattern]

end Settings.Agree

open Settings (Agree)

section Congruence

variable {s s' : Settings}

def Tls.keys : List String :=
  [typeKey, alwaysTrustKey, passwordKey, algorithmKey, pathKey]

theorem Tls.ofSettings_congr (h : Agree keys s s') : ofSettings s = ofSettings s' := by
  have type : readType s = readType s' := by
    rw [readType, h typeKey (by simp [keys]), readType]
  have alwaysTrust : s.boolean alwaysTrustKey false = s'.boolean alwaysTrustKey false :=
    h.parsedOr (by simp [keys]) ..
  rw [ofSettings, ofSettings, type, alwaysTrust, h passwordKey (by simp [keys]),
    h algorithmKey (by simp [keys]), h pathKey (by simp [keys])]

def ClientSettings.keys : List String :=
  [successKey, timeoutKey, messageLimitKey, bodyLimitKey] ++ Tls.keys

theorem ClientSettings.ofSettings_congr (h : Agree keys s s') : ofSettings s = ofSettings s' := by
  have success : s.pattern successKey = s'.pattern successKey := h.pattern (by simp [keys])
  have timeout := h.parsedOr (k := timeoutKey) (by simp [keys]) .uint64 defaultTimeout
  have message := h.parsed (k := messageLimitKey) (by simp [keys]) .uint64
  have body := h.parsed (k := bodyLimitKey) (by simp [keys]) .uint64
  have tls := Tls.ofSettings_congr (h.mono (List.subset_append_right ..))
  rw [ofSettings, ofSettings, success, timeout, message, body, tls]

def RequestPredicate.keys : List String :=
  [urlKey, methodKey, bodyTypeKey, headerKeyKey, headerValueKey]

theorem RequestPredicate.ofSettings_congr (h : Agree keys s s') :
    ofSettings s = ofSettings s' := by
  have url : s.pattern urlKey = s'.pattern urlKey := h.pattern (by simp [keys])
  have method := h.parsed (k := methodKey) (by simp [keys]) .method
  have bodyType := h.parsed (k := bodyTypeKey) (by simp [keys]) .bodyType
  have headerKey := h headerKeyKey (by simp [keys])
  have headerValue : s.pattern headerValueKey = s'.pattern headerValueKey :=
    h.pattern (by simp [keys])
  have given : s.contains headerValueKey = s'.contains headerValueKey := h.contains (by simp [keys])
  rw [ofSettings, ofSettings, url, method, bodyType, headerKey, headerValue, given]

def RetryPolicy.keys : List String :=
  [retriesKey, delayKey, maxDelayKey, factorKey, jitterKey, patternKey]

theorem RetryPolicy.ofSettings_congr (h : Agree keys s s') : ofSettings s = ofSettings s' := by
  have retries := h.parsedOr (k := retriesKey) (by simp [keys]) .uint32 default.maxRetries
  have delay := h.parsedOr (k := delayKey) (by simp [keys]) .uint64 default.baseDelay
  have maxDelay := h.parsedOr (k := maxDelayKey) (by simp [keys]) .uint64 default.maxDelay
  have factor := h.parsedOr (k := factorKey) (by simp [keys]) .float default.factor
  have jitter := h.parsedOr (k := jitterKey) (by simp [keys]) .uint64 default.jitter
  have retried : s.pattern patternKey = s'.pattern patternKey := h.pattern (by simp [keys])
  rw [ofSettings, ofSettings, retries, delay, maxDelay, factor, jitter, retried]

def Client.keys : List String :=
  ClientSettings.implementationKey :: ClientSettings.keys

theorem Client.ofSettings_congr {σ : Type} (w : World σ) (files : Files) (id : String)
    (h : Agree keys s s') : ofSettings w files id s = ofSettings w files id s' := by
  have kind : implementation id s = implementation id s' := by
    rw [implementation, h _ List.mem_cons_self, implementation]
  have settings := ClientSettings.ofSettings_congr (h.mono (List.subset_cons_self ..))
  rw [ofSettings, ofSettings, kind, settings]

end Congruence

namespace Configuration

variable {σ : Type}

def keys : List String :=
  Client.keys ++ (RequestPredicate.keys ++ RetryPolicy.keys)

theorem ofSettings_congr {s s' : Settings} (w : World σ) (files : Files) (id : String)
    (h : Agree keys s s') : ofSettings w files id s = ofSettings w files id s' := by
  have rest := h.mono (List.subset_append_right ..)
  have client := Client.ofSettings_congr w files id (h.mono (List.subset_append_left ..))
  have predicate := RequestPredicate.ofSettings_congr (rest.mono (List.subset_append_left ..))
  have policy := RetryPolicy.ofSettings_congr (rest.mono (List.subset_append_right ..))
  rw [ofSettings, ofSettings, client, predicate, policy]

/-- No key is the end of another one, after a dot. -/
theorem keys_separate :
    ∀ key ∈ keys, ∀ other ∈ keys, ¬ ('.' :: other.toList) <:+ key.toList := by
  decide +kernel

/-- Two dotted texts are the same in one way only, unless the end of one is an end of the other. -/
theorem dotted_eq {a b key other : List Char} (same : a ++ '.' :: key = b ++ '.' :: other) :
    a = b ∨ ('.' :: other) <:+ key ∨ ('.' :: key) <:+ other := by
  rcases List.append_eq_append_iff.mp same with ⟨rest, rfl, tail⟩ | ⟨rest, rfl, tail⟩
  · cases rest with
    | nil => exact .inl (List.append_nil a).symm
    | cons c rest =>
      rw [List.cons_append, List.cons.injEq] at tail
      exact .inr (.inl ⟨rest, tail.2.symm⟩)
  · cases rest with
    | nil => exact .inl (List.append_nil b)
    | cons c rest =>
      rw [List.cons_append, List.cons.injEq] at tail
      exact .inr (.inr ⟨rest, tail.2.symm⟩)

theorem full_key_ne {a b key other : String} (ne : a ≠ b) (known : key ∈ keys)
    (known' : other ∈ keys) : configurationKeys b ++ other ≠ configurationKeys a ++ key := by
  intro same
  have chars := congrArg String.toList same
  simp only [configurationKeys, String.toList_append, List.append_assoc] at chars
  rcases dotted_eq (List.append_cancel_left chars) with same | ends | ends
  · exact ne (String.toList_inj.mp same.symm)
  · exact keys_separate other known' key known ends
  · exact keys_separate key known other known' ends

/-- A configuration is read from its keys alone, and no setting of one configuration is read for
another one: not even where the name of one begins with the name of the other and a dot, so that
the settings of the longer name stand among those under the shorter one. -/
theorem ofSettings_isolated (w : World σ) (files : Files) :
    (∀ id s s', Agree keys s s' → ofSettings w files id s = ofSettings w files id s') ∧
    ∀ a b : String, a ≠ b → ∀ key ∈ keys, ∀ (value : String) (s : Settings),
      ofSettings w files b ((s.insert (configurationKeys a ++ key) value).under
          (configurationKeys b)) =
        ofSettings w files b (s.under (configurationKeys b)) := by
  refine ⟨fun id s s' agree => ofSettings_congr w files id agree, ?_⟩
  intro a b ne key known value s
  apply ofSettings_congr
  intro other known'
  rw [Settings.get?_under, Settings.get?_under,
    Settings.get?_insert_of_ne s value (full_key_ne ne known known')]

theorem ofSettings_isolated_dotted :
    let s := (∅ : Settings).insert "config.x.y.retry.policy.retries" "5"
    (s.under (configurationKeys "x")).get? "y.retry.policy.retries" = some "5" ∧
      Agree keys (s.under (configurationKeys "x")) ∅ ∧ "x.y" ≠ "x" ∧ RetryPolicy.retriesKey ∈ keys ∧
      ofSettings Retry.clockWorld .empty "x" (s.under (configurationKeys "x")) =
        ofSettings Retry.clockWorld .empty "x" ((∅ : Settings).under (configurationKeys "x")) ∧
      ofSettings Retry.clockWorld .empty "x" (s.under (configurationKeys "x")) =
        ofSettings Retry.clockWorld .empty "x" ∅ := by
  have there : Agree keys (((∅ : Settings).insert "config.x.y.retry.policy.retries" "5").under
      (configurationKeys "x")) ∅ := by
    unfold Agree
    decide +kernel
  obtain ⟨congr, isolated⟩ := ofSettings_isolated Retry.clockWorld .empty
  exact ⟨by decide +kernel, there, by decide, by decide,
    isolated "x.y" "x" (by decide) RetryPolicy.retriesKey (by decide) "5" ∅,
    congr "x" _ ∅ there⟩

end Configuration

end HttpBridge
