import HttpBridge.Config.Registry
import HttpBridge.Proofs.Results

namespace HttpBridge

structure Exchange.Sound (e : Exchange) : Prop where
  regular : e.moment.Regular
  failed : e.response.isTransportFailure = true → e.success = false

structure Response.SameButTexts (r r' : Response) : Prop where
  status : r.status = r'.status
  headers : r.headers = r'.headers

structure Response.Alike (r r' : Response) : Prop extends r.SameButTexts r' where
  body : r.body = r'.body

/-- Says that exchanges are the same but for what may differ in their responses. -/
structure Exchange.Same (responses : Response → Response → Prop) (e e' : Exchange) : Prop where
  request : e.request = e'.request
  response : responses e.response e'.response
  millis : e.millis = e'.millis
  moment : e.moment = e'.moment
  attempts : e.attempts = e'.attempts
  success : e.success = e'.success

abbrev Exchange.SameButTexts (e e' : Exchange) : Prop :=
  e.Same Response.SameButTexts e'

abbrev Exchange.Alike (e e' : Exchange) : Prop :=
  e.Same Response.Alike e'

theorem Exchange.Same.classify {responses : Response → Response → Prop} {e e' : Exchange}
    (h : e.Same responses e') (status : e.response.status = e'.response.status) (p : RetryPolicy)
    (attempts : UInt32) : p.classify e attempts = p.classify e' attempts := by
  simp [RetryPolicy.classify, RetryPolicy.retries, Response.isTransportFailure, status, h.success]

theorem Response.isTransportFailure_apply (t : Truncation) (r : Response) :
    (t.apply r).isTransportFailure = r.isTransportFailure := rfl

def Outcome.response : Outcome → Response
  | .reply r => r.response ""
  | .unsent _ => .transportFailure ""
  | .unread _ => .transportFailure ""

theorem Outcome.status_response (o : Outcome) : 0 ≤ o.response.status := by
  cases o with
  | reply r =>
    have small : r.status.toNat < 2 ^ 16 := r.status.toNat_lt
    rw [response, Reply.response, Int32.le_iff_toInt_le, Int32.toInt_ofNat_of_lt (by omega)]
    exact Int.natCast_nonneg _
  | unsent cause => exact Int32.le_refl 0
  | unread cause => exact Int32.le_refl 0

namespace ClientSettings

theorem exchange_of_accepted {c : ClientSettings} {response : Response}
    (accepted : 0 ≤ response.status) (request : Request) (duration : Time.Duration)
    (moment : Time.Moment) (attempts : UInt32) :
    ∃ e, c.exchange request response duration moment attempts = .ok e :=
  ⟨_, dif_pos accepted⟩

theorem exchange_ok {c : ClientSettings} {request : Request} {response : Response}
    {duration : Time.Duration} {moment : Time.Moment} {attempts : UInt32} {e : Exchange}
    (h : c.exchange request response duration moment attempts = .ok e) :
    e.request = request ∧ e.response = c.truncation.apply response ∧ e.moment = moment ∧
      e.attempts = attempts ∧ e.success = c.succeeds response := by
  rw [exchange, ExchangeDraft.build_eq_ok] at h
  obtain ⟨h₁, h₂, -, h₄, h₅, h₆⟩ := h
  exact ⟨(Option.some.inj h₁).symm, (Option.some.inj h₂).symm, h₄, h₅, h₆⟩

theorem succeeds_transportFailure {c : ClientSettings} {r : Response}
    (h : r.isTransportFailure = true) : c.succeeds r = false := by
  simp [succeeds, h]

end ClientSettings

namespace Client

variable {σ : Type}

def Assembles (c : Client σ) : Prop :=
  ∀ r attempt st, ∃ response duration moment,
    (c.call r attempt st).value.1 = c.settings.exchange r response duration moment attempt

def BuiltIn (w : World σ) (c : Client σ) : Prop :=
  ∃ i settings, c = .of w i settings

theorem of_assembles (w : World σ) (i : Implementation) (settings : ClientSettings) :
    (Client.of w i settings).Assembles := by
  intro r attempt st
  exact ⟨_, _, _, rfl⟩

theorem BuiltIn.assembles {w : World σ} {c : Client σ} (h : c.BuiltIn w) : c.Assembles := by
  obtain ⟨i, settings, rfl⟩ := h
  exact of_assembles w i settings

theorem lenientResponse_alike (r : Request) (url : String) (o : Outcome) :
    (lenientResponse r url o).value.Alike o.response := by
  cases o <;> exact ⟨⟨rfl, rfl⟩, rfl⟩

theorem strictResponse_alike (r : Request) (o : Outcome) :
    (strictResponse r o).value.Alike o.response := by
  cases o <;> exact ⟨⟨rfl, rfl⟩, rfl⟩

/-- A request that is not sent is answered like one that nobody answers. -/
theorem respond_alike (w : World σ) (i : Implementation) (r : Request) (st : σ) :
    ∃ o : Outcome, (respond w i r st).value.1.Alike o.response := by
  cases i with
  | lenient =>
    simp only [respond, lenient, Logged.value_bind]
    split
    · exact ⟨.unsent "", ⟨rfl, rfl⟩, rfl⟩
    · split
      · exact ⟨.unsent "", ⟨rfl, rfl⟩, rfl⟩
      · exact ⟨_, lenientResponse_alike ..⟩
  | strict =>
    simp only [respond, strict, Logged.value_bind]
    split
    · exact ⟨.unsent "", ⟨rfl, rfl⟩, rfl⟩
    · split
      · exact ⟨.unsent "", ⟨rfl, rfl⟩, rfl⟩
      · exact ⟨_, strictResponse_alike ..⟩

theorem respond_status (w : World σ) (i : Implementation) (r : Request) (st : σ) :
    0 ≤ (respond w i r st).value.1.status := by
  obtain ⟨o, alike⟩ := respond_alike w i r st
  exact alike.status ▸ o.status_response

theorem BuiltIn.call_ok {w : World σ} {c : Client σ} (h : c.BuiltIn w) (r : Request)
    (attempt : UInt32) (st : σ) : ∃ e, (c.call r attempt st).value.1 = .ok e := by
  obtain ⟨i, settings, rfl⟩ := h
  exact ClientSettings.exchange_of_accepted (respond_status w i r st) ..

variable {c : Client σ} {r : Request} {attempt : UInt32} {st : σ} {e : Exchange}

theorem Assembles.attempts (h : c.Assembles) (he : (c.call r attempt st).value.1 = .ok e) :
    e.attempts = attempt := by
  obtain ⟨response, duration, moment, hc⟩ := h r attempt st
  exact (ClientSettings.exchange_ok (hc.symm.trans he)).2.2.2.1

theorem Assembles.transportFailure (h : c.Assembles)
    (he : (c.call r attempt st).value.1 = .ok e) (hf : e.response.isTransportFailure = true) :
    e.success = false := by
  obtain ⟨response, duration, moment, hc⟩ := h r attempt st
  obtain ⟨-, hr, -, -, hs⟩ := ClientSettings.exchange_ok (hc.symm.trans he)
  rw [hr, Response.isTransportFailure_apply] at hf
  rw [hs, ClientSettings.succeeds_transportFailure hf]

theorem BuiltIn.sound {w : World σ} (h : c.BuiltIn w)
    (he : (c.call r attempt st).value.1 = .ok e) : e.Sound where
  regular := by
    obtain ⟨i, settings, rfl⟩ := h
    have moment : e.moment = w.now st := (ClientSettings.exchange_ok he).2.2.1
    exact moment ▸ w.now_regular st
  failed := h.assembles.transportFailure he

end Client

namespace Setup

variable {α β : Type}

def Gives (x : Setup α) (a : α) : Prop :=
  x.run.value = .ok a

theorem gives_of_toOption {x : Setup α} {a : α} (h : x.run.value.toOption = some a) :
    x.Gives a := by
  unfold Gives
  cases result : x.run.value with
  | error f => simp [result, Except.toOption] at h
  | ok b => simpa [result, Except.toOption] using h

@[simp] theorem gives_pure {a b : α} : (pure a : Setup α).Gives b ↔ a = b := by
  simp [Gives]

@[simp] theorem gives_ofExcept {x : Except ConfigFault α} {a : α} :
    (ofExcept x).Gives a ↔ x = .ok a := Iff.rfl

theorem run_value_bind (x : Setup α) (f : α → Setup β) :
    (x >>= f).run.value = x.run.value >>= fun a => (f a).run.value := by
  rw [ExceptT.run_bind, Logged.value_bind]
  cases x.run.value <;> rfl

theorem gives_bind {x : Setup α} {f : α → Setup β} {b : β} :
    (x >>= f).Gives b ↔ ∃ a, x.Gives a ∧ (f a).Gives b := by
  unfold Gives
  rw [run_value_bind]
  exact bind_eq_ok

end Setup

section Configured

variable {σ : Type} {w : World σ} {files : Files} {id : String} {s : Settings}

theorem Client.ofSettings_builtIn {c : Client σ} (h : (Client.ofSettings w files id s).Gives c) :
    c.BuiltIn w := by
  unfold Client.ofSettings at h
  simp only [Setup.gives_bind, Setup.gives_pure] at h
  obtain ⟨i, -, settings, -, -, -, -, -, rfl⟩ := h
  exact ⟨i, settings, rfl⟩

theorem Configuration.ofSettings_builtIn {c : Configuration σ}
    (h : (Configuration.ofSettings w files id s).Gives c) : c.client.BuiltIn w := by
  unfold Configuration.ofSettings at h
  simp only [Setup.gives_bind, Setup.gives_pure] at h
  obtain ⟨client, built, -, -, -, -, rfl⟩ := h
  exact Client.ofSettings_builtIn built

def RegistryBuilder.BuiltIn (w : World σ) (b : RegistryBuilder σ) : Prop :=
  (∀ c ∈ b.configurations, c.client.BuiltIn w) ∧ ∀ c, b.default = some c → c.client.BuiltIn w

theorem RegistryBuilder.BuiltIn.empty : (empty (σ := σ)).BuiltIn w := by
  constructor
  · intro c member
    cases member
  · intro c known
    cases known

theorem RegistryBuilder.register_builtIn {b : RegistryBuilder σ} {c : Configuration σ}
    (hb : b.BuiltIn w) (hc : c.client.BuiltIn w) : (b.register c).BuiltIn w := by
  unfold register
  split
  · refine ⟨hb.1, ?_⟩
    rintro _ ⟨⟩
    exact hc
  · refine ⟨?_, hb.2⟩
    intro c' member
    rcases List.mem_append.mp member with member | member
    · exact hb.1 c' member
    · exact List.mem_singleton.mp member ▸ hc

def Registry.BuiltIn (w : World σ) (r : Registry σ) : Prop :=
  ∀ request, (r.select request).client.BuiltIn w

theorem RegistryBuilder.build_builtIn {b : RegistryBuilder σ} {r : Registry σ} (hb : b.BuiltIn w)
    (h : b.build = .ok r) : r.BuiltIn w := by
  unfold build at h
  split at h
  · cases h
  · rename_i default known
    split at h
    · cases h
    · cases h
      intro request
      rw [Registry.select]
      cases found : b.configurations.find? (·.isMatch request) with
      | none => exact hb.2 default known
      | some c => exact hb.1 c (List.mem_of_find?_eq_some found)

theorem Registry.addAll_builtIn {ids : List String} {b b' : RegistryBuilder σ} (hb : b.BuiltIn w)
    (h : (ids.foldlM (addFrom w files s) b).Gives b') : b'.BuiltIn w := by
  induction ids generalizing b with
  | nil => exact Setup.gives_pure.mp h ▸ hb
  | cons id ids ih =>
    rw [List.foldlM_cons, Setup.gives_bind] at h
    obtain ⟨b₁, added, rest⟩ := h
    refine ih ?_ rest
    rw [addFrom, Setup.gives_bind] at added
    obtain ⟨c, built, same⟩ := added
    rw [← Setup.gives_pure.mp same]
    exact RegistryBuilder.register_builtIn hb (Configuration.ofSettings_builtIn built)

theorem Registry.ofSettings_builtIn {r : Registry σ} (h : (ofSettings w files s).Gives r) :
    r.BuiltIn w := by
  rw [ofSettings, Setup.gives_bind] at h
  obtain ⟨b, added, built⟩ := h
  exact RegistryBuilder.build_builtIn (addAll_builtIn .empty added) built

end Configured

end HttpBridge
