import RowAlert.Proofs.Attempts
import RowAlert.Proofs.Building
/-!
# RowAlert.Proofs.Channels

**What the kinds of channels do with a message.**

A channel that is ready need not be able to prepare a message. The subject and the recipients of a mail
and the headers of a request are settings that nobody reads before (`Prepared`); what cannot be read is
a fault that no channel recovers from (`Fault.IsReading`). A channel of any kind makes an attempt for a
message exactly if its policy has one and the message can be prepared (`send_counted`, `send_idle`).
-/

namespace RowAlert

/-! ### Reading settings -/

/-- The fault of a value that cannot be read. -/
def Fault.IsReading (fault : Fault) : Prop :=
  ∃ text, fault = .ofType text ∨ fault = .ofValue text

/-- A family without these kinds has no fault of reading. -/
theorem Fault.IsReading.isOf_eq_false {fault : Fault} (h : fault.IsReading)
    {family : FaultKind → Bool} (htype : family .type = false) (hvalue : family .value = false) :
    fault.isOf family = false := by
  obtain ⟨text, rfl | rfl⟩ := h
  · exact htype
  · exact hvalue

namespace Setting

theorem isReading_of_texts {i : Nat} {items : List Json} {fault : Fault}
    (h : texts i items = .error fault) : fault.IsReading := by
  induction items generalizing i with
  | nil => cases h
  | cons item items ih =>
    cases item with
    | str s =>
      rw [texts] at h
      exact ih (eq_error_of_map h)
    | _ =>
      obtain rfl := Except.error.inj h
      exact ⟨_, .inl rfl⟩

theorem isReading_of_joined {value : Json} {fault : Fault} (h : joined value = .error fault) :
    fault.IsReading := by
  unfold joined at h
  split at h
  · exact isReading_of_texts (eq_error_of_map h)
  · obtain rfl := Except.error.inj h
    exact ⟨_, .inl rfl⟩

theorem isReading_of_fieldName {value : Json} {fault : Fault} (h : fieldName value = .error fault) :
    fault.IsReading := by
  cases value with
  | arr | obj =>
    obtain rfl := Except.error.inj h
    exact ⟨_, .inl rfl⟩
  | _ => cases h

theorem isReading_of_pair {i : Nat} {item : Json} {fault : Fault} (h : pair i item = .error fault) :
    fault.IsReading := by
  unfold pair at h
  split at h
  · obtain rfl := Except.error.inj h
    exact ⟨_, .inl rfl⟩
  · exact isReading_of_fieldName (eq_error_of_map h)
  · obtain rfl := Except.error.inj h
    exact ⟨_, .inr rfl⟩

theorem isReading_of_pairs {i : Nat} {items : List Json} {fault : Fault}
    (h : pairs i items = .error fault) : fault.IsReading := by
  induction items generalizing i with
  | nil => cases h
  | cons item items ih =>
    rw [pairs] at h
    rcases error_of_bind_eq_error h with hpair | ⟨field, -, hrest⟩
    · exact isReading_of_pair hpair
    · rcases error_of_bind_eq_error hrest with hfields | ⟨fields, -, hpure⟩
      · exact ih hfields
      · cases hpure

theorem isReading_of_fields {value : Json} {fault : Fault} (h : fields value = .error fault) :
    fault.IsReading := by
  unfold fields at h
  split at h
  · cases h
  · split at h
    · exact isReading_of_pairs h
    · obtain rfl := Except.error.inj h
      exact ⟨_, .inl rfl⟩

end Setting

/-! ### Channels -/

/-- The settings of a channel let a message be prepared. -/
def Prepared (settings : ChannelSettings) (metadata : Metadata) : ChannelKind → Prop
  | .email =>
    (∃ subject, Email.opening (Email.Account.ofSettings settings) metadata = .ok subject) ∧
      ∃ recipients, Setting.joined (Email.Account.ofSettings settings).recipients = .ok recipients
  | .slack => True
  | .webhook => ∃ fields, Setting.fields (Setting.get settings "headers" (.obj [])) = .ok fields

/-- The cells of a row are told with a message. -/
def Metadata.HasRow (metadata : Metadata) : Prop := ∃ cells, metadata.get rowName = .obj cells

/-- The carrier does what a kind of channel does with these settings. -/
structure Carrier.Carries {ω π : Type} (c : Carrier ω π) (t : Transport ω) (kind : ChannelKind)
    (settings : ChannelSettings) : Prop where
  answers : t.Answers → ∀ payload metadata, (c.transmit payload metadata).Answers
  reaches : ∀ message metadata, Metadata.HasRow metadata → Prepared settings metadata kind →
    c.Reaches message metadata
  stops : ∀ message metadata, ¬Prepared settings metadata kind → c.Stops message metadata

variable {ω : Type} {t : Transport ω} {settings : ChannelSettings}

namespace Email

theorem converse_answers (ht : t.Answers) (account : Account) (policy : Policy) (mail : Mail) :
    (converse t account policy mail).Answers := by
  refine (ht.step _).bind fun _ => Call.Answers.ensuring ?_ _
  cases account.useTls.truthy <;> cases account.logsIn
  · exact ht.step _
  · exact (ht.step _).bind fun _ => ht.step _
  · exact (ht.step _).bind fun _ => ht.step _
  · exact (ht.step _).bind fun _ => (ht.step _).bind fun _ => ht.step _

/-- A mail session is one attempt. -/
theorem converse_attempts (account : Account) (policy : Policy) (mail : Mail) :
    (converse t account policy mail).Attempts 1 := by
  have hconnect : (t.step (.connect account.host account.portNumber policy.timeout)).Attempts 1 :=
    fun _ => rfl
  have hsecure : (t.step .secure).Attempts 0 := fun _ => rfl
  have hlogin : (t.step (.login account.user account.password)).Attempts 0 := fun _ => rfl
  have hsend : (t.step (.send mail)).Attempts 0 := fun _ => rfl
  refine hconnect.bind fun _ => Call.Attempts.ensuring ?_ fun _ => rfl
  cases account.useTls.truthy <;> cases account.logsIn
  · exact hsend
  · exact hlogin.bind fun _ => hsend
  · exact hsecure.bind fun _ => hsend
  · exact hsecure.bind fun _ => hlogin.bind fun _ => hsend

theorem letter_of_opening {account : Account} {metadata : Metadata} {subject : String}
    (h : opening account metadata = .ok subject) (message : String) :
    ∃ l, letter account message metadata = .ok l := by
  rw [letter, h]
  exact ⟨_, rfl⟩

theorem letter_of_fault {account : Account} {metadata : Metadata} {fault : Fault}
    (h : opening account metadata = .error fault) (message : String) :
    letter account message metadata = .error fault := by
  rw [letter, h]
  rfl

theorem carries {c : Carrier ω Letter} (h : carrier t settings = .ok c) :
    c.Carries t .email settings := by
  obtain ⟨policy, -, hc⟩ := exists_of_bind_eq_ok h
  obtain rfl := Except.ok.inj hc
  constructor
  · intro ht letter metadata
    refine (Call.answers_ofExcept _).bind fun recipients => ?_
    exact (converse_answers ht _ _ _).bind fun _ =>
      (Call.answers_ofSession _).bind fun _ => Call.answers_pure _
  · rintro message metadata - ⟨⟨subject, hsubject⟩, recipients, hrecipients⟩
    obtain ⟨l, hl⟩ := letter_of_opening hsubject message
    refine ⟨l, hl, ?_⟩
    dsimp only
    rw [hrecipients, Call.ofExcept_ok_bind]
    exact (converse_attempts _ _ _).bind fun _ =>
      (Call.attempts_ofSession (.notify _)).bind fun _ => Call.attempts_pure _
  · intro message metadata hnot
    cases hsubject : opening (Account.ofSettings settings) metadata with
    | error fault => exact .inl ⟨fault, letter_of_fault hsubject message⟩
    | ok subject =>
      obtain ⟨l, hl⟩ := letter_of_opening hsubject message
      cases hrecipients : Setting.joined (Account.ofSettings settings).recipients with
      | ok recipients => exact absurd ⟨⟨subject, hsubject⟩, recipients, hrecipients⟩ hnot
      | error fault =>
        have hreading := Setting.isReading_of_joined hrecipients
        refine .inr ⟨l, fault, hl, ?_, hreading.isOf_eq_false rfl rfl⟩
        exact Call.ofExcept_error_bind fault _

end Email

namespace Slack

theorem carries {c : Carrier ω Json} (h : carrier t settings = .ok c) :
    c.Carries t .slack settings := by
  obtain ⟨policy, -, hc⟩ := exists_of_bind_eq_ok h
  obtain rfl := Except.ok.inj hc
  constructor
  · intro ht payload metadata
    exact (ht.request _).bind fun _ => (Call.answers_ofSession _).bind fun _ => Call.answers_pure _
  · intro message metadata _ _
    refine ⟨_, rfl, (t.request_attempts _).bind fun _ => ?_⟩
    exact (Call.attempts_ofSession (.notify _)).bind fun _ => Call.attempts_pure _
  · intro message metadata hnot
    exact absurd trivial hnot

end Slack

namespace Webhook

theorem payload_of_hasRow {metadata : Metadata} (h : metadata.HasRow) (message : String) :
    ∃ p, payload message metadata = .ok p := by
  obtain ⟨cells, hcells⟩ := h
  have hrow : ∃ row, rowOf metadata = .ok row := by
    unfold rowOf
    rw [hcells]
    dsimp only
    split <;> exact ⟨_, rfl⟩
  obtain ⟨row, hrow⟩ := hrow
  rw [payload, hrow]
  exact ⟨_, rfl⟩

theorem request_of_fields {endpoint : Endpoint} {fields : List (String × Json)}
    (h : Setting.fields endpoint.headers = .ok fields) (policy : Policy) (payload : Json) :
    ∃ r, request endpoint policy payload = .ok r := by
  rw [request, h]
  exact ⟨_, rfl⟩

theorem request_of_fault {endpoint : Endpoint} {fault : Fault}
    (h : Setting.fields endpoint.headers = .error fault) (policy : Policy) (payload : Json) :
    request endpoint policy payload = .error fault := by
  rw [request, h]
  rfl

theorem carries {c : Carrier ω Json} (h : carrier t settings = .ok c) :
    c.Carries t .webhook settings := by
  obtain ⟨policy, -, hrest⟩ := exists_of_bind_eq_ok h
  obtain ⟨endpoint, hendpoint, hc⟩ := exists_of_bind_eq_ok hrest
  obtain ⟨method, -, he⟩ := exists_of_bind_eq_ok hendpoint
  have hheaders : endpoint.headers = Setting.get settings "headers" (.obj []) := by
    rw [← Except.ok.inj he]
  obtain rfl := Except.ok.inj hc
  constructor
  · intro ht payload metadata
    refine (Call.answers_ofExcept _).bind fun r => (ht.request r).bind fun _ => ?_
    exact (Call.answers_ofSession _).bind fun _ => Call.answers_pure _
  · rintro message metadata hrow ⟨fields, hfields⟩
    rw [← hheaders] at hfields
    obtain ⟨p, hp⟩ := payload_of_hasRow hrow message
    obtain ⟨r, hr⟩ := request_of_fields hfields policy p
    refine ⟨p, hp, ?_⟩
    dsimp only
    rw [hr, Call.ofExcept_ok_bind]
    exact (t.request_attempts r).bind fun _ =>
      (Call.attempts_ofSession (.notify _)).bind fun _ => Call.attempts_pure _
  · intro message metadata hnot
    cases hfields : Setting.fields endpoint.headers with
    | ok fields =>
      rw [hheaders] at hfields
      exact absurd ⟨fields, hfields⟩ hnot
    | error fault =>
      cases hp : payload message metadata with
      | error fault' => exact .inl ⟨fault', hp⟩
      | ok p =>
        have hreading := Setting.isReading_of_fields hfields
        refine .inr ⟨p, fault, hp, ?_, hreading.isOf_eq_false rfl rfl⟩
        dsimp only
        rw [request_of_fault hfields policy p, Call.ofExcept_error_bind]

end Webhook

namespace ChannelKind

variable {kind : ChannelKind} {channel : Channel ω}

/-- Every channel that is built is a carrier of its kind. -/
theorem exists_carrier (h : kind.channel t settings = .ok channel) :
    ∃ (π : Type) (c : Carrier ω π), channel = c.toChannel ∧ c.Carries t kind settings := by
  have hmap : ∀ {π : Type} {x : Except Fault (Carrier ω π)},
      x.map Carrier.toChannel = .ok channel → ∃ c, x = .ok c ∧ channel = c.toChannel := by
    intro π x hx
    cases x with
    | error fault => cases hx
    | ok c => exact ⟨c, rfl, (Except.ok.inj hx).symm⟩
  cases kind with
  | email =>
    obtain ⟨c, hc, rfl⟩ := hmap h
    exact ⟨_, c, rfl, Email.carries hc⟩
  | slack =>
    obtain ⟨c, hc, rfl⟩ := hmap h
    exact ⟨_, c, rfl, Slack.carries hc⟩
  | webhook =>
    obtain ⟨c, hc, rfl⟩ := hmap h
    exact ⟨_, c, rfl, Webhook.carries hc⟩

/-- A channel whose transport answers answers every message. -/
theorem send_answers (ht : t.Answers) (h : kind.channel t settings = .ok channel) (message : String)
    (metadata : Metadata) : (channel.send message metadata).Answers := by
  obtain ⟨π, c, rfl, hc⟩ := exists_carrier h
  exact Carrier.send_answers (hc.answers ht) message metadata

variable {message : String} {metadata : Metadata}

/-- A channel that is ready tries, if its policy has an attempt and the message can be prepared; its
receipt counts the attempts. -/
theorem send_counted (h : kind.channel t settings = .ok channel) (hready : channel.readiness = .ready)
    (hdry : channel.policy.dryRun.truthy = false) (hrow : metadata.HasRow)
    (hretries : 0 ≤ channel.policy.maxRetries) (hprepared : Prepared settings metadata kind) :
    (channel.send message metadata).Counts 0 ∧
      ∀ w, 0 < Effect.attempts (channel.send message metadata w).effects := by
  obtain ⟨π, c, rfl, hc⟩ := exists_carrier h
  exact Carrier.send_counted hready hdry (hc.reaches message metadata hrow hprepared) hretries

/-- A channel that only pretends does not try. -/
theorem send_pretends (h : kind.channel t settings = .ok channel)
    (hdry : channel.policy.dryRun.truthy = true) :
    (channel.send message metadata).Attempts 0 := by
  obtain ⟨π, c, rfl, -⟩ := exists_carrier h
  exact Carrier.send_pretends hdry

/-- A channel that has no attempt, or whose message cannot be prepared, does not try. -/
theorem send_idle (h : kind.channel t settings = .ok channel) (hready : channel.readiness = .ready)
    (hdry : channel.policy.dryRun.truthy = false)
    (hnot : ¬(0 ≤ channel.policy.maxRetries ∧ Prepared settings metadata kind)) :
    (channel.send message metadata).Attempts 0 := by
  obtain ⟨π, c, rfl, hc⟩ := exists_carrier h
  refine Carrier.send_idle hready hdry ?_
  by_cases hretries : 0 ≤ c.policy.maxRetries
  · exact .inr (hc.stops message metadata fun hprepared => hnot ⟨hretries, hprepared⟩)
  · exact .inl (Int.not_le.1 hretries)

end ChannelKind

end RowAlert
