import Telemetry.Proofs.Candidates
import Telemetry.Settings.Environment

/-!
# Settings with the environment over them

* `Setting`, `Settings.get`: the settings one by one; settings are the same exactly if each of them
  is (`Settings.get_ext`).
* `Setting.decider?`: the variable without which the environment leaves a setting as it is. The
  port of the broker is none of these: it is read only beside the host.
* `Settings.get_overlay`: what becomes of each setting.
* `Settings.validate_overlay`: valid settings stay valid, unless the environment asks for no group
  of routes at a time.
* `Settings.overlay_settles`: the two together, and that a second overlay changes nothing.
-/

namespace Telemetry

/-- The settings, one by one. -/
inductive Setting where
  | storagePath
  | brokerUrl
  | brokerUser
  | brokerPassword
  | connector
  | brokerTimeout
  | seriesUrl
  | seriesToken
  | organization
  | bucket
  | window
  | seriesTimeout
  | topicRoot
  | policy
  | concurrency
  deriving DecidableEq

namespace Setting

/-- What a setting is set to. A text may be left open. -/
inductive Value where
  | text (s : Option String)
  | number (n : Nat)
  | policy (p : NamingPolicy)
  deriving DecidableEq

/-- The variable that decides whether the environment says anything about a setting. -/
def decider? : Setting → Option Variable
  | storagePath => some .storagePath
  | brokerUrl => some .brokerHost
  | brokerUser => some .brokerUser
  | brokerPassword => some .brokerPassword
  | seriesUrl => some .seriesUrl
  | seriesToken => some .seriesToken
  | organization => some .seriesOrganization
  | topicRoot => some .topicRoot
  | concurrency => some .concurrency
  | connector | brokerTimeout | bucket | window | seriesTimeout | policy => none

/-- What the text of its variable sets a setting to. -/
def read? (env : Environment) : Setting → String → Option Value
  | brokerUrl, host => some <| .text <| some <|
    match env.value? .brokerPort with
    | some port => "http://" ++ host ++ ":" ++ port
    | none => "http://" ++ host
  | concurrency, text => (readUnsigned? text).map .number
  | _, text => some (.text (some text))

end Setting

/-- What one of the settings is set to. -/
def Settings.get (s : Settings) : Setting → Setting.Value
  | .storagePath => .text s.storage.path
  | .brokerUrl => .text s.broker.baseUrl
  | .brokerUser => .text s.broker.user
  | .brokerPassword => .text s.broker.password
  | .connector => .text s.broker.connector
  | .brokerTimeout => .number s.broker.timeout
  | .seriesUrl => .text s.series.url
  | .seriesToken => .text s.series.token
  | .organization => .text s.series.organization
  | .bucket => .text s.series.bucket
  | .window => .number s.series.window
  | .seriesTimeout => .number s.series.timeout
  | .topicRoot => .text s.naming.topicRoot
  | .policy => .policy s.naming.policy
  | .concurrency => .number s.sync.concurrency

/-- There is nothing else to settings. -/
theorem Settings.get_ext {s s' : Settings} (h : ∀ k, s.get k = s'.get k) : s = s' := by
  obtain ⟨⟨_⟩, ⟨_, _, _, _, _⟩, ⟨_, _, _, _, _, _⟩, ⟨_, _⟩, ⟨_⟩⟩ := s
  obtain ⟨⟨_⟩, ⟨_, _, _, _, _⟩, ⟨_, _, _, _, _, _⟩, ⟨_, _⟩, ⟨_⟩⟩ := s'
  simpa [get, and_assoc] using And.intro (h .storagePath) <| And.intro (h .brokerUrl) <|
    And.intro (h .brokerUser) <| And.intro (h .brokerPassword) <| And.intro (h .connector) <|
    And.intro (h .brokerTimeout) <| And.intro (h .seriesUrl) <| And.intro (h .seriesToken) <|
    And.intro (h .organization) <| And.intro (h .bucket) <| And.intro (h .window) <|
    And.intro (h .seriesTimeout) <| And.intro (h .topicRoot) <| And.intro (h .policy)
      (h .concurrency)

/-! ## What the environment says -/

namespace Environment

/-- A variable is not set, or its value is blank. -/
def Unset (env : Environment) (v : Variable) : Prop :=
  ∀ text ∈ env v.name, Text.isBlankText text = true

theorem value?_eq_none_iff {env : Environment} {v : Variable} :
    env.value? v = none ↔ env.Unset v := by
  simp [value?, Unset, Option.filter_eq_none_iff]

theorem not_blank_of_value? {env : Environment} {v : Variable} {text : String}
    (h : env.value? v = some text) : Text.isBlankText text = false := by
  simpa using (Option.filter_eq_some_iff.mp h).2

/-- What the environment sets a setting to, if it says anything about it. -/
def setting? (env : Environment) (k : Setting) : Option Setting.Value :=
  k.decider?.bind fun v => (env.value? v).bind fun text => k.read? env text

theorem setting?_eq_none_of_unset {env : Environment} {k : Setting}
    (h : ∀ v ∈ k.decider?, env.Unset v) : env.setting? k = none := by
  rw [setting?, Option.bind_eq_none_iff]
  intro v hv
  rw [value?_eq_none_iff.mpr (h v hv), Option.bind_none]

end Environment

/-! ## Numbers -/

/-- A digit is not blank. -/
theorem isBlank_of_isDigit {c : Char} (h : c.isDigit = true) : Text.isBlank c = false := by
  have hrange : 48 ≤ c.toNat ∧ c.toNat ≤ 57 := by
    simpa [Char.isDigit, UInt32.le_iff_toNat_le] using h
  grind [Text.isBlank]

theorem exists_digit_of_readDigits? {cs : List Char} {n : Nat} (h : readDigits? cs = some n) :
    ∃ c ∈ cs, c.isDigit = true := by
  unfold readDigits? at h
  split at h
  · next hcs =>
    obtain ⟨c, cs, rfl⟩ := List.exists_cons_of_ne_nil hcs.1
    exact ⟨c, .head _, List.all_eq_true.mp hcs.2 c (.head _)⟩
  · cases h

/-- A number is written in digits, so its text is not blank. -/
theorem not_blank_of_readUnsigned? {text : String} {n : Nat} (h : readUnsigned? text = some n) :
    Text.isBlankText text = false := by
  obtain ⟨m, hm, -⟩ := Option.bind_eq_some_iff.mp h
  obtain ⟨c, hc, hdigit⟩ := exists_digit_of_readDigits? hm
  refine Text.isBlankText_eq_false_iff.mpr ⟨c, ?_, isBlank_of_isDigit hdigit⟩
  -- The digits are the text itself, or what follows its plus sign.
  split at hc
  · next heq => exact heq ▸ .tail _ hc
  · exact hc

/-- Whether blank values count makes no difference to a number. -/
theorem Environment.concurrency?_eq_some_iff {env : Environment} {n : Nat} :
    env.concurrency? = some n ↔
      ∃ text ∈ env Variable.concurrency.name, readUnsigned? text = some n := by
  simp only [concurrency?, value?, Option.bind_eq_some_iff, Option.filter_eq_some_iff,
    Option.mem_def]
  constructor
  · rintro ⟨text, ⟨htext, -⟩, hn⟩
    exact ⟨text, htext, hn⟩
  · rintro ⟨text, htext, hn⟩
    exact ⟨text, ⟨htext, by simp [not_blank_of_readUnsigned? hn]⟩, hn⟩

/-! ## What becomes of settings -/

namespace Settings

/-- A setting has the value that the environment sets it to, or else the one it had. -/
theorem get_overlay (s : Settings) (env : Environment) (k : Setting) :
    (s.overlay env).get k = (env.setting? k).getD (s.get k) := by
  cases k with
  | connector | brokerTimeout | bucket | window | seriesTimeout | policy => rfl
  | brokerUrl =>
    simp only [get, overlay, Environment.brokerUrl?, Environment.setting?, Setting.decider?,
      Setting.read?, Option.bind_some]
    cases env.value? .brokerHost <;> rfl
  | concurrency =>
    simp only [get, overlay, Environment.concurrency?, Environment.setting?, Setting.decider?,
      Setting.read?, Option.bind_some]
    cases env.value? .concurrency with
    | none => rfl
    | some text =>
      simp only [Option.bind_some]
      cases readUnsigned? text <;> rfl
  | _ =>
    simp only [get, overlay, Environment.setting?, Setting.decider?, Setting.read?,
      Option.bind_some]
    cases env.value? _ <;> rfl

/-- A setting keeps its value if its variable is not set, or blank. -/
theorem get_overlay_of_unset (s : Settings) {env : Environment} {k : Setting}
    (h : ∀ v ∈ k.decider?, env.Unset v) : (s.overlay env).get k = s.get k := by
  rw [get_overlay, Environment.setting?_eq_none_of_unset h, Option.getD_none]

theorem overlay_overlay (s : Settings) (env : Environment) :
    (s.overlay env).overlay env = s.overlay env := by
  refine get_ext fun k => ?_
  simp only [get_overlay]
  cases env.setting? k <;> rfl

/-! ## Valid settings -/

/-- Settings are valid if each of them is in its range. -/
theorem validate_eq_ok_iff {s : Settings} :
    s.validate = .ok () ↔ Text.isBlankText s.naming.topicRoot = false ∧ s.sync.concurrency ≠ 0 ∧
      s.series.window ≠ 0 ∧ s.broker.timeout ≠ 0 ∧ s.series.timeout ≠ 0 := by
  unfold validate
  split <;> grind

/-- Without groups at a time settings are not valid, and if they have a root this is reported. -/
theorem validate_of_concurrency_eq_zero {s : Settings}
    (hroot : Text.isBlankText s.naming.topicRoot = false) (hconcurrency : s.sync.concurrency = 0) :
    s.validate = .error (.configuration "sync.concurrency must be > 0") := by
  rw [validate, if_neg (by simp [hroot]), if_pos hconcurrency]

/-- The environment sets no blank root. -/
theorem overlay_topicRoot_not_blank {s : Settings} (env : Environment)
    (h : Text.isBlankText s.naming.topicRoot = false) :
    Text.isBlankText (s.overlay env).naming.topicRoot = false := by
  show Text.isBlankText ((env.value? .topicRoot).getD s.naming.topicRoot) = false
  cases hvalue : env.value? .topicRoot with
  | none => exact h
  | some text => exact Environment.not_blank_of_value? hvalue

/-- Valid settings stay valid, unless the environment asks for no groups at a time. -/
theorem validate_overlay {s : Settings} (env : Environment) (h : s.validate = .ok ()) :
    (s.overlay env).validate =
      if env.concurrency? = some 0 then .error (.configuration "sync.concurrency must be > 0")
      else .ok () := by
  obtain ⟨hroot, hconcurrency, htimes⟩ := validate_eq_ok_iff.mp h
  have hroot := overlay_topicRoot_not_blank env hroot
  have hoverlay : (s.overlay env).sync.concurrency =
      env.concurrency?.getD s.sync.concurrency := rfl
  split
  · next hzero => exact validate_of_concurrency_eq_zero hroot (by rw [hoverlay, hzero]; rfl)
  · next hnonzero =>
    refine validate_eq_ok_iff.mpr ⟨hroot, ?_, htimes⟩
    rw [hoverlay]
    cases hasked : env.concurrency? with
    | none => exact hconcurrency
    | some n => exact fun hn => hnonzero (by rw [hasked, show n = 0 from hn])

/-- A second overlay changes nothing. A setting has the value that its variable writes, and keeps the
one it had if the variable is not set or blank, which for the address of the broker is the variable
of its host, whatever the port is; and the number of groups at a time keeps its value if its variable
is no unsigned number. Valid settings stay valid, unless the number of groups is to be zero. -/
theorem overlay_settles (s : Settings) (env : Environment) :
    (s.overlay env).overlay env = s.overlay env ∧
    (∀ k : Setting, (s.overlay env).get k = (env.setting? k).getD (s.get k)) ∧
    (∀ k : Setting, (∀ v ∈ k.decider?, env.Unset v) → (s.overlay env).get k = s.get k) ∧
    (env.Unset .brokerHost → (s.overlay env).broker.baseUrl = s.broker.baseUrl) ∧
    ((∀ text ∈ env Variable.concurrency.name, readUnsigned? text = none) →
      (s.overlay env).sync.concurrency = s.sync.concurrency) ∧
    (s.validate = .ok () → ∀ error, (s.overlay env).validate = .error error ↔
      error = .configuration "sync.concurrency must be > 0" ∧
        ∃ text ∈ env Variable.concurrency.name, readUnsigned? text = some 0) := by
  refine ⟨s.overlay_overlay env, s.get_overlay env, fun k => s.get_overlay_of_unset, fun h => ?_,
    fun h => ?_, fun h error => ?_⟩
  · have hget : (s.overlay env).get .brokerUrl = s.get .brokerUrl :=
      s.get_overlay_of_unset fun v hv => by cases hv; exact h
    exact Setting.Value.text.inj hget
  · have hnone : env.concurrency? = none := by
      refine Option.eq_none_iff_forall_ne_some.mpr fun n hn => ?_
      obtain ⟨text, htext, hread⟩ := Environment.concurrency?_eq_some_iff.mp hn
      rw [h text htext] at hread
      cases hread
    show env.concurrency?.getD s.sync.concurrency = _
    rw [hnone, Option.getD_none]
  · rw [validate_overlay env h, ← Environment.concurrency?_eq_some_iff]
    split
    · next hzero => simp [hzero, eq_comm]
    · next hnonzero => simp [hnonzero]

/-- Settings that know where the broker is. -/
def reaching : Settings := { broker := { baseUrl := some "http://emqx:18083" } }

/-- A blank host beside a port, and a zero with a sign. -/
def hostless : Environment := fun name =>
  [("EMQX_HOST", " \t"), ("EMQX_API_PORT", "8081"), ("QIOT_SYNC_CONCURRENCY", "+00")].lookup name

/-- A port without a host moves no broker, and a zero is refused however it is written. -/
theorem overlay_settles_hostless :
    reaching.validate = .ok () ∧ hostless.Unset .brokerHost ∧
      hostless Variable.concurrency.name = some "+00" ∧
      (reaching.overlay hostless).broker.baseUrl = some "http://emqx:18083" ∧
      (reaching.overlay hostless).validate =
        .error (.configuration "sync.concurrency must be > 0") := by
  have hvalid : reaching.validate = .ok () := by rfl
  have hhost : hostless.Unset .brokerHost := by
    rintro _ ⟨⟩
    decide
  have hzero : hostless Variable.concurrency.name = some "+00" := by decide
  obtain ⟨-, -, -, hurl, -, hrefused⟩ := overlay_settles reaching hostless
  exact ⟨hvalid, hhost, hzero, hurl hhost,
    (hrefused hvalid _).mpr ⟨rfl, "+00", hzero, by decide⟩⟩

end Settings

end Telemetry
