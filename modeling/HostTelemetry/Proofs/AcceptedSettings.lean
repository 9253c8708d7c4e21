import HostTelemetry.Settings
import HostTelemetry.Proofs.NumberText
import HostTelemetry.Proofs.TextParts

/-!
# Accepted settings

Which variables give settings, and which settings they give. A member holds what the value of its
variable reads as, and its default only where the variable has no value. Settings are accepted
exactly when the account is named, every value can be read and the members are sound together.
-/

namespace HostTelemetry

/-! ### Trimmed values -/

theorem Text.isBlankText_trimmed (s : String) :
    Text.isBlankText (Text.trimmed s) = Text.isBlankText s := by
  rw [Text.isBlankText, Text.trimmed, String.toList_ofList, Text.all_isBlank_trim]
  rfl

theorem Text.isEmpty_trimmed (s : String) : (Text.trimmed s).isEmpty = Text.isBlankText s := by
  rw [Bool.eq_iff_iff, String.isEmpty_iff, Text.trimmed, String.ofList_eq_empty_iff,
    Text.trim_eq_nil_iff]
  rfl

/-- Every base that is not blank completes to a url. -/
theorem isSome_completeUrlText?_iff (base path : String) :
    (completeUrlText? base path).isSome = true ↔ Text.isBlankText base = false := by
  rw [completeUrlText?, completeUrl?, Option.isSome_map]
  dsimp only
  rw [← Bool.not_eq_true (Text.isBlankText base), Text.isBlankText, ← Text.trim_eq_nil_iff,
    ← List.isEmpty_iff]
  split
  · next h => simp [h]
  · next h => simp [h]

theorem Duration.isZero_iff (d : Duration) : d.isZero = true ↔ d.totalNanos = 0 := by
  rw [Duration.isZero, Duration.totalNanos, Bool.and_eq_true, beq_iff_eq, beq_iff_eq]
  omega

namespace Settings

/-! ### Computations that can fail -/

section Failing

variable {ε α β : Type} {x : Except ε α} {f : α → Except ε β} {b : β}

theorem bind_eq_ok_iff : (x >>= f) = .ok b ↔ ∃ a, x = .ok a ∧ f a = .ok b := by
  cases x with
  | error e => simp [bind, Except.bind]
  | ok a => simp [bind, Except.bind]

theorem ite_error_eq_ok_iff {c : Prop} [Decidable c] {e : ε} {a : α} :
    (if c then .error e else x) = .ok a ↔ ¬c ∧ x = .ok a := by
  split
  · next h => simp [h]
  · next h => simp [h]

end Failing

/-! ### What a variable says -/

variable {α : Type}

/-- The value of a text that may be missing: the blanks around it are not part of it, and a blank
text has none. -/
def HasValue (text : Option String) (value : String) : Prop :=
  ∃ s, text = some s ∧ Text.isBlankText s = false ∧ value = Text.trimmed s

/-- What a member holds: what the value reads as, or the default where there is no value. -/
def Holds (reads : String → α → Prop) (text : Option String) (default a : α) : Prop :=
  (∃ value, HasValue text value ∧ reads value a) ∨ (∀ value, ¬HasValue text value) ∧ a = default

def present? (text : Option String) : Option String :=
  (text.map Text.trimmed).filter fun s => !s.isEmpty

theorem value?_eq (vars : Variables) (name : String) : value? vars name = present? (vars name) := rfl

theorem present?_eq_some_iff {text : Option String} {value : String} :
    present? text = some value ↔ HasValue text value := by
  rw [present?, Option.filter_eq_some_iff, Option.map_eq_some_iff]
  constructor
  · rintro ⟨⟨s, rfl, rfl⟩, hfull⟩
    exact ⟨s, rfl, by simpa [Text.isEmpty_trimmed] using hfull, rfl⟩
  · rintro ⟨s, rfl, hfull, rfl⟩
    exact ⟨⟨s, rfl, rfl⟩, by simp [Text.isEmpty_trimmed, hfull]⟩

theorem not_hasValue {text : Option String} (h : present? text = none) (value : String) :
    ¬HasValue text value := by
  rw [← present?_eq_some_iff, h]
  exact Option.some_ne_none value ∘ Eq.symm

theorem HasValue.unique {text : Option String} {v w : String} (hv : HasValue text v)
    (hw : HasValue text w) : v = w :=
  Option.some.inj ((present?_eq_some_iff.2 hv).symm.trans (present?_eq_some_iff.2 hw))

theorem HasValue.isBlankText_eq {text : Option String} {value : String} (h : HasValue text value) :
    Text.isBlankText value = false := by
  obtain ⟨s, -, hs, rfl⟩ := h
  rw [Text.isBlankText_trimmed, hs]

section Holds

variable {reads : String → α → Prop} {text : Option String} {default a : α}

theorem holds_iff_of_some {value : String} (h : present? text = some value) :
    Holds reads text default a ↔ reads value a := by
  have hvalue := present?_eq_some_iff.1 h
  constructor
  · rintro (⟨w, hw, hreads⟩ | ⟨hnone, -⟩)
    · rwa [hvalue.unique hw]
    · exact absurd hvalue (hnone value)
  · exact fun hreads => .inl ⟨value, hvalue, hreads⟩

theorem holds_iff_of_none (h : present? text = none) :
    Holds reads text default a ↔ a = default := by
  constructor
  · rintro (⟨value, hvalue, -⟩ | ⟨-, rfl⟩)
    · exact absurd hvalue (not_hasValue h value)
    · rfl
  · exact fun ha => .inr ⟨not_hasValue h, ha⟩

/-- A member can be given exactly if the value of its variable can be read. -/
theorem exists_holds_iff :
    (∃ a, Holds reads text default a) ↔ ∀ value, HasValue text value → ∃ a, reads value a := by
  cases htext : present? text with
  | none =>
    exact ⟨fun _ value hvalue => absurd hvalue (not_hasValue htext value),
      fun _ => ⟨default, (holds_iff_of_none htext).2 rfl⟩⟩
  | some value =>
    have hvalue := present?_eq_some_iff.1 htext
    constructor
    · rintro ⟨a, ha⟩ w hw
      exact ⟨a, hvalue.unique hw ▸ (holds_iff_of_some htext).1 ha⟩
    · intro h
      obtain ⟨a, ha⟩ := h value hvalue
      exact ⟨a, (holds_iff_of_some htext).2 ha⟩

end Holds

/-! ### Members that are texts -/

theorem holds_eq_iff {text : Option String} {default a : String} :
    Holds Eq text default a ↔ a = (present? text).getD default := by
  cases htext : present? text with
  | none => rw [holds_iff_of_none htext, Option.getD_none]
  | some value => rw [holds_iff_of_some htext, Option.getD_some, eq_comm]

theorem holds_some_iff {text default a : Option String} :
    Holds (fun value a => a = some value) text default a ↔ a = (present? text).or default := by
  cases htext : present? text with
  | none => rw [holds_iff_of_none htext, Option.none_or]
  | some value => rw [holds_iff_of_some htext, Option.some_or]

theorem holds_lowered_iff {text : Option String} {default a : String} :
    Holds (fun value a => a = Text.lowered value) text default a ↔
      a = ((present? text).map Text.lowered).getD default := by
  cases htext : present? text with
  | none => rw [holds_iff_of_none htext, Option.map_none, Option.getD_none]
  | some value => rw [holds_iff_of_some htext, Option.map_some, Option.getD_some]

theorem Holds.isBlankText_eq {text : Option String} {default a : String}
    (h : Holds Eq text default a) (hdefault : Text.isBlankText default = false) :
    Text.isBlankText a = false := by
  rcases h with ⟨value, hvalue, rfl⟩ | ⟨-, rfl⟩
  · exact hvalue.isBlankText_eq
  · exact hdefault

/-- A text without a default is blank only if its variable has no value. -/
theorem Holds.isBlankText_iff {text : Option String} {a : String} (h : Holds Eq text "" a) :
    Text.isBlankText a = false ↔ ∃ value, HasValue text value := by
  rcases h with ⟨value, hvalue, rfl⟩ | ⟨hnone, rfl⟩
  · exact ⟨fun _ => ⟨value, hvalue⟩, fun _ => hvalue.isBlankText_eq⟩
  · exact ⟨fun h => absurd h (by decide), fun ⟨value, hvalue⟩ => absurd hvalue (hnone value)⟩

/-! ### Members that are read -/

def ReadsDuration (value : String) (d : Duration) : Prop := readDuration? value = some d

def ReadsNumber (value : String) (n : Nat) : Prop :=
  Decimal.WritesNatural Decimal.limit64 value.toList n

def switchWords : Bool → List String
  | true => ["true", "1", "yes"]
  | false => ["false", "0", "no"]

def ReadsSwitch (value : String) (on : Bool) : Prop := Text.lowered value ∈ switchWords on

theorem readSwitch?_eq_some_iff {value : String} {on : Bool} :
    readSwitch? value = some on ↔ ReadsSwitch value on := by
  -- No word switches both on and off.
  have hapart : ∀ word ∈ switchWords true, word ∉ switchWords false := by decide
  have hon : Text.lowered value ∈ switchWords true ↔ Text.lowered value = "true" ∨
      Text.lowered value = "1" ∨ Text.lowered value = "yes" := by simp [switchWords]
  have hoff : Text.lowered value ∈ switchWords false ↔ Text.lowered value = "false" ∨
      Text.lowered value = "0" ∨ Text.lowered value = "no" := by simp [switchWords]
  simp only [readSwitch?, ReadsSwitch, ← hon, ← hoff]
  have hboth := hapart (Text.lowered value)
  split
  · next h => cases on <;> simp [h, hboth h]
  · next h =>
    split
    · next h' => cases on <;> simp [h, h']
    · next h' => cases on <;> simp [h, h']

/-- A member that is read: nothing but a value that can be read takes the place of its default. -/
def readOr (read? : String → Option α) (fault : String → SettingsError) (text : Option String)
    (default : α) : Except SettingsError α :=
  match present? text with
  | none => .ok default
  | some value =>
    match read? value with
    | some a => .ok a
    | none => .error (fault value)

theorem readOr_eq_ok_iff {read? : String → Option α} {fault : String → SettingsError}
    {reads : String → α → Prop} (hreads : ∀ value a, read? value = some a ↔ reads value a)
    {text : Option String} {default a : α} :
    readOr read? fault text default = .ok a ↔ Holds reads text default a := by
  rw [readOr]
  cases htext : present? text with
  | none => rw [holds_iff_of_none htext, Except.ok.injEq, eq_comm]
  | some value =>
    rw [holds_iff_of_some htext, ← hreads]
    cases hread : read? value with
    | none => simp [hread]
    | some b => simp [hread]

section Members

variable {vars : Variables} {name : String}

theorem durationOr_eq (default : Duration) : durationOr vars name default =
    readOr readDuration? (.notADuration name) (vars name) default := by
  rw [durationOr, readOr, value?_eq]
  cases present? (vars name) with
  | none => rfl
  | some value =>
    dsimp only
    cases readDuration? value <;> rfl

theorem numberOr_eq (default : Nat) : numberOr vars name default =
    readOr (fun value => Decimal.readNatural? Decimal.limit64 value.toList) (.notANumber name)
      (vars name) default := by
  rw [numberOr, readOr, value?_eq]
  cases present? (vars name) with
  | none => rfl
  | some value =>
    dsimp only
    cases Decimal.readNatural? Decimal.limit64 value.toList <;> rfl

theorem switchOr_eq (default : Bool) : switchOr vars name default =
    readOr readSwitch? (.notASwitch name) (vars name) default := by
  rw [switchOr, readOr, value?_eq]
  cases present? (vars name) with
  | none => rfl
  | some value =>
    dsimp only
    cases readSwitch? value <;> rfl

theorem durationOr_eq_ok_iff {default d : Duration} :
    durationOr vars name default = .ok d ↔ Holds ReadsDuration (vars name) default d := by
  rw [durationOr_eq]
  exact readOr_eq_ok_iff fun _ _ => Iff.rfl

theorem numberOr_eq_ok_iff {default n : Nat} :
    numberOr vars name default = .ok n ↔ Holds ReadsNumber (vars name) default n := by
  rw [numberOr_eq]
  exact readOr_eq_ok_iff fun _ _ => Decimal.readNatural?_eq_some_iff

theorem switchOr_eq_ok_iff {default on : Bool} :
    switchOr vars name default = .ok on ↔ Holds ReadsSwitch (vars name) default on := by
  rw [switchOr_eq]
  exact readOr_eq_ok_iff fun _ _ => readSwitch?_eq_some_iff

end Members

/-! ### Settings that variables state -/

/-- The settings that variables and the kernel's name of the host state: every member holds what
its own variable says. -/
structure Stated (vars : Variables) (kernelHost : Option String) (s : Settings) : Prop where
  url : Holds Eq (vars "IF_URL") "https://app.insightfinder.com" s.url
  user : Holds Eq (vars "IF_USER_NAME") "" s.user
  license : Holds Eq (vars "IF_LICENSE_KEY") "" s.license
  project : Holds Eq (vars "IF_PROJECT_NAME") "" s.project
  system : Holds (fun value a => a = some value) (vars "IF_SYSTEM_NAME") none s.system
  /-- The name of the host stands for a missing name, and "unknown" for a host without one. -/
  instanceName : ∃ kernel host, Holds Eq kernelHost "unknown" kernel ∧
    Holds Eq (vars "HOSTNAME") kernel host ∧ Holds Eq (vars "IF_INSTANCE_NAME") host s.instanceName
  component : Holds (fun value a => a = some value) (vars "IF_COMPONENT_NAME") none s.component
  /-- The agent's own variable wins over the one that all programs share. -/
  proxy : ∃ shared, Holds (fun value a => a = some value) (vars "HTTPS_PROXY") none shared ∧
    Holds (fun value a => a = some value) (vars "IF_HTTPS_PROXY") shared s.proxy
  roundInterval : Holds ReadsDuration (vars "IF_RUN_INTERVAL") (.ofSeconds 300) s.roundInterval
  samplingWindow : Holds ReadsDuration (vars "IF_SAMPLING_WINDOW") (.ofSeconds 2) s.samplingWindow
  chunkThreshold : Holds ReadsNumber (vars "IF_CHUNK_SIZE") 2097152 s.chunkThreshold
  maxPacketSize : Holds ReadsNumber (vars "IF_MAX_PACKET_SIZE") 10000000 s.maxPacketSize
  retryAttempts : Holds ReadsNumber (vars "IF_RETRY_TIMES") 15 s.retryAttempts
  retryInterval : Holds ReadsDuration (vars "IF_RETRY_INTERVAL") (.ofSeconds 60) s.retryInterval
  requestTimeout : Holds ReadsDuration (vars "IF_REQUEST_TIMEOUT") (.ofSeconds 30) s.requestTimeout
  perCpu : Holds ReadsSwitch (vars "IF_PER_CPU_METRICS") false s.perCpu
  logLevel : Holds (fun value a => a = Text.lowered value) (vars "IF_LOG_LEVEL") "info" s.logLevel

section Stated

variable {vars : Variables} {kernelHost : Option String} {s : Settings}

theorem instanceName_iff {name : String} :
    (∃ kernel host, Holds Eq kernelHost "unknown" kernel ∧ Holds Eq (vars "HOSTNAME") kernel host ∧
      Holds Eq (vars "IF_INSTANCE_NAME") host name) ↔
      name = ((value? vars "IF_INSTANCE_NAME").or (hostName? vars kernelHost)).getD "unknown" := by
  have hhost : hostName? vars kernelHost = (present? (vars "HOSTNAME")).or (present? kernelHost) :=
    rfl
  simp only [holds_eq_iff, exists_and_left, exists_eq_left, hhost, value?_eq, Option.getD_or]

theorem proxy_iff {proxy : Option String} :
    (∃ shared, Holds (fun value a => a = some value) (vars "HTTPS_PROXY") none shared ∧
      Holds (fun value a => a = some value) (vars "IF_HTTPS_PROXY") shared proxy) ↔
      proxy = (value? vars "IF_HTTPS_PROXY").or (value? vars "HTTPS_PROXY") := by
  simp only [holds_some_iff, exists_eq_left, value?_eq, Option.or_none]

/-- Reading gives the stated settings, and fails only where there are none. -/
theorem read_eq_ok_iff : read vars kernelHost = .ok s ↔ Stated vars kernelHost s := by
  constructor
  · intro h
    -- Eight members are read and may fail; the others are texts.
    unfold read at h
    dsimp only at h
    obtain ⟨roundInterval, hround, h⟩ := bind_eq_ok_iff.1 h
    obtain ⟨samplingWindow, hwindow, h⟩ := bind_eq_ok_iff.1 h
    obtain ⟨chunkThreshold, hchunk, h⟩ := bind_eq_ok_iff.1 h
    obtain ⟨maxPacketSize, hpacket, h⟩ := bind_eq_ok_iff.1 h
    obtain ⟨retryAttempts, hattempts, h⟩ := bind_eq_ok_iff.1 h
    obtain ⟨retryInterval, hretry, h⟩ := bind_eq_ok_iff.1 h
    obtain ⟨requestTimeout, htimeout, h⟩ := bind_eq_ok_iff.1 h
    obtain ⟨perCpu, hcpu, h⟩ := bind_eq_ok_iff.1 h
    cases h
    exact {
      url := holds_eq_iff.2 rfl
      user := holds_eq_iff.2 rfl
      license := holds_eq_iff.2 rfl
      project := holds_eq_iff.2 rfl
      system := holds_some_iff.2 Option.or_none.symm
      instanceName := instanceName_iff.2 rfl
      component := holds_some_iff.2 Option.or_none.symm
      proxy := proxy_iff.2 rfl
      roundInterval := durationOr_eq_ok_iff.1 hround
      samplingWindow := durationOr_eq_ok_iff.1 hwindow
      chunkThreshold := numberOr_eq_ok_iff.1 hchunk
      maxPacketSize := numberOr_eq_ok_iff.1 hpacket
      retryAttempts := numberOr_eq_ok_iff.1 hattempts
      retryInterval := durationOr_eq_ok_iff.1 hretry
      requestTimeout := durationOr_eq_ok_iff.1 htimeout
      perCpu := switchOr_eq_ok_iff.1 hcpu
      logLevel := holds_lowered_iff.2 rfl }
  · intro h
    have hsystem := holds_some_iff.1 h.system
    have hcomponent := holds_some_iff.1 h.component
    rw [Option.or_none] at hsystem hcomponent
    rw [read, durationOr_eq_ok_iff.2 h.roundInterval, durationOr_eq_ok_iff.2 h.samplingWindow,
      numberOr_eq_ok_iff.2 h.chunkThreshold, numberOr_eq_ok_iff.2 h.maxPacketSize,
      numberOr_eq_ok_iff.2 h.retryAttempts, durationOr_eq_ok_iff.2 h.retryInterval,
      durationOr_eq_ok_iff.2 h.requestTimeout, switchOr_eq_ok_iff.2 h.perCpu]
    simp only [bind, Except.bind, pure, Except.pure, value?_eq, Except.ok.injEq]
    rw [← holds_eq_iff.1 h.url, ← holds_eq_iff.1 h.user, ← holds_eq_iff.1 h.license,
      ← holds_eq_iff.1 h.project, ← hsystem, ← hcomponent, ← holds_lowered_iff.1 h.logLevel]
    simp only [← value?_eq]
    rw [← instanceName_iff.1 h.instanceName, ← proxy_iff.1 h.proxy]

theorem Stated.unique {t : Settings} (hs : Stated vars kernelHost s)
    (ht : Stated vars kernelHost t) : s = t :=
  Except.ok.inj ((read_eq_ok_iff.2 hs).symm.trans (read_eq_ok_iff.2 ht))

theorem Stated.isBlankText_instanceName (h : Stated vars kernelHost s) :
    Text.isBlankText s.instanceName = false := by
  obtain ⟨kernel, host, hkernel, hhost, hname⟩ := h.instanceName
  have hkernel := hkernel.isBlankText_eq (by decide)
  exact hname.isBlankText_eq (hhost.isBlankText_eq hkernel)

theorem Stated.isBlankText_url (h : Stated vars kernelHost s) : Text.isBlankText s.url = false :=
  h.url.isBlankText_eq (by decide)

end Stated

/-! ### Variables that can be read -/

/-- The variables that name the account. They have no default. -/
def accountNames : List String := ["IF_USER_NAME", "IF_LICENSE_KEY", "IF_PROJECT_NAME"]

def durationNames : List String :=
  ["IF_RUN_INTERVAL", "IF_SAMPLING_WINDOW", "IF_RETRY_INTERVAL", "IF_REQUEST_TIMEOUT"]

def numberNames : List String := ["IF_CHUNK_SIZE", "IF_MAX_PACKET_SIZE", "IF_RETRY_TIMES"]

def Named (vars : Variables) : Prop := ∀ name ∈ accountNames, ∃ value, HasValue (vars name) value

/-- Every value of a variable that is read can be read. -/
structure Readable (vars : Variables) : Prop where
  durations : ∀ name ∈ durationNames, ∀ value, HasValue (vars name) value →
    ∃ d, ReadsDuration value d
  numbers : ∀ name ∈ numberNames, ∀ value, HasValue (vars name) value → ∃ n, ReadsNumber value n
  switch : ∀ value, HasValue (vars "IF_PER_CPU_METRICS") value → ∃ on, ReadsSwitch value on

section Readable

variable {vars : Variables} {kernelHost : Option String} {s : Settings}

theorem Readable.exists_read (h : Readable vars) (kernelHost : Option String) :
    ∃ s, read vars kernelHost = .ok s := by
  have hduration {name : String} (hname : name ∈ durationNames) (default : Duration) :
      ∃ d, durationOr vars name default = .ok d := by
    simp only [durationOr_eq_ok_iff]
    exact exists_holds_iff.2 (h.durations name hname)
  have hnumber {name : String} (hname : name ∈ numberNames) (default : Nat) :
      ∃ n, numberOr vars name default = .ok n := by
    simp only [numberOr_eq_ok_iff]
    exact exists_holds_iff.2 (h.numbers name hname)
  have hswitch : ∃ on, switchOr vars "IF_PER_CPU_METRICS" false = .ok on := by
    simp only [switchOr_eq_ok_iff]
    exact exists_holds_iff.2 h.switch
  obtain ⟨_, hround⟩ := hduration (by decide : "IF_RUN_INTERVAL" ∈ _) (.ofSeconds 300)
  obtain ⟨_, hwindow⟩ := hduration (by decide : "IF_SAMPLING_WINDOW" ∈ _) (.ofSeconds 2)
  obtain ⟨_, hchunk⟩ := hnumber (by decide : "IF_CHUNK_SIZE" ∈ _) 2097152
  obtain ⟨_, hpacket⟩ := hnumber (by decide : "IF_MAX_PACKET_SIZE" ∈ _) 10000000
  obtain ⟨_, hattempts⟩ := hnumber (by decide : "IF_RETRY_TIMES" ∈ _) 15
  obtain ⟨_, hretry⟩ := hduration (by decide : "IF_RETRY_INTERVAL" ∈ _) (.ofSeconds 60)
  obtain ⟨_, htimeout⟩ := hduration (by decide : "IF_REQUEST_TIMEOUT" ∈ _) (.ofSeconds 30)
  obtain ⟨_, hcpu⟩ := hswitch
  rw [read, hround, hwindow, hchunk, hpacket, hattempts, hretry, htimeout, hcpu]
  exact ⟨_, rfl⟩

theorem Stated.readable (h : Stated vars kernelHost s) : Readable vars where
  durations := by
    simp only [durationNames, List.forall_mem_cons, List.not_mem_nil, false_implies, implies_true,
      and_true]
    exact ⟨exists_holds_iff.1 ⟨_, h.roundInterval⟩, exists_holds_iff.1 ⟨_, h.samplingWindow⟩,
      exists_holds_iff.1 ⟨_, h.retryInterval⟩, exists_holds_iff.1 ⟨_, h.requestTimeout⟩⟩
  numbers := by
    simp only [numberNames, List.forall_mem_cons, List.not_mem_nil, false_implies, implies_true,
      and_true]
    exact ⟨exists_holds_iff.1 ⟨_, h.chunkThreshold⟩, exists_holds_iff.1 ⟨_, h.maxPacketSize⟩,
      exists_holds_iff.1 ⟨_, h.retryAttempts⟩⟩
  switch := exists_holds_iff.1 ⟨_, h.perCpu⟩

theorem Stated.named_iff (h : Stated vars kernelHost s) :
    Named vars ↔ ∀ text ∈ [s.user, s.license, s.project], Text.isBlankText text = false := by
  simp only [Named, accountNames, List.forall_mem_cons, List.not_mem_nil, false_implies,
    implies_true, and_true, h.user.isBlankText_iff, h.license.isBlankText_iff,
    h.project.isBlankText_iff]

end Readable

/-! ### Settings that are sound -/

/-- Settings that make sense together. -/
structure Sound (s : Settings) : Prop where
  interval : 0 < s.roundInterval.totalNanos
  window_ge : (Duration.ofSeconds 1).totalNanos ≤ s.samplingWindow.totalNanos
  window_le : s.samplingWindow.totalNanos ≤ (Duration.ofSeconds 60).totalNanos
  threshold : 0 < s.chunkThreshold
  packet : s.chunkThreshold ≤ s.maxPacketSize
  attempts : 1 ≤ s.retryAttempts
  level : s.logLevel ∈ ["trace", "debug", "info", "warn", "error"]

theorem sound_default : Sound {} where
  interval := by decide
  window_ge := by decide
  window_le := by decide
  threshold := by decide
  packet := by decide
  attempts := by decide
  level := by decide

theorem firstBlank?_eq_none_iff {texts : List (String × String)} :
    firstBlank? texts = none ↔ ∀ t ∈ texts, Text.isBlankText t.2 = false := by
  rw [firstBlank?, Option.map_eq_none_iff, List.find?_eq_none]
  simp only [Bool.not_eq_true]

/-- Settings pass the check exactly if they are sound and their texts are not blank. -/
theorem validate_eq_ok_iff {s : Settings} : s.validate = .ok () ↔
    s.Sound ∧ ∀ text ∈ [s.url, s.user, s.license, s.project, s.instanceName],
      Text.isBlankText text = false := by
  have htexts : firstBlank? [("IF_URL", s.url), ("IF_USER_NAME", s.user),
      ("IF_LICENSE_KEY", s.license), ("IF_PROJECT_NAME", s.project),
      ("IF_INSTANCE_NAME", s.instanceName)] = none ↔
      ∀ text ∈ [s.url, s.user, s.license, s.project, s.instanceName],
        Text.isBlankText text = false := by
    rw [firstBlank?_eq_none_iff]
    simp only [List.forall_mem_cons, List.not_mem_nil, false_implies, implies_true]
  have hlevel : ¬(!logLevelNames.contains s.logLevel) = true ↔
      s.logLevel ∈ ["trace", "debug", "info", "warn", "error"] := by
    rw [Bool.not_eq_true, Bool.not_eq_false', List.contains_iff_mem]
    rfl
  rw [← htexts, validate]
  cases firstBlank? [("IF_URL", s.url), ("IF_USER_NAME", s.user), ("IF_LICENSE_KEY", s.license),
      ("IF_PROJECT_NAME", s.project), ("IF_INSTANCE_NAME", s.instanceName)] with
  | some name => simp
  | none =>
    simp only [ite_error_eq_ok_iff, Duration.isZero_iff, hlevel, and_true]
    constructor
    · rintro ⟨hinterval, hwindow, hthreshold, hpacket, hattempts, hlevel⟩
      rw [not_or, Nat.not_lt, Nat.not_lt] at hwindow
      exact {
        interval := Nat.pos_of_ne_zero hinterval
        window_ge := hwindow.1
        window_le := hwindow.2
        threshold := Nat.pos_of_ne_zero hthreshold
        packet := Nat.not_lt.1 hpacket
        attempts := Nat.pos_of_ne_zero hattempts
        level := hlevel }
    · intro h
      exact ⟨h.interval.ne', not_or.2 ⟨Nat.not_lt.2 h.window_ge, Nat.not_lt.2 h.window_le⟩,
        h.threshold.ne', Nat.not_lt.2 h.packet, Nat.ne_of_gt h.attempts, h.level⟩

/-! ### Loading -/

section Loading

variable {vars : Variables} {kernelHost : Option String} {s : Settings}

theorem load_eq_ok_iff :
    load vars kernelHost = .ok s ↔ Stated vars kernelHost s ∧ s.validate = .ok () := by
  rw [load, bind_eq_ok_iff]
  simp only [read_eq_ok_iff]
  constructor
  · rintro ⟨t, hstated, h⟩
    obtain ⟨⟨⟩, hvalid, h⟩ := bind_eq_ok_iff.1 h
    cases h
    exact ⟨hstated, hvalid⟩
  · rintro ⟨hstated, hvalid⟩
    exact ⟨s, hstated, by rw [hvalid]; rfl⟩

/-- Of stated settings, only the account and the soundness are left to check. -/
theorem Stated.validate_eq_ok_iff (h : Stated vars kernelHost s) :
    s.validate = .ok () ↔ Named vars ∧ s.Sound := by
  rw [Settings.validate_eq_ok_iff, h.named_iff]
  simp only [List.forall_mem_cons, h.isBlankText_url, h.isBlankText_instanceName,
    List.not_mem_nil, false_implies, implies_true, and_true, true_and, and_comm]

/-- A link to the receiver is opened unless there is a proxy that is none. -/
theorem open?_flushSettings (h : Text.isBlankText s.url = false) :
    ∃ endpoint, completeUrlText? s.url receiverPath = some endpoint ∧
      s.flushSettings.open? = if s.proxy.all isProxy then .ok ⟨s.flushSettings, ⟨endpoint, s.retry⟩⟩
        else .error (.client "builder error") := by
  obtain ⟨endpoint, hendpoint⟩ :=
    Option.isSome_iff_exists.1 ((isSome_completeUrlText?_iff s.url receiverPath).2 h)
  refine ⟨endpoint, hendpoint, ?_⟩
  change (Link.open? s.url s.proxy s.retry).map (Flusher.mk s.flushSettings) = _
  rw [Link.open?, hendpoint]
  exact apply_ite (Except.map _) _ _ _

/-- Settings are accepted exactly if the account is named, every value can be read and the stated
settings are sound. Accepted settings are the stated ones; they pass the check again, name the
instance, and have an address, so that opening them can only fail for a proxy. -/
theorem load_accepts_sound (vars : Variables) (kernelHost : Option String) :
    ((∃ s, load vars kernelHost = .ok s) ↔
      Named vars ∧ Readable vars ∧ ∀ s, Stated vars kernelHost s → s.Sound) ∧
    ∀ s, load vars kernelHost = .ok s →
      Stated vars kernelHost s ∧ Text.isBlankText s.instanceName = false ∧
      s.validate = .ok () ∧ (∀ path, (completeUrlText? s.url path).isSome = true) ∧
      ∃ endpoint, completeUrlText? s.url receiverPath = some endpoint ∧
        s.flushSettings.open? =
          if s.proxy.all isProxy then .ok ⟨s.flushSettings, ⟨endpoint, s.retry⟩⟩
          else .error (.client "builder error") := by
  refine ⟨⟨?_, ?_⟩, ?_⟩
  · rintro ⟨s, hload⟩
    obtain ⟨hstated, hvalid⟩ := load_eq_ok_iff.1 hload
    obtain ⟨hnamed, hsound⟩ := hstated.validate_eq_ok_iff.1 hvalid
    exact ⟨hnamed, hstated.readable, fun t ht => ht.unique hstated ▸ hsound⟩
  · rintro ⟨hnamed, hreadable, hsound⟩
    obtain ⟨s, hread⟩ := hreadable.exists_read kernelHost
    have hstated := read_eq_ok_iff.1 hread
    have hvalid := hstated.validate_eq_ok_iff.2 ⟨hnamed, hsound s hstated⟩
    exact ⟨s, load_eq_ok_iff.2 ⟨hstated, hvalid⟩⟩
  · intro s hload
    obtain ⟨hstated, hvalid⟩ := load_eq_ok_iff.1 hload
    have hurl := hstated.isBlankText_url
    exact ⟨hstated, hstated.isBlankText_instanceName, hvalid,
      fun path => (isSome_completeUrlText?_iff s.url path).2 hurl, open?_flushSettings hurl⟩

end Loading

end Settings

end HostTelemetry
