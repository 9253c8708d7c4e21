import HostTelemetry.Proofs.BodySize
import HostTelemetry.Proofs.FlushBoundary

/-!
# The license shows in the bodies alone

Two flushes whose licenses are written in equally many bytes go side by side: the same reads of the
store, waits and log lines, as many requests to the same url with the same answers, and the same
result. The bodies differ in one member. What carries this is that a body decides by its length
alone how a flush goes on.
-/

namespace HostTelemetry

/-! ### Runs side by side -/

namespace Act

variable {β α γ : Type} {R : Effect → Effect → Prop}

/-- Whatever they meet, two computations end alike, and their effects correspond one by one. -/
def Mirrors (R : Effect → Effect → Prop) (x y : Act β α) : Prop :=
  ∀ w s, (y w s).result = (x w s).result ∧ (y w s).scene = (x w s).scene ∧
    List.Forall₂ R (x w s).effects (y w s).effects

theorem Mirrors.bind {x y : Act β α} {f g : α → Act β γ} (hx : Mirrors R x y)
    (hf : ∀ a, Mirrors R (f a) (g a)) : Mirrors R (x >>= f) (y >>= g) := by
  intro w s
  obtain ⟨hresult, hscene, heffects⟩ := hx w s
  rw [bind_apply, bind_apply, Outcome.andThen, Outcome.andThen, hresult, hscene]
  cases (x w s).result with
  | error e => exact ⟨rfl, rfl, heffects⟩
  | ok a =>
    obtain ⟨hresult', hscene', heffects'⟩ := hf a w (x w s).scene
    exact ⟨hresult', hscene', List.rel_append heffects heffects'⟩

end Act

/-! ### Bodies that differ in the license -/

/-- The text of a body with a license and some other members. -/
def licensedText (license : String) (rest : List (String × Wire.Json)) : String :=
  (Wire.Json.object (("licenseKey", .text license) :: rest)).toText

/-- The same effect twice, or two requests to one url with one answer, whose bodies have different
licenses and are otherwise the same. -/
inductive SameButLicense (license other : String) : Effect → Effect → Prop
  | same {e : Effect} : e.exchange? = none → SameButLicense license other e e
  | sent (url : String) (rest : List (String × Wire.Json)) (answer : Option Answer) :
      SameButLicense license other (.sent ⟨url, licensedText license rest⟩ answer)
        (.sent ⟨url, licensedText other rest⟩ answer)

section Mirrors

variable {β α : Type} {license other : String}

/-- A computation that sends nothing is its own mirror image. -/
theorem mirrors_self {x : Act β α} (h : ∀ w s, ∀ e ∈ (x w s).effects, e.exchange? = none) :
    x.Mirrors (SameButLicense license other) x := by
  intro w s
  refine ⟨rfl, rfl, List.forall₂_same.2 ?_⟩
  intro e he
  exact .same (h w s e he)

theorem mirrors_pure (a : α) :
    (pure a : Act β α).Mirrors (SameButLicense license other) (pure a) := by
  refine mirrors_self ?_
  intro w s e he
  cases he

theorem exchange?_of_mem_logged {events : List Event} {e : Effect}
    (h : e ∈ events.map Effect.logged) : e.exchange? = none := by
  obtain ⟨event, -, rfl⟩ := List.mem_map.1 h
  rfl

theorem mirrors_say (events : List Event) :
    (Act.say events : Act β Unit).Mirrors (SameButLicense license other) (Act.say events) :=
  mirrors_self fun _ _ _ he => exchange?_of_mem_logged he

theorem mirrors_useStore (f : Store β → StoreReply β α) :
    (Act.useStore f).Mirrors (SameButLicense license other) (Act.useStore f) :=
  mirrors_self fun _ _ _ he => exchange?_of_mem_logged he

theorem mirrors_pause (d : Duration) :
    (Act.pause d : Act β Unit).Mirrors (SameButLicense license other) (Act.pause d) := by
  refine mirrors_self ?_
  intro w s e he
  unfold Act.pause at he
  dsimp only at he
  split at he
  · rcases List.mem_pair.1 he with rfl | rfl <;> rfl
  · rw [List.mem_singleton.1 he]
    rfl

theorem mirrors_checkpoint :
    (Act.checkpoint : Act β Unit).Mirrors (SameButLicense license other) Act.checkpoint := by
  refine mirrors_self ?_
  intro w s e he
  unfold Act.checkpoint at he
  dsimp only at he
  split at he
  · rw [List.mem_singleton.1 he]
    rfl
  · cases he

/-- The answer to a request depends on how many there were before, and not on its body. -/
theorem mirrors_send (url : String) (rest : List (String × Wire.Json)) :
    (Act.send ⟨url, licensedText license rest⟩ : Act β Answer).Mirrors
      (SameButLicense license other) (Act.send ⟨url, licensedText other rest⟩) := by
  intro w s
  unfold Act.send
  dsimp only
  split
  · exact ⟨rfl, rfl, .cons (.sent url rest none) (.cons (.same rfl) .nil)⟩
  · exact ⟨rfl, rfl, .cons (.sent url rest _) .nil⟩

end Mirrors

/-- How long a body is depends on its license through the length of its written form. -/
theorem utf8ByteSize_licensedText {license other : String} (rest : List (String × Wire.Json))
    (h : Wire.Json.textBytes license = Wire.Json.textBytes other) :
    (licensedText license rest).utf8ByteSize = (licensedText other rest).utf8ByteSize := by
  have hmember : Wire.Json.memberBytes ("licenseKey", .text license) =
      Wire.Json.memberBytes ("licenseKey", .text other) := by
    rw [Wire.Json.memberBytes_eq, Wire.Json.memberBytes_eq]
    exact congrArg _ h
  show (Wire.Json.object _).bytes = (Wire.Json.object _).bytes
  rw [Wire.Json.bytes_object, Wire.Json.bytes_object, List.map_cons, List.map_cons, hmember]

/-! ### Delivering -/

namespace Link

variable {β : Type} {license other : String} (l : Link) (rest : List (String × Wire.Json))
  (h : Wire.Json.textBytes license = Wire.Json.textBytes other)
include h

theorem mirrors_attempt (number : Nat) :
    (l.attempt (licensedText license rest) number : Act β Verdict).Mirrors
      (SameButLicense license other) (l.attempt (licensedText other rest) number) := by
  rw [attempt, attempt, utf8ByteSize_licensedText rest h]
  refine (mirrors_say _).bind ?_
  intro _
  refine (mirrors_send l.endpoint rest).bind ?_
  intro answer
  have hend : (do Act.say (answerEvents answer); return verdict answer : Act β Verdict).Mirrors
      (SameButLicense license other) (do Act.say (answerEvents answer); return verdict answer) :=
    (mirrors_say _).bind fun _ => mirrors_pure _
  dsimp only
  split
  · exact mirrors_checkpoint.bind fun _ => hend
  · exact hend

omit h in
theorem mirrors_waitBetween :
    (l.waitBetween : Act β Unit).Mirrors (SameButLicense license other) l.waitBetween := by
  unfold waitBetween
  split
  · exact mirrors_pure ()
  · exact (mirrors_say _).bind fun _ => mirrors_pause _

theorem mirrors_postWithin (last : Option Status) (left : Nat) :
    (l.postWithin (licensedText license rest) last left :
        Act β (Except ShippingError Response)).Mirrors
      (SameButLicense license other) (l.postWithin (licensedText other rest) last left) := by
  induction left generalizing last with
  | zero =>
    rw [postWithin, postWithin]
    exact (mirrors_say _).bind fun _ => mirrors_pure _
  | succ left ih =>
    rw [postWithin, postWithin]
    refine (l.mirrors_attempt rest h _).bind ?_
    intro v
    cases v with
    | delivered r => exact mirrors_pure _
    | refused status => exact mirrors_pure _
    | failed status =>
      dsimp only
      split
      · exact (l.mirrors_waitBetween).bind fun _ => ih status
      · exact ih status

theorem mirrors_post :
    (l.post (licensedText license rest) : Act β (Except ShippingError Response)).Mirrors
      (SameButLicense license other) (l.post (licensedText other rest)) :=
  l.mirrors_postWithin rest h none l.retry.attempts

end Link

/-! ### Flushing -/

namespace Flusher

variable {β : Type}

/-- The same flusher with another license. -/
def relicensed (f : Flusher) (license : String) : Flusher :=
  { f with settings := { f.settings with license } }

/-- The members of the body of a chunk that are not the license. -/
def otherMembers (f : Flusher) (c : Chunk) : List (String × Wire.Json) :=
  (f.content c).json.members.drop 1

theorem body_eq (f : Flusher) (c : Chunk) :
    f.body c = licensedText f.settings.license (f.otherMembers c) := rfl

theorem body_relicensed (f : Flusher) (license : String) (c : Chunk) :
    (f.relicensed license).body c = licensedText license (f.otherMembers c) := rfl

section Relicensed

variable (f : Flusher) {license : String}
  (h : Wire.Json.textBytes f.settings.license = Wire.Json.textBytes license)
include h

theorem mirrors_sendChunk (c : Chunk) (report : FlushReport) :
    (f.sendChunk c report : Act β (Except ShippingError FlushReport)).Mirrors
      (SameButLicense f.settings.license license) ((f.relicensed license).sendChunk c report) := by
  have hsize : ((f.relicensed license).body c).utf8ByteSize = (f.body c).utf8ByteSize := by
    rw [body_relicensed, body_eq, utf8ByteSize_licensedText _ h]
  have hmost : (f.relicensed license).settings.maxPacketSize = f.settings.maxPacketSize := rfl
  have hlink : (f.relicensed license).link = f.link := rfl
  by_cases hlarge : (f.body c).utf8ByteSize > f.settings.maxPacketSize
  · simp only [sendChunk, bodyEvents, body?, hsize, hmost, if_pos hlarge]
    exact (mirrors_say _).bind fun _ => mirrors_pure _
  · simp only [sendChunk, bodyEvents, body?, hsize, hmost, hlink, if_neg hlarge]
    refine (mirrors_say _).bind ?_
    intro _
    refine (mirrors_say _).bind ?_
    intro _
    refine (f.link.mirrors_post (f.otherMembers c) h).bind ?_
    intro answer
    cases answer with
    | error e => exact (mirrors_say _).bind fun _ => mirrors_pure _
    | ok r => exact mirrors_pure _

theorem mirrors_addRows (name : String) (rows : List Row) (chunker : Chunker)
    (report : FlushReport) :
    (f.addRows name rows chunker report :
        Act β (Except ShippingError (Chunker × FlushReport))).Mirrors
      (SameButLicense f.settings.license license)
      ((f.relicensed license).addRows name rows chunker report) := by
  induction rows generalizing chunker report with
  | nil => exact mirrors_pure _
  | cons row rows ih =>
    rw [addRows, addRows]
    cases chunker.push name ⟨row.metric, row.value⟩ with
    | mk full chunker =>
      cases full with
      | none => exact ih chunker report
      | some chunk =>
        refine (f.mirrors_sendChunk h chunk report).bind ?_
        intro sent
        cases sent with
        | error e => exact mirrors_pure _
        | ok report => exact ih chunker report

theorem mirrors_sendRest (chunker : Chunker) (report : FlushReport) :
    (f.sendRest chunker report : Act β (Except ShippingError FlushReport)).Mirrors
      (SameButLicense f.settings.license license)
      ((f.relicensed license).sendRest chunker report) := by
  rw [sendRest, sendRest]
  cases chunker.finish with
  | none => exact mirrors_pure _
  | some chunk => exact f.mirrors_sendChunk h chunk report

variable [Backend β]

theorem mirrors_addInstances (names : List String) (chunker : Chunker) (report : FlushReport) :
    (f.addInstances names chunker report :
        Act β (Except ShippingError (Chunker × FlushReport))).Mirrors
      (SameButLicense f.settings.license license)
      ((f.relicensed license).addInstances names chunker report) := by
  induction names generalizing chunker report with
  | nil => exact mirrors_pure _
  | cons name names ih =>
    rw [addInstances, addInstances]
    refine (mirrors_useStore _).bind ?_
    intro rows
    cases rows with
    | error e => exact mirrors_pure _
    | ok rows =>
      refine (f.mirrors_addRows h (f.publishedName name) rows chunker report).bind ?_
      intro added
      cases added with
      | error e => exact mirrors_pure _
      | ok added => exact ih added.1 added.2

theorem mirrors_flush (timestamp : Int) :
    (f.flush timestamp : Act β (Except ShippingError FlushReport)).Mirrors
      (SameButLicense f.settings.license license) ((f.relicensed license).flush timestamp) := by
  rw [flush, flush]
  refine (mirrors_useStore _).bind ?_
  intro names
  cases names with
  | error e => exact mirrors_pure _
  | ok names =>
    refine (f.mirrors_addInstances h names (f.chunker timestamp) {}).bind ?_
    intro added
    cases added with
    | error e => exact mirrors_pure _
    | ok added =>
      refine (f.mirrors_sendRest h added.1 added.2).bind ?_
      intro sent
      cases sent with
      | error e => exact mirrors_pure _
      | ok report => exact (mirrors_say _).bind fun _ => mirrors_pure _

end Relicensed

variable [Backend β] [LawfulBackend β]

/-- Of two licenses whose written forms are of one length, neither the result of a flush nor its
requests without their bodies, its waits, its log lines or the store tell which one it has. In the
bodies the license is the only member that differs. -/
theorem flush_hides_license (f : Flusher) (license : String)
    (h : Wire.Json.textBytes f.settings.license = Wire.Json.textBytes license) (timestamp : Int)
    (w : Surroundings) (s : Scene β) :
    ((f.relicensed license).flush timestamp w s).result = (f.flush timestamp w s).result ∧
      ((f.relicensed license).flush timestamp w s).scene = (f.flush timestamp w s).scene ∧
      s.store.Alike (f.flush timestamp w s).scene.store ∧
      List.Forall₂ (SameButLicense f.settings.license license) (f.flush timestamp w s).effects
        ((f.relicensed license).flush timestamp w s).effects := by
  obtain ⟨hresult, hscene, heffects⟩ := f.mirrors_flush h timestamp w s
  exact ⟨hresult, hscene, (f.flush_meets timestamp w s).1, heffects⟩

/-- Six characters, one of them escaped, in place of seven plain ones. -/
def quotedLicense : String := "lic\"se"

/-- The receiver takes the first of two bodies and then no other. -/
theorem flush_hides_license_quoted :
    Wire.Json.textBytes small.settings.license = Wire.Json.textBytes quotedLicense ∧
      (small.flush 5 weary smallScene).result =
        .ok (.error (.destination none "Failed to send request after 2 attempts")) ∧
      ((small.relicensed quotedLicense).flush 5 weary smallScene).result =
        (small.flush 5 weary smallScene).result ∧
      ((small.relicensed quotedLicense).flush 5 weary smallScene).scene =
        (small.flush 5 weary smallScene).scene ∧
      List.Forall₂ (SameButLicense "license" quotedLicense)
        (small.flush 5 weary smallScene).effects
        ((small.relicensed quotedLicense).flush 5 weary smallScene).effects := by
  have h : Wire.Json.textBytes small.settings.license = Wire.Json.textBytes quotedLicense := by
    decide +kernel
  obtain ⟨hresult, hscene, -, heffects⟩ :=
    small.flush_hides_license quotedLicense h 5 weary smallScene
  exact ⟨h, by decide +kernel, hresult, hscene, heffects⟩

end Flusher

end HostTelemetry
