import HostTelemetry.Proofs.FlushCoverage

/-!
# Where a flush stops

The bodies of a flush are fixed before it starts: by the rows, the settings and the timestamp. It
goes from body to body, each up to its first success, and stops for good at the first body that
cannot be delivered.
-/

namespace HostTelemetry

/-- What became of the body behind the last one that was taken, and with which result. -/
inductive Ending (link : Link) (most : Nat) (w : Surroundings) :
    Option String → List Exchange → Except Exit (Except ShippingError FlushReport) → Prop
  | finished (report : FlushReport) : Ending link most w none [] (.ok (.ok report))
  | failed {body : String} {xs : List Exchange} {e : ShippingError} :
      link.Fails body xs e → Ending link most w (some body) xs (.ok (.error e))
  | tooLarge {body : String} : most < body.utf8ByteSize →
      Ending link most w (some body) []
        (.ok (.error (.payloadTooLarge body.utf8ByteSize most)))
  | stopped {body : String} {xs : List Exchange} : (∃ p, w.stops p = true) →
      link.Breaks body xs → Ending link most w (some body) xs (.error .stopped)

/-- Exchanges that go through bodies in order: the attempts at each body that was taken, then those
at the next one. -/
structure StopsAt (link : Link) (most : Nat) (w : Surroundings) (bodies : List String)
    (taken : List (List Exchange)) (rest xs : List Exchange)
    (r : Except Exit (Except ShippingError FlushReport)) : Prop where
  sent : xs = taken.flatten ++ rest
  inOrder : List.Forall₂ link.Takes (bodies.take taken.length) taken
  ending : Ending link most w bodies[taken.length]? rest r
  bounded : ∀ x ∈ xs, x.1.body.utf8ByteSize ≤ most

theorem StopsAt.cons {link : Link} {most : Nat} {w : Surroundings} {bodies : List String}
    {taken : List (List Exchange)} {rest xs ys : List Exchange}
    {r : Except Exit (Except ShippingError FlushReport)} {body : String}
    (h : StopsAt link most w bodies taken rest ys r) (hx : link.Takes body xs)
    (hsize : body.utf8ByteSize ≤ most) :
    StopsAt link most w (body :: bodies) (xs :: taken) rest (xs ++ ys) r where
  sent := by
    rw [h.sent, List.flatten_cons, List.append_assoc]
  inOrder := by
    rw [List.length_cons, List.take_succ_cons]
    exact .cons hx h.inOrder
  ending := h.ending
  bounded := by
    obtain ⟨a, ht, -, -⟩ := hx
    intro x hmem
    rcases List.mem_append.1 hmem with hmem | hmem
    · rw [ht.request x hmem]
      exact hsize
    · exact h.bounded x hmem

/-- Nothing was taken yet when the first body came to its end. -/
theorem StopsAt.first {link : Link} {most : Nat} {w : Surroundings} {body : String}
    {xs : List Exchange} {r : Except Exit (Except ShippingError FlushReport)}
    (h : Ending link most w (some body) xs r)
    (hreq : ∀ x ∈ xs, x.1 = link.request body) (hsize : xs = [] ∨ body.utf8ByteSize ≤ most)
    (bodies : List String) : StopsAt link most w (body :: bodies) [] xs xs r where
  sent := rfl
  inOrder := .nil
  ending := h
  bounded := by
    intro x hmem
    rcases hsize with rfl | hsize
    · cases hmem
    · rw [hreq x hmem]
      exact hsize

namespace Flusher

theorem Course.stopsAt {f : Flusher} {timestamp : Int} {w : Surroundings} {unreadable : Prop}
    {gs : List (List Row)} {report : FlushReport} {xs : List Exchange}
    {r : Except Exit (Except ShippingError FlushReport)}
    (h : f.Course timestamp w unreadable gs report xs r) (hread : ¬unreadable) :
    ∃ taken rest, StopsAt f.link f.settings.maxPacketSize w (gs.map (f.bodyOf timestamp))
      taken rest xs r := by
  induction h with
  | finished report =>
    refine ⟨[], [], rfl, .nil, .finished report, ?_⟩
    intro x hx
    cases hx
  | @delivered g rest report xs ys resp r hsize hl _ ih =>
    obtain ⟨taken, rest', hs⟩ := ih
    exact ⟨xs :: taken, rest', hs.cons hl.takes hsize⟩
  | @failed g rest report xs e hsize hl =>
    have hf := hl.fails_of_attempts
    exact ⟨[], xs, .first (.failed hf) hf.request (.inr hsize) _⟩
  | @stopped g rest report xs e hsize hl =>
    obtain ⟨rfl, hw, hb⟩ := hl.breaks
    obtain ⟨answer, ht, -⟩ := id hb
    exact ⟨[], xs, .first (.stopped hw hb) ht.request (.inr hsize) _⟩
  | @tooLarge g rest report hsize =>
    refine ⟨[], [], .first (.tooLarge hsize) ?_ (.inl rfl) _⟩
    intro x hx
    cases hx
  | unread e hu => exact absurd hu hread

variable {β : Type} [Backend β] [LawfulBackend β]

/-- The rows, the settings and the timestamp fix the bodies. Whatever the link, the receiver and
whoever may stop the flush do, it goes through these bodies in order and leaves the store as it
is. -/
theorem flush_stopsAt (settings : FlushSettings) (timestamp : Int) (rows : List Row) :
    ∃ bodies : List Wire.Body,
      (∀ link, (Flusher.mk settings link).Covers timestamp rows bodies) ∧
      ∀ (link : Link) (w : Surroundings) (s : Scene β),
        s.store.contents = rows → ReadsSucceed s.store.backend →
          let outcome := (Flusher.mk { settings with retry := link.retry } link).flush timestamp w s
          (∃ taken rest, StopsAt link settings.maxPacketSize w (bodies.map Wire.Body.text) taken rest
            (exchanges outcome.effects) outcome.result) ∧
          s.store.Alike outcome.scene.store := by
  refine ⟨(Flusher.mk settings ⟨settings.url, settings.retry⟩).bodies timestamp rows, ?_, ?_⟩
  · intro link
    exact (Flusher.mk settings link).bodies_covers timestamp rows
  · intro link w s hrows hreads
    -- The bodies depend on neither the link nor the retries.
    have hbodies : (Flusher.mk settings ⟨settings.url, settings.retry⟩).bodies timestamp rows =
        (Flusher.mk { settings with retry := link.retry } link).bodies timestamp rows := rfl
    obtain ⟨halike, -, hc⟩ :=
      (Flusher.mk { settings with retry := link.retry } link).flush_meets timestamp w s
    rw [hrows, exchanges_deeds] at hc
    have hstops := hc.stopsAt (not_not_intro hreads)
    rw [hbodies, text_bodies]
    exact ⟨hstops, halike⟩

/-- A receiver that takes one body and then no other. -/
def weary : Surroundings :=
  { smallWorld with answer := fun n => if n = 0 then .response ⟨⟨200⟩, ""⟩ else .failed "closed" }

theorem flush_stopsAt_small :
    (small.flush 5 weary smallScene).result =
        .ok (.error (.destination none "Failed to send request after 2 attempts")) ∧
      ∃ bodies : List Wire.Body, small.Covers 5 smallRows bodies ∧ ∃ taken rest,
        StopsAt small.link 1000 weary (bodies.map Wire.Body.text) taken rest
          (exchanges (small.flush 5 weary smallScene).effects)
          (small.flush 5 weary smallScene).result := by
  obtain ⟨bodies, hcovers, h⟩ := flush_stopsAt (β := MemoryBackend) smallSettings 5 smallRows
  obtain ⟨⟨taken, rest, hs⟩, -⟩ := h small.link weary smallScene rfl (readsSucceed_memory _)
  exact ⟨by decide +kernel, bodies, hcovers small.link, taken, rest, hs⟩

end Flusher

end HostTelemetry
