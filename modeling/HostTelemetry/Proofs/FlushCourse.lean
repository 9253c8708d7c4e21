import HostTelemetry.Flush
import HostTelemetry.Proofs.Chunking
import HostTelemetry.Proofs.Delivery
import HostTelemetry.Proofs.StoreContents
import Mathlib.Algebra.GroupWithZero.Nat

/-!
# The course of a flush

The rows of a store fall into groups before anything is sent, and each group has its body. A flush
takes up one group after the other. Answers, and reads that fail, decide how far it comes and never
what a group holds.
-/

namespace HostTelemetry

def Row.point (row : Row) : Wire.Point := ⟨row.metric, row.value⟩

namespace Flusher

open Wire (Entry)

variable {β : Type}

/-! ### Groups and their bodies -/

def entry (f : Flusher) (row : Row) : Entry :=
  (f.publishedName row.instanceName, row.point)

def chunkOf (f : Flusher) (timestamp : Int) (rows : List Row) : Chunk :=
  (f.chunker timestamp).chunk (rows.map f.entry)

def bodyOf (f : Flusher) (timestamp : Int) (rows : List Row) : String :=
  f.body (f.chunkOf timestamp rows)

def holding (f : Flusher) (timestamp : Int) (rows : List Row) : Chunker :=
  (f.chunker timestamp).holding (rows.map f.entry)

/-- Whether some rows close their group. -/
def full (f : Flusher) (rows : List Row) : Bool :=
  Chunker.bytesOf (rows.map f.entry) > f.settings.chunkThreshold

/-- The groups that some more rows fill, and the rows that are then open. -/
def cut (f : Flusher) (opened rows : List Row) : List (List Row) × List Row :=
  HostTelemetry.cut f.full opened rows

/-- The groups of the rows that a store holds. -/
def groups (f : Flusher) (rows : List Row) : List (List Row) :=
  HostTelemetry.groups f.full (byInstance rows)

theorem perm_groups (f : Flusher) (rows : List Row) : (f.groups rows).flatten.Perm rows := by
  rw [groups, flatten_groups]
  exact perm_byInstance rows

theorem pointCount_chunkOf (f : Flusher) (timestamp : Int) (rows : List Row) :
    (f.chunkOf timestamp rows).pointCount = rows.length := by
  rw [chunkOf, Chunker.pointCount_chunk, List.length_map]

/-- A row closes the group or stays in it. -/
theorem push_row (f : Flusher) (timestamp : Int) (opened : List Row) (row : Row) :
    (f.holding timestamp opened).push (f.publishedName row.instanceName) ⟨row.metric, row.value⟩ =
      if f.full (opened ++ [row]) then
        (some (f.chunkOf timestamp (opened ++ [row])), f.holding timestamp [])
      else (none, f.holding timestamp (opened ++ [row])) := by
  have h := (f.chunker timestamp).push_holding (opened.map f.entry) (f.entry row)
  have hfull : f.full (opened ++ [row]) = true ↔
      Chunker.bytesOf (opened.map f.entry ++ [f.entry row]) > f.settings.chunkThreshold := by
    rw [full, List.map_append, List.map_singleton, decide_eq_true_eq]
  simp only [chunkOf, holding, List.map_append, List.map_singleton, hfull]
  exact h

theorem finish_rows (f : Flusher) (timestamp : Int) (opened : List Row) :
    (f.holding timestamp opened).finish =
      if opened.isEmpty then none else some (f.chunkOf timestamp opened) := by
  rw [holding, Chunker.finish_holding, List.isEmpty_map]
  rfl

theorem body?_chunkOf (f : Flusher) (timestamp : Int) (rows : List Row) :
    f.body? (f.chunkOf timestamp rows) =
      if f.settings.maxPacketSize < (f.bodyOf timestamp rows).utf8ByteSize then
        .error (.payloadTooLarge (f.bodyOf timestamp rows).utf8ByteSize f.settings.maxPacketSize)
      else .ok (f.bodyOf timestamp rows) := by
  unfold body? bodyOf
  rfl

/-! ### Courses -/

/-- How a flush may go through groups, from what it has reported so far. Nothing is sent for a body
that is too large, and a read may fail before any group. -/
inductive Course (f : Flusher) (timestamp : Int) (w : Surroundings) (unreadable : Prop) :
    List (List Row) → FlushReport → List Exchange →
      Except Exit (Except ShippingError FlushReport) → Prop
  | finished (report : FlushReport) : Course f timestamp w unreadable [] report [] (.ok (.ok report))
  | delivered {g : List Row} {rest : List (List Row)} {report : FlushReport}
      {xs ys : List Exchange} {resp : Response}
      {r : Except Exit (Except ShippingError FlushReport)} :
      (f.bodyOf timestamp g).utf8ByteSize ≤ f.settings.maxPacketSize →
      f.link.Course w (f.bodyOf timestamp g) f.link.retry.attempts none xs (.ok (.ok resp)) →
      Course f timestamp w unreadable rest
        ⟨report.chunks + 1, report.points + g.length,
          report.bytes + (f.bodyOf timestamp g).utf8ByteSize⟩ ys r →
      Course f timestamp w unreadable (g :: rest) report (xs ++ ys) r
  | failed {g : List Row} {rest : List (List Row)} {report : FlushReport} {xs : List Exchange}
      {e : ShippingError} :
      (f.bodyOf timestamp g).utf8ByteSize ≤ f.settings.maxPacketSize →
      f.link.Course w (f.bodyOf timestamp g) f.link.retry.attempts none xs (.ok (.error e)) →
      Course f timestamp w unreadable (g :: rest) report xs (.ok (.error e))
  | stopped {g : List Row} {rest : List (List Row)} {report : FlushReport} {xs : List Exchange}
      {e : Exit} :
      (f.bodyOf timestamp g).utf8ByteSize ≤ f.settings.maxPacketSize →
      f.link.Course w (f.bodyOf timestamp g) f.link.retry.attempts none xs (.error e) →
      Course f timestamp w unreadable (g :: rest) report xs (.error e)
  | tooLarge {g : List Row} {rest : List (List Row)} {report : FlushReport} :
      f.settings.maxPacketSize < (f.bodyOf timestamp g).utf8ByteSize →
      Course f timestamp w unreadable (g :: rest) report []
        (.ok (.error (.payloadTooLarge (f.bodyOf timestamp g).utf8ByteSize
          f.settings.maxPacketSize)))
  | unread {gs : List (List Row)} {report : FlushReport} (e : StoreError) : unreadable →
      Course f timestamp w unreadable gs report [] (.ok (.error (.store e)))

section Parts

variable {f : Flusher} {timestamp : Int} {w : Surroundings} {unreadable : Prop}
  {gs hs : List (List Row)} {report report' : FlushReport} {xs ys : List Exchange}
  {r : Except Exit (Except ShippingError FlushReport)}

theorem Course.single {g : List Row} {resp : Response}
    (hsize : (f.bodyOf timestamp g).utf8ByteSize ≤ f.settings.maxPacketSize)
    (hl : f.link.Course w (f.bodyOf timestamp g) f.link.retry.attempts none xs (.ok (.ok resp))) :
    f.Course timestamp w unreadable [g] report xs
      (.ok (.ok ⟨report.chunks + 1, report.points + g.length,
        report.bytes + (f.bodyOf timestamp g).utf8ByteSize⟩)) := by
  rw [← List.append_nil xs]
  exact .delivered hsize hl (.finished _)

theorem Course.append (h : f.Course timestamp w unreadable gs report xs (.ok (.ok report')))
    (hrest : f.Course timestamp w unreadable hs report' ys r) :
    f.Course timestamp w unreadable (gs ++ hs) report (xs ++ ys) r := by
  generalize hr : (Except.ok (Except.ok report') :
    Except Exit (Except ShippingError FlushReport)) = r' at h
  induction h with
  | finished report =>
    cases hr
    exact hrest
  | delivered hsize hl _ ih =>
    have hc := Course.delivered hsize hl (ih hr)
    rwa [← List.append_assoc] at hc
  | failed _ _ => cases hr
  | stopped _ _ => cases hr
  | tooLarge _ => cases hr
  | unread _ _ => cases hr

theorem failed_ne (e : ShippingError) (report : FlushReport) :
    (.ok (.error e) : Except Exit (Except ShippingError FlushReport)) ≠ .ok (.ok report) := by
  intro h
  cases h

theorem exited_ne (e : Exit) (report : FlushReport) :
    (.error e : Except Exit (Except ShippingError FlushReport)) ≠ .ok (.ok report) := by
  intro h
  cases h

/-- A flush that ends early takes up none of the groups that would follow. -/
theorem Course.extend (h : f.Course timestamp w unreadable gs report xs r)
    (hr : ∀ report', r ≠ .ok (.ok report')) (hs : List (List Row)) :
    f.Course timestamp w unreadable (gs ++ hs) report xs r := by
  induction h with
  | finished report => exact absurd rfl (hr report)
  | delivered hsize hl _ ih => exact .delivered hsize hl (ih hr)
  | failed hsize hl => exact .failed hsize hl
  | stopped hsize hl => exact .stopped hsize hl
  | tooLarge hsize => exact .tooLarge hsize
  | unread e hu => exact .unread e hu

/-! ### What a course tells -/

/-- Requests carry bodies of groups and nothing else, and none that is too large. -/
theorem Course.sent (h : f.Course timestamp w unreadable gs report xs r) :
    ∀ x ∈ xs, ∃ g ∈ gs, x.1 = f.link.request (f.bodyOf timestamp g) ∧
      (f.bodyOf timestamp g).utf8ByteSize ≤ f.settings.maxPacketSize := by
  induction h with
  | finished report =>
    intro x hx
    cases hx
  | @delivered g rest report xs ys resp r hsize hl _ ih =>
    obtain ⟨a, ht, -, -⟩ := hl.takes
    intro x hx
    rcases List.mem_append.1 hx with hx | hx
    · exact ⟨g, List.mem_cons_self .., ht.request x hx, hsize⟩
    · obtain ⟨g', hg', hreq⟩ := ih x hx
      exact ⟨g', List.mem_cons_of_mem g hg', hreq⟩
  | @failed g rest report xs e hsize hl =>
    intro x hx
    exact ⟨g, List.mem_cons_self .., hl.fails_of_attempts.request x hx, hsize⟩
  | @stopped g rest report xs e hsize hl =>
    obtain ⟨-, -, answer, ht, -⟩ := hl.breaks
    intro x hx
    exact ⟨g, List.mem_cons_self .., ht.request x hx, hsize⟩
  | tooLarge _ =>
    intro x hx
    cases hx
  | unread _ _ =>
    intro x hx
    cases hx

/-- The bodies that are taken are those of the first groups, each taken once. -/
theorem Course.taken (h : f.Course timestamp w unreadable gs report xs r) :
    ∃ first rest, gs = first ++ rest ∧ takenBodies xs = first.map (f.bodyOf timestamp) := by
  induction h with
  | finished report => exact ⟨[], [], rfl, rfl⟩
  | @delivered g rest report xs ys resp r hsize hl _ ih =>
    obtain ⟨first, rest', rfl, ht⟩ := ih
    refine ⟨g :: first, rest', rfl, ?_⟩
    rw [takenBodies_append, hl.takenBodies_of_delivered, ht]
    rfl
  | @failed g rest report xs e hsize hl =>
    exact ⟨[], g :: rest, rfl, hl.fails_of_attempts.takenBodies⟩
  | @stopped g rest report xs e hsize hl =>
    obtain ⟨-, -, answer, ht, ha⟩ := hl.breaks
    refine ⟨[], g :: rest, rfl, ?_⟩
    rw [ht.takenBodies, ha]
    rfl
  | @tooLarge g rest report hsize => exact ⟨[], g :: rest, rfl, rfl⟩
  | @unread gs report e hu => exact ⟨[], gs, rfl, rfl⟩

/-- A flush that succeeds has delivered every group, and reports it. -/
theorem Course.all (h : f.Course timestamp w unreadable gs report xs (.ok (.ok report'))) :
    takenBodies xs = gs.map (f.bodyOf timestamp) ∧
      report'.chunks = report.chunks + gs.length ∧
      report'.points = report.points + gs.flatten.length ∧
      report'.bytes = report.bytes + (gs.map fun g => (f.bodyOf timestamp g).utf8ByteSize).sum := by
  generalize hr : (Except.ok (Except.ok report') :
    Except Exit (Except ShippingError FlushReport)) = r' at h
  induction h with
  | finished report =>
    cases hr
    exact ⟨rfl, rfl, rfl, rfl⟩
  | @delivered g rest report xs ys resp r hsize hl _ ih =>
    obtain ⟨ht, hc, hp, hb⟩ := ih hr
    dsimp only at hc hp hb
    refine ⟨?_, ?_, ?_, ?_⟩
    · rw [takenBodies_append, hl.takenBodies_of_delivered, ht]
      rfl
    · rw [hc, List.length_cons]
      omega
    · rw [hp, List.flatten_cons, List.length_append]
      omega
    · rw [hb, List.map_cons, List.sum_cons]
      omega
  | failed _ _ => cases hr
  | stopped _ _ => cases hr
  | tooLarge _ => cases hr
  | unread _ _ => cases hr

end Parts

/-! ### The parts of a flush -/

/-- The result of a part that goes on with a chunker, unless it ends the flush. -/
def withChunker (c : Chunker) : Except Exit (Except ShippingError FlushReport) →
    Except Exit (Except ShippingError (Chunker × FlushReport))
  | .error e => .error e
  | .ok (.error e) => .ok (.error e)
  | .ok (.ok report) => .ok (.ok (c, report))

section Sending

variable (f : Flusher) (timestamp : Int) (w : Surroundings) (unreadable : Prop)

theorem sendChunk_meets (g : List Row) (report : FlushReport) (s : Scene β) :
    (f.sendChunk (f.chunkOf timestamp g) report).Meets w s fun r es t =>
      t.store = s.store ∧ recordings es = [] ∧
        f.Course timestamp w unreadable [g] report (exchanges es) r := by
  unfold sendChunk
  rw [Act.meets_say_bind]
  by_cases hsize : f.settings.maxPacketSize < (f.bodyOf timestamp g).utf8ByteSize
  · rw [body?_chunkOf, if_pos hsize]
    dsimp only
    rw [Act.meets_pure]
    exact ⟨rfl, rfl, .tooLarge hsize⟩
  · have hle := Nat.le_of_not_lt hsize
    rw [body?_chunkOf, if_neg hsize]
    dsimp only
    rw [Act.meets_log_bind]
    refine (f.link.post_meets (f.bodyOf timestamp g) w s).bind ?_ ?_
    · intro answer es t hout
      obtain ⟨ht, hr, hc⟩ := hout
      rcases answer with e | resp
      · dsimp only
        rw [Act.meets_log_bind, Act.meets_pure, List.append_nil]
        exact ⟨ht, hr, .failed hle hc⟩
      · dsimp only
        rw [Act.meets_pure, pointCount_chunkOf, List.append_nil]
        exact ⟨ht, hr, .single hle hc⟩
    · intro e es t hout
      obtain ⟨ht, hr, hc⟩ := hout
      exact ⟨ht, hr, .stopped hle hc⟩

/-- Rows of one name, after some that are open. -/
theorem addRows_meets (name : String) (rows opened : List Row) (report : FlushReport)
    (hname : ∀ row ∈ rows, f.publishedName row.instanceName = name) (s : Scene β) :
    (f.addRows name rows (f.holding timestamp opened) report).Meets w s fun r es t =>
      t.store = s.store ∧ recordings es = [] ∧
        ∃ r', f.Course timestamp w unreadable (f.cut opened rows).1 report (exchanges es) r' ∧
          r = withChunker (f.holding timestamp (f.cut opened rows).2) r' := by
  induction rows generalizing opened report s with
  | nil =>
    rw [addRows, Act.meets_pure]
    exact ⟨rfl, rfl, .ok (.ok report), .finished report, rfl⟩
  | cons row rows ih =>
    have hrow := hname row (List.mem_cons_self ..)
    have hrows := fun r hr => hname r (List.mem_cons_of_mem row hr)
    rw [addRows, ← hrow, push_row, cut, HostTelemetry.cut]
    by_cases hfull : f.full (opened ++ [row]) = true
    · -- The row closes the group, which is sent at once.
      rw [if_pos hfull, if_pos hfull]
      dsimp only
      refine (f.sendChunk_meets timestamp w unreadable (opened ++ [row]) report s).bind ?_ ?_
      · intro answer es t hout
        obtain ⟨ht, hr, hc⟩ := hout
        rcases answer with e | report'
        · dsimp only
          rw [Act.meets_pure, List.append_nil]
          exact ⟨ht, hr, .ok (.error e), hc.extend (failed_ne e) _, rfl⟩
        · rw [hrow]
          refine (ih [] report' hrows t).mono ?_
          intro r es' t' hout
          obtain ⟨ht', hr', r', hc', rfl⟩ := hout
          rw [exchanges_append, recordings_append, hr, hr']
          exact ⟨ht'.trans ht, rfl, r', hc.append hc', rfl⟩
      · intro e es t hout
        obtain ⟨ht, hr, hc⟩ := hout
        exact ⟨ht, hr, .error e, hc.extend (exited_ne e) _, rfl⟩
    · rw [if_neg hfull, if_neg hfull, hrow]
      exact ih (opened ++ [row]) report hrows s

theorem sendRest_meets (opened : List Row) (report : FlushReport) (s : Scene β) :
    (f.sendRest (f.holding timestamp opened) report).Meets w s fun r es t =>
      t.store = s.store ∧ recordings es = [] ∧
        f.Course timestamp w unreadable (lastGroup opened) report (exchanges es) r := by
  rw [sendRest, finish_rows, lastGroup]
  by_cases hempty : opened.isEmpty = true
  · rw [if_pos hempty, if_pos hempty]
    dsimp only
    rw [Act.meets_pure]
    exact ⟨rfl, rfl, .finished report⟩
  · rw [if_neg hempty, if_neg hempty]
    exact f.sendChunk_meets timestamp w unreadable opened report s

variable [Backend β] [LawfulBackend β]

theorem addInstances_meets (b : β) (names : List String) (opened : List Row)
    (report : FlushReport) (s : Scene β) (hb : ReadInto b s.store.backend) :
    (f.addInstances names (f.holding timestamp opened) report).Meets w s fun r es t =>
      s.store.Alike t.store ∧ recordings es = [] ∧
        ∃ r', f.Course timestamp w (¬ReadsSucceed b)
            (f.cut opened (rowsUnder names s.store.contents)).1 report (exchanges es) r' ∧
          r = withChunker
            (f.holding timestamp (f.cut opened (rowsUnder names s.store.contents)).2) r' := by
  induction names generalizing opened report s with
  | nil =>
    rw [addInstances, Act.meets_pure]
    exact ⟨.refl _, rfl, .ok (.ok report), .finished report, rfl⟩
  | cons name names ih =>
    rw [addInstances, Act.meets_useStore_bind]
    have hread := s.store.alike_rowsOf name
    rcases ha : (s.store.rowsOf name).answer with e | rows
    · dsimp only
      rw [Act.meets_pure]
      refine ⟨hread, rfl, .ok (.error (.store e)), .unread e ?_, rfl⟩
      intro hall
      obtain ⟨⟨l, hl⟩, -⟩ := hall _ hb
      simp only [Store.rowsOf, hl] at ha
      cases ha
    · have hrows := s.store.rowsOf_answer name ha
      have hname : ∀ row ∈ rows, f.publishedName row.instanceName = f.publishedName name := by
        intro row hrow
        rw [hrows] at hrow
        rw [beq_iff_eq.1 (List.mem_filter.1 hrow).2]
      have hcons : rowsUnder (name :: names) s.store.contents =
          rows ++ rowsUnder names s.store.contents := by
        rw [hrows, rowsUnder, List.flatMap_cons, rowsUnder]
      rw [hcons, cut, cut_append]
      dsimp only
      refine (f.addRows_meets timestamp w (¬ReadsSucceed b) (f.publishedName name) rows opened
        report hname _).bind ?_ ?_
      · intro a es t hout
        obtain ⟨ht, hr, e | e | report', hc, hmap⟩ := hout
        · cases hmap
        · cases hmap
          dsimp only
          rw [Act.meets_pure, List.append_nil, ht]
          exact ⟨hread, hr, .ok (.error e), hc.extend (failed_ne e) _, rfl⟩
        · cases hmap
          dsimp only
          have hb' : ReadInto b t.store.backend := ht ▸ hb.rows
          refine (ih _ report' t hb').mono ?_
          intro r es' t' hout
          obtain ⟨halike, hr', r', hc', rfl⟩ := hout
          rw [ht, hread.contents] at hc'
          rw [ht] at halike ⊢
          rw [hread.contents]
          rw [exchanges_append, recordings_append, hr, hr']
          exact ⟨hread.trans halike, rfl, r', hc.append hc', rfl⟩
      · intro e es t hout
        obtain ⟨ht, hr, e' | e' | report', hc, hmap⟩ := hout
        · cases hmap
          rw [ht]
          exact ⟨hread, hr, .error e, hc.extend (exited_ne e) _, rfl⟩
        · cases hmap
        · cases hmap

/-- A flush goes through the groups of the rows in the store, which it leaves as it is. -/
theorem flush_meets (s : Scene β) :
    (f.flush timestamp).Meets w s fun r es t =>
      s.store.Alike t.store ∧ recordings es = [] ∧
        f.Course timestamp w (¬ReadsSucceed s.store.backend) (f.groups s.store.contents) {}
          (exchanges es) r := by
  rw [flush, Act.meets_useStore_bind]
  have hread := s.store.alike_instances
  rcases ha : s.store.instances.answer with e | names
  · dsimp only
    rw [Act.meets_pure]
    refine ⟨hread, rfl, .unread e ?_⟩
    intro hall
    obtain ⟨-, l, hl⟩ := hall _ .here
    simp only [Store.instances, hl] at ha
    cases ha
  · have hnames := s.store.instances_answer ha
    have hgroups : f.groups s.store.contents =
        (f.cut [] (rowsUnder names s.store.contents)).1 ++
          lastGroup (f.cut [] (rowsUnder names s.store.contents)).2 := by
      rw [hnames]
      rfl
    rw [hgroups]
    dsimp only
    have hb : ReadInto s.store.backend s.store.instances.store.backend := ReadInto.here.instances
    refine (f.addInstances_meets timestamp w s.store.backend names [] {}
      { s with store := s.store.instances.store } hb).bind ?_ ?_
    · intro a es t hout
      obtain ⟨halike, hr, e | e | report', hc, hmap⟩ := hout
      · cases hmap
      · cases hmap
        dsimp only at hc ⊢
        rw [Act.meets_pure, List.append_nil]
        rw [hread.contents] at hc
        exact ⟨hread.trans halike, hr, hc.extend (failed_ne e) _⟩
      · cases hmap
        dsimp only at hc halike ⊢
        rw [hread.contents] at hc ⊢
        refine (f.sendRest_meets timestamp w (¬ReadsSucceed s.store.backend) _ report' t).bind ?_ ?_
        · intro answer es' t' hout
          obtain ⟨ht', hr', hc'⟩ := hout
          rcases answer with e | report''
          · dsimp only
            rw [Act.meets_pure, List.append_nil, exchanges_append, recordings_append, hr, hr', ht']
            exact ⟨hread.trans halike, rfl, hc.append hc'⟩
          · dsimp only
            rw [Act.meets_say_bind, Act.meets_pure, List.append_nil, exchanges_append,
              recordings_append, hr, hr', ht']
            exact ⟨hread.trans halike, rfl, hc.append hc'⟩
        · intro e es' t' hout
          obtain ⟨ht', hr', hc'⟩ := hout
          rw [exchanges_append, recordings_append, hr, hr', ht']
          exact ⟨hread.trans halike, rfl, hc.append hc'⟩
    · intro e es t hout
      obtain ⟨halike, hr, e' | e' | report', hc, hmap⟩ := hout
      · cases hmap
        dsimp only at hc
        rw [hread.contents] at hc
        exact ⟨hread.trans halike, hr, hc.extend (exited_ne e) _⟩
      · cases hmap
      · cases hmap

end Sending

end Flusher

end HostTelemetry
