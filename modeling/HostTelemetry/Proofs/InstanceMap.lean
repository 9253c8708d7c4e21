import HostTelemetry.Proofs.FirstOccurrences
import HostTelemetry.Wire.Payload

/-!
# Points by instance

Points that are pushed under one timestamp and with one component end up grouped: one entry for
each name, in the order of the names' first points, with the points of that name in the order in
which they were pushed.
-/

namespace HostTelemetry.Wire

/-! ### Counting -/

theorem Timeline.pointCount_push (timestamp : Int) (p : Point) (l : Timeline) :
    (Timeline.push timestamp p l).pointCount = l.pointCount + 1 := by
  induction l with
  | nil => rfl
  | cons e l ih =>
    obtain ⟨t, set⟩ := e
    simp only [Timeline.pointCount] at ih ⊢
    by_cases hlt : timestamp < t
    · simp [Timeline.push, hlt]
      omega
    · by_cases heq : timestamp = t
      · simp [Timeline.push, heq]
        omega
      · simp [Timeline.push, hlt, heq, ih]
        omega

/-- A point and the name under which it is published. -/
abbrev Entry := String × Point

/-- The names of some entries, each once, in the order of first occurrence. -/
def entryNames (es : List Entry) : List String := (es.map (·.1)).eraseDups

def pointsNamed (es : List Entry) (name : String) : List Point :=
  (es.filter fun e => e.1 == name).map (·.2)

theorem nodup_entryNames (es : List Entry) : (entryNames es).Nodup := nodup_eraseDups _

theorem mem_entryNames {es : List Entry} {e : Entry} (h : e ∈ es) : e.1 ∈ entryNames es :=
  List.mem_eraseDups.2 (List.mem_map_of_mem h)

theorem length_entryNames_le (es : List Entry) : (entryNames es).length ≤ es.length := by
  have h := length_eraseDups_le (es.map (·.1))
  rwa [List.length_map] at h

theorem entryNames_append (es : List Entry) (e : Entry) :
    entryNames (es ++ [e]) =
      entryNames es ++ if e.1 ∈ entryNames es then [] else [e.1] := by
  rw [entryNames, List.map_append, List.map_singleton, eraseDups_concat, entryNames]
  simp only [List.mem_eraseDups]

theorem pointsNamed_append (es : List Entry) (e : Entry) (name : String) :
    pointsNamed (es ++ [e]) name =
      if name = e.1 then pointsNamed es name ++ [e.2] else pointsNamed es name := by
  by_cases h : name = e.1
  · simp [pointsNamed, h]
  · simp [pointsNamed, h, Ne.symm h]

theorem pointsNamed_ne_nil {es : List Entry} {name : String} (h : name ∈ entryNames es) :
    pointsNamed es name ≠ [] := by
  obtain ⟨e, he, hn⟩ := List.mem_map.1 (List.mem_eraseDups.1 h)
  have hm : e ∈ es.filter fun e => e.1 == name := List.mem_filter.2 ⟨he, by simpa using hn⟩
  exact fun h0 => List.ne_nil_of_mem hm (List.map_eq_nil_iff.1 h0)

theorem pointsNamed_eq_nil {es : List Entry} {name : String} (h : name ∉ entryNames es) :
    pointsNamed es name = [] := by
  rw [pointsNamed, List.map_eq_nil_iff, List.filter_eq_nil_iff]
  intro e he hn
  exact h (List.mem_eraseDups.2 (List.mem_map.2 ⟨e, he, by simpa using hn⟩))

/-- A point, and where it is pushed. -/
structure Push where
  name : String
  component : Option String
  timestamp : Int
  point : Point

namespace InstanceMap

variable (component : Option String) (timestamp : Int)

theorem pointCount_push (name : String) (p : Point) (m : InstanceMap) :
    (push name component timestamp p m).pointCount = m.pointCount + 1 := by
  induction m with
  | nil => rfl
  | cons d m ih =>
    simp only [pointCount] at ih ⊢
    by_cases h : d.name = name
    · have ht := Timeline.pointCount_push timestamp p d.timeline
      simp [push, h, InstanceData.pointCount, ht]
      omega
    · simp [push, h, ih]
      omega

def ofEntries (es : List Entry) : InstanceMap :=
  es.foldl (fun m e => push e.1 component timestamp e.2 m) []

theorem ofEntries_append (es : List Entry) (e : Entry) :
    ofEntries component timestamp (es ++ [e]) =
      push e.1 component timestamp e.2 (ofEntries component timestamp es) := by
  simp [ofEntries, List.foldl_append]

def ofPushes (ps : List Push) : InstanceMap :=
  ps.foldl (fun m p => push p.name p.component p.timestamp p.point m) []

theorem ofPushes_concat (ps : List Push) (p : Push) : ofPushes (ps ++ [p]) =
    push p.name p.component p.timestamp p.point (ofPushes ps) := by
  simp [ofPushes, List.foldl_append]

theorem pointCount_ofPushes (ps : List Push) : (ofPushes ps).pointCount = ps.length := by
  induction ps using List.reverseRecOn with
  | nil => rfl
  | append_singleton ps p ih =>
    rw [ofPushes_concat, pointCount_push, ih, List.length_append, List.length_singleton]

theorem ofPushes_eq_nil_iff (ps : List Push) : ofPushes ps = [] ↔ ps = [] := by
  constructor
  · intro h
    have hc := pointCount_ofPushes ps
    rw [h] at hc
    exact List.length_eq_zero_iff.1 hc.symm
  · intro heq
    subst heq
    rfl

theorem ofEntries_eq_ofPushes (es : List Entry) : ofEntries component timestamp es =
    ofPushes (es.map fun e => ⟨e.1, component, timestamp, e.2⟩) := by
  rw [ofEntries, ofPushes, List.foldl_map]

theorem pointCount_ofEntries (es : List Entry) :
    (ofEntries component timestamp es).pointCount = es.length := by
  rw [ofEntries_eq_ofPushes, pointCount_ofPushes, List.length_map]

theorem ofEntries_eq_nil_iff (es : List Entry) :
    ofEntries component timestamp es = [] ↔ es = [] := by
  rw [ofEntries_eq_ofPushes, ofPushes_eq_nil_iff, List.map_eq_nil_iff]

def instanceOf (name : String) (points : List Point) : InstanceData :=
  ⟨name, component, [(timestamp, ⟨timestamp, points⟩)]⟩

/-- A point goes to the entry of its name, or opens one at the end. -/
theorem push_map (name : String) (p : Point) (names : List String) (h : names.Nodup)
    (points : String → List Point) :
    push name component timestamp p
        (names.map fun n => instanceOf component timestamp n (points n)) =
      (names ++ if name ∈ names then [] else [name]).map fun n =>
        instanceOf component timestamp n
          (if n = name then (if name ∈ names then points n else []) ++ [p] else points n) := by
  induction names with
  | nil => simp [push, instanceOf, Timeline.push]
  | cons n names ih =>
    have hn : n ∉ names := (List.nodup_cons.1 h).1
    rw [List.map_cons, push]
    by_cases heq : n = name
    · subst heq
      have hrest : ∀ m ∈ names, m ≠ n := fun m hm he => hn (he ▸ hm)
      simp only [instanceOf, if_true, Timeline.push, List.mem_cons, true_or, List.append_nil,
        List.map_cons, if_neg (Int.lt_irrefl timestamp)]
      congr 1
      refine List.map_congr_left fun m hm => ?_
      rw [if_neg (hrest m hm)]
    · have hname : name ∈ n :: names ↔ name ∈ names := by simp [Ne.symm heq]
      rw [if_neg (by simpa [instanceOf] using heq), ih (List.nodup_cons.1 h).2]
      simp only [hname, List.cons_append, List.map_cons, if_neg heq]

/-- Entries that are pushed are grouped by name. -/
theorem ofEntries_eq (es : List Entry) :
    ofEntries component timestamp es =
      (entryNames es).map fun n => instanceOf component timestamp n (pointsNamed es n) := by
  induction es using List.reverseRecOn with
  | nil => rfl
  | append_singleton es e ih =>
    rw [ofEntries_append, ih, push_map _ _ _ _ _ (nodup_entryNames es), entryNames_append]
    refine List.map_congr_left fun n _ => ?_
    rw [pointsNamed_append]
    by_cases hn : n = e.1
    · subst hn
      by_cases hm : e.1 ∈ entryNames es
      · simp only [if_true, if_pos hm]
      · simp only [if_true, if_neg hm, pointsNamed_eq_nil hm]
    · simp only [if_neg hn]

end InstanceMap

end HostTelemetry.Wire
