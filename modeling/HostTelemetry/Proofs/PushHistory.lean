import HostTelemetry.Proofs.InstanceMap
import Mathlib.Data.Finset.Card

/-!
# Points by instance and timestamp

Points that are pushed under any names, components and timestamps end up under their names, in the
order of the names' first points, and below a name under their timestamps, in ascending order. The
points of one name and one timestamp keep the order in which they were pushed. Nothing is held that
was not pushed: no instance without timestamps, no timestamp without points.
-/

namespace HostTelemetry.Wire

/-! ### Timelines -/

namespace Timeline

/-- The timestamps ascend, and each has a set of points that says it. -/
structure Sound (l : Timeline) : Prop where
  ascending : l.Pairwise fun a b => a.1 < b.1
  dated : ∀ e ∈ l, e.2.timestamp = e.1
  inhabited : ∀ e ∈ l, e.2.points ≠ []

def pointsAt (timestamp : Int) (l : Timeline) : List Point :=
  l.flatMap fun e => if e.1 = timestamp then e.2.points else []

variable {timestamp : Int} {p : Point}

theorem sound_nil : Sound [] where
  ascending := .nil
  dated := by simp
  inhabited := by simp

theorem Sound.tail {e : Int × PointSet} {l : Timeline} (h : Sound (e :: l)) : Sound l where
  ascending := (List.pairwise_cons.1 h.ascending).2
  dated e' he' := h.dated e' (List.mem_cons_of_mem e he')
  inhabited e' he' := h.inhabited e' (List.mem_cons_of_mem e he')

theorem Sound.cons {e : Int × PointSet} {l : Timeline} (h : Sound l) (hlt : ∀ e' ∈ l, e.1 < e'.1)
    (hdated : e.2.timestamp = e.1) (hpoints : e.2.points ≠ []) : Sound (e :: l) where
  ascending := List.pairwise_cons.2 ⟨hlt, h.ascending⟩
  dated := List.forall_mem_cons.2 ⟨hdated, h.dated⟩
  inhabited := List.forall_mem_cons.2 ⟨hpoints, h.inhabited⟩

theorem pointsAt_eq_nil {l : Timeline} (h : ∀ e ∈ l, timestamp < e.1) :
    l.pointsAt timestamp = [] := by
  refine List.flatMap_eq_nil_iff.2 ?_
  intro e he
  have hlt := h e he
  rw [if_neg (by omega)]

theorem lt_of_mem_push {l : Timeline} {bound : Int} (h : ∀ e ∈ l, bound < e.1)
    (hlt : bound < timestamp) : ∀ e ∈ push timestamp p l, bound < e.1 := by
  induction l with
  | nil => simpa [push] using hlt
  | cons e l ih =>
    obtain ⟨he, hl⟩ := List.forall_mem_cons.1 h
    obtain ⟨t, set⟩ := e
    rw [push]
    split
    · exact List.forall_mem_cons.2 ⟨hlt, h⟩
    · split
      · exact List.forall_mem_cons.2 ⟨he, hl⟩
      · exact List.forall_mem_cons.2 ⟨he, ih hl⟩

theorem sound_push {l : Timeline} (h : Sound l) : Sound (push timestamp p l) := by
  induction l with
  | nil => exact sound_nil.cons (by simp) rfl (by simp)
  | cons e l ih =>
    have hl := h.tail
    have habove := (List.pairwise_cons.1 h.ascending).1
    have hdated := h.dated e (List.mem_cons_self ..)
    have hpoints := h.inhabited e (List.mem_cons_self ..)
    obtain ⟨t, set⟩ := e
    rw [push]
    split
    · next hlt =>
      refine h.cons ?_ rfl (by simp)
      exact List.forall_mem_cons.2 ⟨hlt, fun e' he' => Int.lt_trans hlt (habove e' he')⟩
    · split
      · exact hl.cons habove hdated (by simp)
      · next hge hne =>
        exact (ih hl).cons (lt_of_mem_push habove (by dsimp only; omega)) hdated hpoints

theorem pointsAt_cons (e : Int × PointSet) (l : Timeline) (t : Int) :
    pointsAt t (e :: l) = (if e.1 = t then e.2.points else []) ++ pointsAt t l := rfl

/-- A point goes behind the others of its timestamp. -/
theorem pointsAt_push {l : Timeline} (h : Sound l) (t : Int) :
    (push timestamp p l).pointsAt t = l.pointsAt t ++ if timestamp = t then [p] else [] := by
  induction l with
  | nil => simp [push, pointsAt]
  | cons e l ih =>
    have habove := (List.pairwise_cons.1 h.ascending).1
    obtain ⟨t', set⟩ := e
    rw [push]
    split
    · next hlt =>
      have hbelow : ∀ e' ∈ (t', set) :: l, timestamp < e'.1 :=
        List.forall_mem_cons.2 ⟨hlt, fun e' he' => Int.lt_trans hlt (habove e' he')⟩
      rw [pointsAt_cons]
      by_cases ht : timestamp = t
      · subst ht
        rw [pointsAt_eq_nil hbelow]
        simp
      · simp [ht]
    · split
      · next heq =>
        subst heq
        rw [pointsAt_cons, pointsAt_cons]
        by_cases ht : timestamp = t
        · subst ht
          rw [pointsAt_eq_nil habove]
          simp
        · simp [ht]
      · rw [pointsAt_cons, pointsAt_cons, ih h.tail, List.append_assoc]

/-- Timestamps differ, so a set of points stands alone under its own. -/
theorem Sound.pointsAt_eq {l : Timeline} (h : Sound l) {e : Int × PointSet} (he : e ∈ l) :
    l.pointsAt e.1 = e.2.points := by
  induction l with
  | nil => cases he
  | cons first l ih =>
    have habove := (List.pairwise_cons.1 h.ascending).1
    rw [pointsAt_cons]
    rcases List.mem_cons.1 he with rfl | he
    · rw [if_pos rfl, pointsAt_eq_nil habove, List.append_nil]
    · rw [if_neg (Int.ne_of_lt (habove e he)), List.nil_append, ih h.tail he]

theorem exists_of_mem_pointsAt {l : Timeline} {t : Int} (h : p ∈ l.pointsAt t) :
    ∃ e ∈ l, e.1 = t := by
  obtain ⟨e, he, hp⟩ := List.mem_flatMap.1 h
  refine ⟨e, he, ?_⟩
  by_contra hne
  rw [if_neg hne] at hp
  cases hp

end Timeline

/-! ### Instances -/

namespace InstanceMap

/-- What instances hold behind some pushes. -/
structure Holds (m : InstanceMap) (ps : List Push) : Prop where
  names : m.map (·.name) = (ps.map (·.name)).eraseDups
  sound : ∀ d ∈ m, d.timeline.Sound
  /-- An instance has the component of its first point. -/
  components : ∀ d ∈ m, (ps.find? (·.name == d.name)).map (·.component) = some d.component
  points : ∀ d ∈ m, ∀ t, d.timeline.pointsAt t =
    (ps.filter fun p => p.name == d.name && p.timestamp == t).map (·.point)

variable (p : Push)

theorem names_push (m : InstanceMap) :
    (push p.name p.component p.timestamp p.point m).map (·.name) =
      m.map (·.name) ++ if p.name ∈ m.map (·.name) then [] else [p.name] := by
  induction m with
  | nil => simp [push]
  | cons d m ih =>
    by_cases h : d.name = p.name
    · simp [push, h]
    · simp [push, h, Ne.symm h, ih]

/-- An instance behind a push is an earlier one of another name, the earlier one of that name with
the point, or a new one. -/
theorem mem_push {m : InstanceMap} (hnames : (m.map (·.name)).Nodup) {d : InstanceData}
    (hd : d ∈ push p.name p.component p.timestamp p.point m) :
    (d ∈ m ∧ d.name ≠ p.name) ∨
    (∃ old ∈ m, old.name = p.name ∧
      d = { old with timeline := old.timeline.push p.timestamp p.point }) ∨
    (p.name ∉ m.map (·.name) ∧
      d = ⟨p.name, p.component, Timeline.push p.timestamp p.point []⟩) := by
  induction m with
  | nil => exact .inr (.inr ⟨by simp, List.mem_singleton.1 hd⟩)
  | cons old m ih =>
    rw [List.map_cons, List.nodup_cons] at hnames
    rw [push] at hd
    split at hd
    · next h =>
      rcases List.mem_cons.1 hd with rfl | hmem
      · exact .inr (.inl ⟨old, List.mem_cons_self .., h, rfl⟩)
      · refine .inl ⟨List.mem_cons_of_mem old hmem, ?_⟩
        intro hname
        exact hnames.1 (by rw [h, ← hname]; exact List.mem_map_of_mem hmem)
    · next h =>
      rcases List.mem_cons.1 hd with rfl | hmem
      · exact .inl ⟨List.mem_cons_self .., h⟩
      · rcases ih hnames.2 hmem with ⟨hm, hne⟩ | ⟨o, ho, hname, heq⟩ | ⟨hnew, heq⟩
        · exact .inl ⟨List.mem_cons_of_mem old hm, hne⟩
        · exact .inr (.inl ⟨o, List.mem_cons_of_mem old ho, hname, heq⟩)
        · refine .inr (.inr ⟨?_, heq⟩)
          simpa [Ne.symm h] using hnew

theorem Holds.nodup {m : InstanceMap} {ps : List Push} (h : m.Holds ps) :
    (m.map (·.name)).Nodup := by
  rw [h.names]
  exact nodup_eraseDups _

theorem filter_concat (ps : List Push) (name : String) (t : Int) :
    ((ps ++ [p]).filter fun q => q.name == name && q.timestamp == t).map (·.point) =
      (ps.filter fun q => q.name == name && q.timestamp == t).map (·.point) ++
        if p.name = name ∧ p.timestamp = t then [p.point] else [] := by
  rw [List.filter_append, List.map_append]
  congr 1
  by_cases h : p.name = name ∧ p.timestamp = t
  · simp [h.1, h.2]
  · have hb : (p.name == name && p.timestamp == t) = false := by simpa using h
    rw [List.filter_cons_of_neg (by simp [hb]), if_neg h]
    rfl

/-- Only the first push of a name gives it its component. -/
theorem component_concat {ps : List Push} {name : String} {c : Option String}
    (h : (ps.find? (·.name == name)).map (·.component) = some c) :
    ((ps ++ [p]).find? (·.name == name)).map (·.component) = some c := by
  rw [List.find?_append]
  cases hf : ps.find? (·.name == name) with
  | none => simp [hf] at h
  | some q => simpa [hf] using h

theorem Holds.push {m : InstanceMap} {ps : List Push} (h : m.Holds ps) :
    Holds (InstanceMap.push p.name p.component p.timestamp p.point m) (ps ++ [p]) := by
  have hold : ∀ name, name ∈ m.map (·.name) ↔ name ∈ ps.map (·.name) := by
    intro name
    rw [h.names, List.mem_eraseDups]
  constructor
  · rw [names_push, List.map_append, List.map_singleton, eraseDups_concat, ← h.names]
    simp only [hold]
  · intro d hd
    rcases mem_push p h.nodup hd with ⟨hm, -⟩ | ⟨old, hm, -, rfl⟩ | ⟨-, rfl⟩
    · exact h.sound d hm
    · exact Timeline.sound_push (h.sound old hm)
    · exact Timeline.sound_push Timeline.sound_nil
  · intro d hd
    rcases mem_push p h.nodup hd with ⟨hm, -⟩ | ⟨old, hm, hname, rfl⟩ | ⟨hnew, rfl⟩
    · exact component_concat p (h.components d hm)
    · exact component_concat p (h.components old hm)
    · have hf : ps.find? (·.name == p.name) = none := by
        rw [List.find?_eq_none]
        intro q hq hname
        exact hnew ((hold p.name).2 (List.mem_map.2 ⟨q, hq, eq_of_beq hname⟩))
      rw [List.find?_append, hf]
      simp
  · intro d hd t
    rw [filter_concat]
    rcases mem_push p h.nodup hd with ⟨hm, hne⟩ | ⟨old, hm, hname, rfl⟩ | ⟨hnew, rfl⟩
    · have hoff : ¬(p.name = d.name ∧ p.timestamp = t) := fun hp => hne hp.1.symm
      rw [h.points d hm t, if_neg hoff, List.append_nil]
    · rw [Timeline.pointsAt_push (h.sound old hm), h.points old hm t]
      simp [hname]
    · have hnil : ps.filter (fun q => q.name == p.name && q.timestamp == t) = [] := by
        rw [List.filter_eq_nil_iff]
        intro q hq hname
        rw [Bool.and_eq_true] at hname
        exact hnew ((hold p.name).2 (List.mem_map.2 ⟨q, hq, eq_of_beq hname.1⟩))
      rw [Timeline.pointsAt_push Timeline.sound_nil, hnil]
      simp [Timeline.pointsAt]

/-- Whatever is pushed is held. -/
theorem holds_ofPushes (ps : List Push) : (ofPushes ps).Holds ps := by
  induction ps using List.reverseRecOn with
  | nil => exact ⟨rfl, by simp [ofPushes], by simp [ofPushes], by simp [ofPushes]⟩
  | append_singleton ps p ih =>
    rw [ofPushes_concat]
    exact ih.push p

/-! ### What instances say of their pushes -/

/-- Instances that hold some pushes and nothing else, and say so when they are counted or searched. -/
structure Represents (m : InstanceMap) (ps : List Push) : Prop extends Holds m ps where
  distinct : (m.map (·.name)).Nodup
  /-- Every push has its timestamp below its name. -/
  complete : ∀ q ∈ ps, ∃ d ∈ m, d.name = q.name ∧ ∃ e ∈ d.timeline, e.1 = q.timestamp
  inhabited : ∀ d ∈ m, d.timeline ≠ []
  pushed : ∀ d ∈ m, ∀ e ∈ d.timeline, e.2.points =
    (ps.filter fun q => q.name == d.name && q.timestamp == e.1).map (·.point)
  pointCount_eq : m.pointCount = ps.length
  length_eq : m.length = (ps.map (·.name)).toFinset.card
  isEmpty_iff : m.isEmpty = true ↔ ps = []
  find?_eq_some_iff : ∀ name d, m.find? name = some d ↔ d ∈ m ∧ d.name = name
  find?_eq_none_iff : ∀ name, m.find? name = none ↔ ∀ q ∈ ps, q.name ≠ name

section Held

variable {m : InstanceMap} {ps : List Push}

theorem Holds.mem_names (h : m.Holds ps) (name : String) :
    name ∈ m.map (·.name) ↔ name ∈ ps.map (·.name) := by
  rw [h.names, List.mem_eraseDups]

theorem Holds.exists_timestamp (h : m.Holds ps) {q : Push} (hq : q ∈ ps) {d : InstanceData}
    (hd : d ∈ m) (hname : d.name = q.name) : ∃ e ∈ d.timeline, e.1 = q.timestamp := by
  have hpoint : q.point ∈ d.timeline.pointsAt q.timestamp := by
    rw [h.points d hd]
    exact List.mem_map_of_mem (List.mem_filter.2 ⟨hq, by simp [hname]⟩)
  exact Timeline.exists_of_mem_pointsAt hpoint

theorem Holds.complete (h : m.Holds ps) : ∀ q ∈ ps, ∃ d ∈ m, d.name = q.name ∧
    ∃ e ∈ d.timeline, e.1 = q.timestamp := by
  intro q hq
  obtain ⟨d, hd, hname⟩ := List.mem_map.1 ((h.mem_names q.name).2 (List.mem_map_of_mem hq))
  exact ⟨d, hd, hname, h.exists_timestamp hq hd hname⟩

theorem Holds.inhabited (h : m.Holds ps) : ∀ d ∈ m, d.timeline ≠ [] := by
  intro d hd
  obtain ⟨q, hq, hname⟩ := List.mem_map.1 ((h.mem_names d.name).1 (List.mem_map_of_mem hd))
  obtain ⟨e, he, -⟩ := h.exists_timestamp hq hd hname.symm
  exact List.ne_nil_of_mem he

theorem Holds.find?_eq_some_iff (h : m.Holds ps) (name : String) (d : InstanceData) :
    m.find? name = some d ↔ d ∈ m ∧ d.name = name := by
  have hnamed : ∀ d, m.find? name = some d → d ∈ m ∧ d.name = name := by
    intro d hfind
    have hname := List.find?_some hfind
    exact ⟨List.mem_of_find?_eq_some hfind, eq_of_beq hname⟩
  refine ⟨hnamed d, ?_⟩
  rintro ⟨hd, hname⟩
  cases hfind : m.find? name with
  | none => exact absurd (beq_iff_eq.2 hname) (List.find?_eq_none.1 hfind d hd)
  | some d' =>
    obtain ⟨hd', hname'⟩ := hnamed d' hfind
    rw [List.inj_on_of_nodup_map h.nodup hd' hd (hname'.trans hname.symm)]

theorem Holds.find?_eq_none_iff (h : m.Holds ps) (name : String) :
    m.find? name = none ↔ ∀ q ∈ ps, q.name ≠ name := by
  have habsent : m.find? name = none ↔ name ∉ m.map (·.name) := by
    simp [find?, List.find?_eq_none]
  rw [habsent, h.mem_names]
  simp

theorem Holds.length_eq (h : m.Holds ps) : m.length = (ps.map (·.name)).toFinset.card := by
  have hsame : (m.map (·.name)).toFinset = (ps.map (·.name)).toFinset := by
    ext name
    rw [List.mem_toFinset, List.mem_toFinset, h.mem_names]
  rw [← hsame, List.toFinset_card_of_nodup h.nodup, List.length_map]

end Held

/-- Whatever is pushed, in whatever order, the instances represent it. -/
theorem ofPushes_represents (ps : List Push) : (ofPushes ps).Represents ps where
  toHolds := holds_ofPushes ps
  distinct := (holds_ofPushes ps).nodup
  complete := (holds_ofPushes ps).complete
  inhabited := (holds_ofPushes ps).inhabited
  pushed d hd e he := by
    rw [← (holds_ofPushes ps).points d hd, ((holds_ofPushes ps).sound d hd).pointsAt_eq he]
  pointCount_eq := pointCount_ofPushes ps
  length_eq := (holds_ofPushes ps).length_eq
  isEmpty_iff := List.isEmpty_iff.trans (ofPushes_eq_nil_iff ps)
  find?_eq_some_iff := (holds_ofPushes ps).find?_eq_some_iff
  find?_eq_none_iff := (holds_ofPushes ps).find?_eq_none_iff

end InstanceMap

end HostTelemetry.Wire
