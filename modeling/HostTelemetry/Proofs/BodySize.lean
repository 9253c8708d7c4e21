import HostTelemetry.Proofs.BodyReading
import HostTelemetry.Proofs.Chunking
import Mathlib.Algebra.BigOperators.Group.List.Basic
import Mathlib.Algebra.GroupWithZero.Nat

/-!
# How long a body is

A structured text is as long as its parts and a comma between each two neighbours. So a body is as
long as the body without instances, what every name adds around its points, the points, and a
comma for every point but the first.
-/

namespace HostTelemetry.Wire

theorem byteLength_append (a b : List Char) :
    byteLength (a ++ b) = byteLength a + byteLength b := by
  simp [byteLength, String.ofList_append]

theorem byteLength_cons (c : Char) (s : List Char) :
    byteLength (c :: s) = c.utf8Size + byteLength s := by
  simp [byteLength, String.ofList_cons]

namespace Json

def bytes (v : Json) : Nat := byteLength v.render

def textBytes (s : String) : Nat := byteLength (renderText s)

def memberBytes (m : String × Json) : Nat := byteLength (renderMember m)

/-- The length of some parts with a comma between each two neighbours. -/
def joined (lengths : List Nat) : Nat := lengths.sum + (lengths.length - 1)

theorem joined_cons (n : Nat) {lengths : List Nat} (h : lengths ≠ []) :
    joined (n :: lengths) = n + 1 + joined lengths := by
  have hpos := List.length_pos_iff.2 h
  simp only [joined, List.sum_cons, List.length_cons]
  omega

theorem memberBytes_eq (name : String) (v : Json) :
    memberBytes (name, v) = textBytes name + 1 + v.bytes := by
  rw [memberBytes, renderMember, byteLength_append, byteLength_cons, textBytes, bytes]
  have : ':'.utf8Size = 1 := rfl
  omega

theorem byteLength_renderItems (items : List Json) :
    byteLength (renderItems items) = joined (items.map bytes) := by
  induction items with
  | nil => rfl
  | cons v items ih =>
    cases items with
    | nil => simp [renderItems, joined, bytes]
    | cons w items =>
      have hjoin : joined ((v :: w :: items).map bytes) =
          v.bytes + 1 + joined ((w :: items).map bytes) :=
        joined_cons v.bytes (List.cons_ne_nil _ _)
      rw [renderItems, byteLength_append, byteLength_cons, ih, hjoin, bytes]
      have : ','.utf8Size = 1 := rfl
      omega

theorem byteLength_renderMembers (members : List (String × Json)) :
    byteLength (renderMembers members) = joined (members.map memberBytes) := by
  induction members with
  | nil => rfl
  | cons m members ih =>
    cases members with
    | nil => simp [renderMembers, joined, memberBytes]
    | cons w members =>
      have hjoin : joined ((m :: w :: members).map memberBytes) =
          memberBytes m + 1 + joined ((w :: members).map memberBytes) :=
        joined_cons (memberBytes m) (List.cons_ne_nil _ _)
      rw [renderMembers, byteLength_append, byteLength_cons, ih, hjoin, memberBytes]
      have : ','.utf8Size = 1 := rfl
      omega

theorem bytes_list (items : List Json) : (list items).bytes = 2 + joined (items.map bytes) := by
  rw [bytes, render, byteLength_append, byteLength_cons, byteLength_renderItems]
  have hopen : '['.utf8Size = 1 := rfl
  have hclose : byteLength [']'] = 1 := by decide
  omega

theorem bytes_object (members : List (String × Json)) :
    (object members).bytes = 2 + joined (members.map memberBytes) := by
  rw [bytes, render, byteLength_append, byteLength_cons, byteLength_renderMembers]
  have hopen : '\x7b'.utf8Size = 1 := rfl
  have hclose : byteLength ['\x7d'] = 1 := by decide
  omega

end Json

/-! ### Points below their names -/

theorem sum_map_ite_of_nodup {names : List String} (h : names.Nodup) (a : String) (c : Nat) :
    (names.map fun n => if n = a then c else 0).sum = if a ∈ names then c else 0 := by
  induction names with
  | nil => rfl
  | cons n names ih =>
    obtain ⟨hn, hnames⟩ := List.nodup_cons.1 h
    rw [List.map_cons, List.sum_cons, ih hnames]
    by_cases ha : n = a
    · subst ha
      simp [hn]
    · simp [ha, Ne.symm ha]

/-- What is summed below the names is summed over all entries. -/
theorem sum_pointsNamed (weight : Point → Nat) (es : List Entry) :
    ((entryNames es).map fun n => ((pointsNamed es n).map weight).sum).sum =
      (es.map fun e => weight e.2).sum := by
  induction es using List.reverseRecOn with
  | nil => rfl
  | append_singleton es e ih =>
    have hstep : ∀ n, ((pointsNamed (es ++ [e]) n).map weight).sum =
        ((pointsNamed es n).map weight).sum + if n = e.1 then weight e.2 else 0 := by
      intro n
      rw [pointsNamed_append]
      split <;> simp
    have hold := sum_map_ite_of_nodup (nodup_entryNames es) e.1 (weight e.2)
    simp only [hstep, List.sum_map_add, entryNames_append, List.map_append, List.sum_append, ih,
      hold]
    by_cases hmem : e.1 ∈ entryNames es
    · simp [hmem]
    · simp [hmem, pointsNamed_eq_nil hmem]

theorem sum_length_pointsNamed (es : List Entry) :
    ((entryNames es).map fun n => (pointsNamed es n).length).sum = es.length := by
  have h := sum_pointsNamed (fun _ => 1) es
  simpa using h

namespace InstanceMap

variable (component : Option String) (timestamp : Int)

/-- What a name adds to a body besides its points. -/
def wrapping (name : String) : Nat :=
  Json.memberBytes (name, (instanceOf component timestamp name []).json)

theorem memberBytes_instanceOf (name : String) (points : List Point) :
    Json.memberBytes (name, (instanceOf component timestamp name points).json) =
      wrapping component timestamp name + Json.joined (points.map fun p => p.json.bytes) := by
  have hset : (PointSet.json ⟨timestamp, points⟩).bytes = (PointSet.json ⟨timestamp, []⟩).bytes +
      Json.joined (points.map fun p => p.json.bytes) := by
    simp [PointSet.json, Json.bytes_object, Json.bytes_list, Json.memberBytes_eq, Json.joined,
      Function.comp_def]
    omega
  rw [wrapping]
  cases component with
  | none =>
    simp [instanceOf, InstanceData.json, Timeline.json, optionalMember, Json.bytes_object,
      Json.memberBytes_eq, Json.joined, hset]
    omega
  | some c =>
    simp [instanceOf, InstanceData.json, Timeline.json, optionalMember, Json.bytes_object,
      Json.memberBytes_eq, Json.joined, hset]
    omega

theorem bytes_ofEntries {es : List Entry} (h : es ≠ []) :
    (ofEntries component timestamp es).json.bytes =
      2 + ((entryNames es).map (wrapping component timestamp)).sum +
        (es.map fun e => e.2.json.bytes).sum + (es.length - 1) := by
  have hmember : ∀ n, Json.memberBytes
      (n, (instanceOf component timestamp n (pointsNamed es n)).json) =
        wrapping component timestamp n + (((pointsNamed es n).map fun p => p.json.bytes).sum +
          ((pointsNamed es n).length - 1)) := by
    intro n
    rw [memberBytes_instanceOf, Json.joined, List.length_map]
  -- The commas below the names and those between them are one fewer than the points.
  have hcommas : ((entryNames es).map fun n => (pointsNamed es n).length - 1).sum +
      (entryNames es).length = es.length := by
    have hones : ((entryNames es).map fun _ => 1).sum = (entryNames es).length := by simp
    rw [← sum_length_pointsNamed es, ← hones, ← List.sum_map_add]
    congr 1
    refine List.map_congr_left ?_
    intro n hn
    have hpos := List.length_pos_iff.2 (pointsNamed_ne_nil hn)
    omega
  have hnames : 0 < (entryNames es).length := by
    obtain ⟨e, he⟩ := List.exists_mem_of_ne_nil es h
    exact List.length_pos_of_mem (mem_entryNames he)
  have hjoin : (ofEntries component timestamp es).json.bytes = 2 + Json.joined
      ((entryNames es).map fun n => Json.memberBytes
        (n, (instanceOf component timestamp n (pointsNamed es n)).json)) := by
    rw [json, Json.bytes_object, ofEntries_eq, List.map_map, List.map_map]
    rfl
  rw [hjoin, Json.joined, List.length_map]
  simp only [hmember, List.sum_map_add, sum_pointsNamed (fun p => p.json.bytes) es]
  omega

end InstanceMap

theorem bytes_body (b : Body) :
    b.json.bytes + 2 = { b with instances := [] }.json.bytes + b.instances.json.bytes := by
  have hempty : (InstanceMap.json []).bytes = 2 := rfl
  rcases b with ⟨license, user, project, dataUser, instances, system, interval⟩
  cases system <;> cases interval <;>
    simp [Body.json, optionalMember, Json.bytes_object, Json.memberBytes_eq, Json.joined, hempty] <;>
    omega

end HostTelemetry.Wire
