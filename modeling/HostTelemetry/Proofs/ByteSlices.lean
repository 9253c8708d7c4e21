import HostTelemetry.Text.Cut
import Mathlib.Data.String.Basic

/-!
# Slices at positions in bytes

A text may be cut at positions that count the bytes in front of them, as long as no position lies
inside a character. The positions of a character and right behind it are never inside another one.
-/

namespace HostTelemetry.Text

/-- The part of a text between two positions in bytes. There is none if they are in the wrong order,
behind the end or inside a character. -/
def slice? (s : String) (start stop : Nat) : Option String :=
  if start ≤ stop ∧ (String.Pos.Raw.mk start).isValid s = true ∧
      (String.Pos.Raw.mk stop).isValid s = true then
    some (String.Pos.Raw.extract s ⟨start⟩ ⟨stop⟩)
  else none

/-- The position in bytes of a character that does not stand anywhere before. -/
def FirstAt (mark : Char) (s : String) (position : Nat) : Prop :=
  ∃ a b, s.toList = a ++ mark :: b ∧ mark ∉ a ∧ position = (String.ofList a).utf8ByteSize

/-- The position in bytes of a character that does not stand anywhere behind. -/
def LastAt (mark : Char) (s : String) (position : Nat) : Prop :=
  ∃ a b, s.toList = a ++ mark :: b ∧ mark ∉ b ∧ position = (String.ofList a).utf8ByteSize

variable {s : String} {a m b : List Char}

theorem isSome_slice? (s : String) (start stop : Nat) : (slice? s start stop).isSome = true ↔
    start ≤ stop ∧ (String.Pos.Raw.mk start).isValid s = true ∧
      (String.Pos.Raw.mk stop).isValid s = true := by
  rw [slice?, Option.isSome_ite]

/-- The characters of a text end at valid positions, and nothing else does. -/
theorem isValid_iff_exists_toList {position : Nat} :
    (String.Pos.Raw.mk position).isValid s = true ↔
      ∃ a b, s.toList = a ++ b ∧ position = (String.ofList a).utf8ByteSize := by
  rw [String.Pos.Raw.isValid_eq_true_iff, String.Pos.Raw.isValid_iff_exists_append]
  simp only [String.Pos.Raw.ext_iff, String.byteIdx_rawEndPos]
  constructor
  · rintro ⟨a, b, rfl, hposition⟩
    exact ⟨a.toList, b.toList, String.toList_append, by rw [hposition, String.ofList_toList]⟩
  · rintro ⟨a, b, hs, hposition⟩
    refine ⟨String.ofList a, String.ofList b, ?_, hposition⟩
    rw [← String.ofList_append, ← hs, String.ofList_toList]

theorem isValid_of_toList (h : s.toList = a ++ b) :
    (String.Pos.Raw.mk (String.ofList a).utf8ByteSize).isValid s = true :=
  isValid_iff_exists_toList.2 ⟨a, b, h, rfl⟩

theorem slice?_of_toList (h : s.toList = a ++ m ++ b) :
    slice? s (String.ofList a).utf8ByteSize (String.ofList (a ++ m)).utf8ByteSize =
      some (String.ofList m) := by
  have hstart := isValid_of_toList (h.trans (List.append_assoc ..))
  have hstop := isValid_of_toList h
  have hsize : (String.ofList (a ++ m)).utf8ByteSize =
      (String.ofList a).utf8ByteSize + (String.ofList m).utf8ByteSize := by
    rw [String.ofList_append, String.utf8ByteSize_append]
  have hs : s = String.ofList (a ++ m ++ b) := by rw [← h, String.ofList_toList]
  have hextract := String.extract_of_valid a m b
  simp only [← String.utf8ByteSize_ofList] at hextract
  rw [slice?, if_pos ⟨by omega, hstart, hstop⟩, hs, hsize, hextract]

theorem utf8ByteSize_concat (a : List Char) (c : Char) :
    (String.ofList (a ++ [c])).utf8ByteSize = (String.ofList a).utf8ByteSize + c.utf8Size := by
  simp [String.ofList_append]

end HostTelemetry.Text
