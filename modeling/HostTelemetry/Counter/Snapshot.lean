import HostTelemetry.Counter.Value

/-!
# Snapshots

Named numeric fields of one instance, read at one moment. A field occurs at most once; setting it
again replaces its value.
-/

namespace HostTelemetry

/-- Values by field name, in the order in which the fields were first set. -/
structure Fields where
  entries : List (String × Value)
deriving Repr

namespace Fields

def empty : Fields := ⟨[]⟩

def entry? (name : String) : List (String × Value) → Option Value
  | [] => none
  | e :: r => if e.1 = name then some e.2 else entry? name r

def get? (f : Fields) (name : String) : Option Value := entry? name f.entries

def setEntry (name : String) (value : Value) : List (String × Value) → List (String × Value)
  | [] => [(name, value)]
  | e :: r => if e.1 = name then (name, value) :: r else e :: setEntry name value r

def set (f : Fields) (name : String) (value : Value) : Fields :=
  ⟨setEntry name value f.entries⟩

def setIfSome (f : Fields) (name : String) : Option Value → Fields
  | some value => f.set name value
  | none => f

def erase (f : Fields) (name : String) : Fields :=
  ⟨f.entries.filter fun e => !(e.1 == name)⟩

/-- The fields of a list, a later value replacing an earlier one. -/
def ofList (l : List (String × Value)) : Fields :=
  l.foldl (fun f e => f.set e.1 e.2) empty

def ofNumbers (l : List (String × Float)) : Fields := ofList (l.map fun e => (e.1, e.2))

theorem entry?_setEntry (l : List (String × Value)) (name other : String) (value : Value) :
    entry? other (setEntry name value l) = if name = other then some value else entry? other l := by
  induction l with
  | nil => simp [setEntry, entry?]
  | cons e r ih =>
    by_cases he : e.1 = name
    · by_cases h : name = other <;> simp [setEntry, entry?, he, h]
    · by_cases h : e.1 = other
      · have hn : name ≠ other := fun hn => he (h.trans hn.symm)
        subst h
        simp [setEntry, entry?, he, hn]
      · simp [setEntry, entry?, he, h, ih]

theorem get?_set (f : Fields) (name other : String) (value : Value) :
    (f.set name value).get? other = if name = other then some value else f.get? other :=
  entry?_setEntry f.entries name other value

theorem get?_erase (f : Fields) (name other : String) :
    (f.erase name).get? other = if name = other then none else f.get? other := by
  obtain ⟨entries⟩ := f
  show entry? other (entries.filter fun e => !(e.1 == name)) = _
  induction entries with
  | nil => simp [get?, entry?]
  | cons e r ih =>
    by_cases he : e.1 = name
    · by_cases h : name = other <;> simp_all [get?, entry?]
    · by_cases h : e.1 = other
      · have hn : name ≠ other := fun hn => he (h.trans hn.symm)
        subst h
        simp [get?, entry?, he, hn]
      · simp_all [get?, entry?]

end Fields

/-- The fields of one instance at one moment. A field that the platform does not provide is left
out, never zero. -/
structure Snapshot where
  instanceName : String
  fields : Fields
deriving Repr

def Snapshot.value? (s : Snapshot) (name : String) : Option Value := s.fields.get? name

def Snapshot.field? (s : Snapshot) (name : String) : Option Float := (s.value? name).map (·.number)

end HostTelemetry
