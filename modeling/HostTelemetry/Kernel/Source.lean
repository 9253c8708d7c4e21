import HostTelemetry.Counter.Catalog
import HostTelemetry.Counter.Source
import HostTelemetry.Kernel.Tables
import HostTelemetry.Text.Quoted

/-!
# The kernel as a source of counters

Reads every family from the files below two directories, in the live system `/proc` and `/sys`.
Processes are read in the order of their ids and thermal zones in the order of their numbers; one
that cannot be read is left out and disturbs no other.
-/

namespace HostTelemetry.Kernel

structure Roots where
  proc : Path
  sys : Path
deriving DecidableEq, Repr

def Roots.live : Roots := ⟨["", "proc"], ["", "sys"]⟩

def Roots.describe (r : Roots) : String :=
  "ProcfsCounterSource \x7b proc_root: " ++ Text.quoted r.proc.text ++ ", sys_root: " ++
    Text.quoted r.sys.text ++ " \x7d"

/-- The entries of a family, or why there are none, and what was said meanwhile. -/
structure Listing where
  result : Except SourceError (List Entry)
  notices : List Event := []

/-- The text of a file, the error naming its path. -/
def readText (files : Files) (p : Path) : Except SourceError String :=
  match files.read p with
  | .ok text => .ok text
  | .error e => .error (.io p.text e)

/-- Inserts a pair before the first one with a larger number. -/
def insertByNumber {α : Type} (x : Nat × α) : List (Nat × α) → List (Nat × α)
  | [] => [x]
  | y :: r => if x.1 < y.1 then x :: y :: r else y :: insertByNumber x r

/-- Pairs in the order of their numbers; pairs of one number keep their order. -/
def sortByNumber {α : Type} (l : List (Nat × α)) : List (Nat × α) :=
  l.foldl (fun sorted x => insertByNumber x sorted) []

/-! ### Processes -/

/-- What a directory of a process gives: nothing if its first file cannot be read. -/
inductive ProcessReading where
  | gone
  | unreadable
  | entry (e : Entry)

def readProcess (files : Files) (root : Path) (pid : Nat) : ProcessReading :=
  let directory := root ++ [Decimal.natText pid]
  match files.read (directory ++ ["stat"]) with
  | .error _ => .gone
  | .ok text =>
    match processStat? text with
    | none => .unreadable
    | some (name, ticks) =>
      let resident := match files.read (directory ++ ["status"]) with
        | .ok status => residentBytes? status
        | .error _ => none
      let fields := (Fields.empty.set pidField (Float.ofNat pid)).set "cpu_ticks" ticks
      .entry (name, fields.setIfSome "rss_bytes" resident)

/-- The process ids among the names in a directory, in ascending order. -/
def processIds (names : List String) : List Nat :=
  let ids := names.filterMap fun n => Decimal.readNatural? Decimal.limit32 n.toList
  (sortByNumber (ids.map fun i => (i, ()))).map (·.1)

/-- Every process whose files can be read. -/
def readProcesses (files : Files) (root : Path) : Listing :=
  match files.list root with
  | .error e => ⟨.error (.io root.text e), []⟩
  | .ok names =>
    let readings := (processIds names).map fun pid => (pid, readProcess files root pid)
    { result := .ok <| readings.filterMap fun r =>
        match r.2 with
        | .entry e => some e
        | _ => none
      notices := readings.filterMap fun r =>
        match r.2 with
        | .unreadable =>
          let stat := root ++ [Decimal.natText r.1, "stat"]
          some ⟨.debug, .kernel, "Could not parse " ++ Path.text stat⟩
        | _ => none }

/-! ### Thermal zones -/

/-- The number and the directory name of a thermal zone. -/
def zoneNumber? (name : String) : Option (Nat × String) :=
  ((afterLead? "thermal_zone" name.toList).bind (Decimal.readNatural? Decimal.limit32)).map
    fun n => (n, name)

def zoneTemperature? (files : Files) (zone : Path) : Option Value :=
  match files.read (zone ++ ["temp"]) with
  | .ok text => Value.read? (Text.trim text.toList)
  | .error _ => none

def zoneType (files : Files) (zone : Path) : String :=
  match files.read (zone ++ ["type"]) with
  | .ok text => Text.trimmed text
  | .error _ => ""

/-- The name of a zone: its type, or its number if it has none, and its number once more if an
earlier zone has that name already. -/
def zoneName (taken : List String) (number : Nat) (type : String) : String :=
  let name := if type.isEmpty then "thermal_zone" ++ Decimal.natText number else type
  if taken.contains name then name ++ " " ++ Decimal.natText number else name

/-- Reads zones in order, after zones with the names `taken`. -/
def readZones (files : Files) (root : Path) (taken : List String) :
    List (Nat × String) → List Entry × List Event
  | [] => ([], [])
  | (number, directory) :: rest =>
    let zone := root ++ [directory]
    match zoneTemperature? files zone with
    | none =>
      let (entries, events) := readZones files root taken rest
      (entries, ⟨.debug, .kernel, "No temperature reading in " ++ Path.text zone⟩ :: events)
    | some t =>
      let name := zoneName taken number (zoneType files zone)
      let (entries, events) := readZones files root (taken ++ [name]) rest
      ((name, Fields.empty.set "temp_millicelsius" t) :: entries, events)

def readThermalZones (files : Files) (sys : Path) : Listing :=
  let root := sys ++ ["class", "thermal"]
  match files.list root with
  | .error e => ⟨.error (.io root.text e), []⟩
  | .ok names =>
    let (entries, events) := readZones files root [] (sortByNumber (names.filterMap zoneNumber?))
    ⟨.ok entries, events⟩

/-! ### All families -/

def Roots.entries (r : Roots) (files : Files) : Family → Listing
  | .memory => ⟨(readText files (r.proc ++ ["meminfo"])).map fun t => [("", memoryFields t)], []⟩
  | .cpu =>
    let path := r.proc ++ ["stat"]
    ⟨do let table := processorTable (← readText files path)
        if table.isEmpty then .error (.parse path.text "no cpu lines") else .ok table, []⟩
  | .disk => ⟨(readText files (r.proc ++ ["diskstats"])).map diskTable, []⟩
  | .network => ⟨(readText files (r.proc ++ ["net", "dev"])).map interfaceTable, []⟩
  | .process => readProcesses files r.proc
  | .thermal => readThermalZones files r.sys
  | .tcp =>
    let path := r.proc ++ ["net", "snmp"]
    ⟨do match transportFields? (← readText files path) with
        | some f => .ok [("", f)]
        | none => .error (.parse path.text "no Tcp section"), []⟩

/-- Reads a family: its entries as snapshots, of the instances that are asked for. -/
def Roots.reading (r : Roots) (files : Files) (read : Read) : Reading :=
  let listing := r.entries files read.family
  { result := listing.result.map fun entries =>
      (entries.filter fun e => read.selector.admits e.1).map fun e => ⟨e.1, e.2⟩
    notices := listing.notices }

theorem Roots.reading_all (r : Roots) (files : Files) (family : Family) :
    (r.reading files ⟨family, .all⟩).result =
      (r.entries files family).result.map fun entries => entries.map fun e => ⟨e.1, e.2⟩ := by
  have hall (entries : List Entry) : (entries.filter fun e => Selector.all.admits e.1) = entries :=
    List.filter_eq_self.2 fun _ _ => rfl
  simp only [reading, hall]

def Roots.source (r : Roots) (files : Files) : CounterSource where
  read _ read := r.reading files read

/-! ### Two moments -/

/-- Whether the next read of a family falls to the first of two moments: the moments take turns,
and a read that fails is repeated at the same moment. -/
def atFirstMoment (files : Files) (first second : Roots) (family : Family) (earlier : List Read) :
    Bool :=
  earlier.foldl
    (fun atFirst read =>
      if read.family = family then
        let roots := if atFirst then first else second
        match (roots.reading files read).result with
        | .ok _ => !atFirst
        | .error _ => atFirst
      else atFirst)
    true

/-- The kernel as seen at two moments in turn, the families that are read once at the second. -/
def twoMoments (files : Files) (first second : Roots) (supports : Family → Bool) :
    CounterSource where
  supports := supports
  read earlier read :=
    match read.family.spec.cadence with
    | .instantaneous => second.reading files read
    | .cumulative =>
      if atFirstMoment files first second read.family earlier then first.reading files read
      else second.reading files read

end HostTelemetry.Kernel
