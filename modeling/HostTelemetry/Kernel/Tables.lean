import HostTelemetry.Counter.Snapshot
import HostTelemetry.Text.Blank
import HostTelemetry.Text.Cut

/-!
# Tables of the kernel

The text files in which the kernel publishes counters, read line by line. A column that is missing
or is no number gives no field; it never moves another column. Sizes in kibibytes and in sectors
become bytes.
-/

namespace HostTelemetry.Kernel

open Text (lines words firstWord trim cutFirst cutLast)

abbrev Entry := String × Fields

def sectorBytes : Float := 512.0

def kibibyte : Float := 1024.0

/-- The rest of a line after its first characters `lead`. -/
def afterLead? (lead : String) (line : List Char) : Option (List Char) :=
  lead.toList.isPrefixOf? line

/-- The number at the start of a text, blanks skipped. -/
def firstNumber? (s : List Char) : Option Value := (firstWord s).bind Value.read?

/-! ### Memory -/

/-- The difference of two sizes, and 0 rather than a negative or undefined one. -/
def sizeDifference (a b : Float) : Float := if a - b > 0.0 then a - b else 0.0

/-- The name and the size in bytes on a line such as `MemTotal: 8000 kB`. -/
def memoryLine? (line : List Char) : Option (String × Value) := do
  let (name, rest) ← cutFirst ':' line
  let size ← firstNumber? rest
  some (String.ofList (trim name), size.scale kibibyte)

/-- Total, available and used memory in bytes; used memory only where the other two are known. -/
def memoryFields (text : String) : Fields :=
  let sizes := Fields.ofList ((lines text.toList).filterMap memoryLine?)
  let total := sizes.get? "MemTotal"
  let available := sizes.get? "MemAvailable"
  let used := do
    let t ← total
    let a ← available
    some ↑(sizeDifference t.number a.number)
  ((Fields.empty.setIfSome "total_bytes" total).setIfSome "available_bytes" available).setIfSome
    "used_bytes" used

/-! ### Processors -/

/-- Busy and total ticks from the columns that are numbers, of the first eight after the label.
The fourth and fifth of them are idle time. -/
def processorFields? (columns : List (List Char)) : Option Fields :=
  match (columns.take 8).filterMap Value.read? with
  | a :: b :: c :: idle :: rest =>
    let total := Value.sum (a :: b :: c :: idle :: rest)
    let resting := idle + rest.headD (0.0 : Float)
    some ((Fields.empty.set "busy_ticks" (total - resting)).set "total_ticks" total)
  | _ => none

/-- The entry on one line: the line of all processors is the system-wide instance. -/
def processorLine? (line : List Char) : Option Entry :=
  match words line with
  | [] => none
  | label :: columns =>
    if "cpu".toList.isPrefixOf label then
      let name := if label = "cpu".toList then "" else String.ofList label
      (processorFields? columns).map fun f => (name, f)
    else none

def processorTable (text : String) : List Entry := (lines text.toList).filterMap processorLine?

/-! ### Disks -/

/-- The leads of the names of devices that carry no data of their own. -/
def ignoredDevices : List String := ["loop", "ram"]

/-- The entry on one line of at least twelve columns, the third being the name. -/
def diskLine? (line : List Char) : Option Entry :=
  match words line with
  | _ :: _ :: name :: reads :: _ :: sectorsRead :: readTime :: writes :: _ :: sectorsWritten ::
      writeTime :: inProgress :: _ =>
    if ignoredDevices.any fun d => d.toList.isPrefixOf name then none
    else
      let bytes (column : List Char) := (Value.read? column).map (·.scale sectorBytes)
      let fields := Fields.empty
        |>.setIfSome "reads" (Value.read? reads)
        |>.setIfSome "read_bytes" (bytes sectorsRead)
        |>.setIfSome "read_time_ms" (Value.read? readTime)
        |>.setIfSome "writes" (Value.read? writes)
        |>.setIfSome "write_bytes" (bytes sectorsWritten)
        |>.setIfSome "write_time_ms" (Value.read? writeTime)
        |>.setIfSome "in_progress" (Value.read? inProgress)
      some (String.ofList name, fields)
  | _ => none

def diskTable (text : String) : List Entry := (lines text.toList).filterMap diskLine?

/-! ### Interfaces -/

/-- The columns after the colon that are published, by position. -/
def interfaceColumns : List (Nat × String) :=
  [(0, "rx_bytes"), (1, "rx_packets"), (2, "rx_errors"), (3, "rx_drops"),
    (8, "tx_bytes"), (9, "tx_packets"), (10, "tx_errors"), (11, "tx_drops")]

/-- The entry on a line `name: columns`. Header lines have a bar in the place of the name. -/
def interfaceLine? (line : List Char) : Option Entry := do
  let (name, rest) ← cutFirst ':' line
  let name := trim name
  if name.contains '|' || name.isEmpty then none
  else
    let columns := words rest
    let fields := interfaceColumns.foldl
      (fun f c => f.setIfSome c.2 (columns[c.1]?.bind Value.read?)) Fields.empty
    some (String.ofList name, fields)

def interfaceTable (text : String) : List Entry := (lines text.toList).filterMap interfaceLine?

/-! ### Transport -/

/-- The values under their names, the two lines of words being matched by position. -/
def pairUp (names values : List (List Char)) : Fields :=
  Fields.ofList <| (names.zip values).filterMap fun p =>
    (Value.read? p.2).map fun v => (String.ofList p.1, v)

/-- The counters of the first two lines that start with `Tcp:`, names first. -/
def transportFields? (text : String) : Option Fields :=
  match (lines text.toList).filterMap (afterLead? "Tcp:") with
  | names :: values :: _ => some (pairUp (words names) (words values))
  | _ => none

/-! ### Processes -/

/-- The command name and the processor ticks of a process. The name stands between the first
opening and the last closing parenthesis, and may hold blanks and parentheses itself; the two
times are the twelfth and thirteenth words after it. -/
def processStat? (text : String) : Option (String × Value) := do
  let (_, rest) ← cutFirst '(' text.toList
  let (name, rest) ← cutLast ')' rest
  let columns := words rest
  let user ← columns[11]?.bind Value.read?
  let system ← columns[12]?.bind Value.read?
  some (String.ofList name, user + system)

/-- The resident memory of a process in bytes, from the first line that starts with `VmRSS:`. -/
def residentBytes? (text : String) : Option Value := do
  let rest ← (lines text.toList).findSome? (afterLead? "VmRSS:")
  let size ← firstNumber? rest
  some (size.scale kibibyte)

end HostTelemetry.Kernel
