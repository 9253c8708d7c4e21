import HostTelemetry.Proofs.FirstOccurrences
import HostTelemetry.Proofs.NumberOrder

/-!
# The list of processes

Every process of which the first file can be read gives one snapshot, in the order of the numbers of
the processes. Between the listing of the directory and the reading of the files a process may have
exited, and any of its files may be missing or hold anything; this concerns its own snapshot, and no
other one.
-/

namespace HostTelemetry

theorem Fields.get?_setIfSome (f : Fields) (name other : String) (value? : Option Value) :
    (f.setIfSome name value?).get? other =
      if name = other then value?.or (f.get? other) else f.get? other := by
  cases value? with
  | none => exact (ite_self _).symm
  | some value => exact f.get?_set name other value

namespace Kernel

open Decimal (limit32 natText)

/-! ### One process -/

def textAt? (files : Files) (p : Path) : Option String := (files.read p).toOption

def processDirectory (root : Path) (pid : Nat) : Path := root ++ [natText pid]

def processFields (pid : Nat) (ticks : Value) (resident? : Option Value) : Fields :=
  ((Fields.empty.set pidField (Float.ofNat pid)).set "cpu_ticks" ticks).setIfSome "rss_bytes"
    resident?

/-- The entry of a process: none if its first file is missing or has no name and ticks, and without
its memory if the other file is missing or does not give it. -/
def readableProcess? (files : Files) (directory : Path) (pid : Nat) : Option Entry := do
  let stat ← textAt? files (directory ++ ["stat"])
  let (name, ticks) ← processStat? stat
  let resident? := (textAt? files (directory ++ ["status"])).bind residentBytes?
  some (name, processFields pid ticks resident?)

def ProcessReading.result? : ProcessReading → Option Entry
  | .entry e => some e
  | .gone | .unreadable => none

/-- Whether the first file of a process is a text with its name and its ticks. -/
def HasStat (files : Files) (directory : Path) : Prop :=
  ∃ text, files.read (directory ++ ["stat"]) = .ok text ∧ (processStat? text).isSome = true

/-- What an entry says of a process: its number, the name and the ticks from its first file, and its
memory if the other file is a text that gives it. It says nothing else. -/
structure Describes (files : Files) (directory : Path) (pid : Nat) (e : Entry) : Prop where
  number : e.2.get? pidField = some (Float.ofNat pid)
  stat : ∃ text ticks, files.read (directory ++ ["stat"]) = .ok text ∧
    processStat? text = some (e.1, ticks) ∧ e.2.get? "cpu_ticks" = some ticks
  resident : ∀ v, e.2.get? "rss_bytes" = some v ↔
    ∃ text, files.read (directory ++ ["status"]) = .ok text ∧ residentBytes? text = some v
  nothing_else : ∀ field v, e.2.get? field = some v → field ∈ [pidField, "cpu_ticks", "rss_bytes"]

variable {files files' : Files} {root directory : Path} {pid : Nat}

theorem textAt?_eq_some_iff {p : Path} {text : String} :
    textAt? files p = some text ↔ files.read p = .ok text := by
  unfold textAt?
  cases files.read p <;> simp [Except.toOption]

theorem result?_readProcess (files : Files) (root : Path) (pid : Nat) :
    (readProcess files root pid).result? = readableProcess? files (processDirectory root pid) pid := by
  unfold readProcess readableProcess? textAt? processDirectory
  dsimp only
  cases files.read (root ++ [natText pid] ++ ["stat"]) with
  | error e => rfl
  | ok stat =>
    dsimp only [Except.toOption]
    cases hstat : processStat? stat with
    | none => simp [ProcessReading.result?, hstat]
    | some e =>
      cases files.read (root ++ [natText pid] ++ ["status"]) <;>
        simp [ProcessReading.result?, processFields, hstat]

theorem get?_processFields (pid : Nat) (ticks : Value) (resident? : Option Value) (field : String) :
    (processFields pid ticks resident?).get? field =
      if field = pidField then some ↑(Float.ofNat pid)
      else if field = "cpu_ticks" then some ticks
      else if field = "rss_bytes" then resident?
      else none := by
  have hempty : Fields.empty.get? field = none := rfl
  unfold processFields
  rw [Fields.get?_setIfSome, Fields.get?_set, Fields.get?_set, hempty]
  by_cases hpid : field = pidField
  · subst hpid
    rfl
  · by_cases hticks : field = "cpu_ticks"
    · subst hticks
      rfl
    · rw [if_neg (Ne.symm hticks), if_neg (Ne.symm hpid), if_neg hpid, if_neg hticks,
        Option.or_none]
      exact if_congr eq_comm rfl rfl

theorem describes_of_readableProcess? {e : Entry} (h : readableProcess? files directory pid = some e) :
    Describes files directory pid e := by
  obtain ⟨text, htext, h⟩ := Option.bind_eq_some_iff.1 h
  obtain ⟨⟨name, ticks⟩, hstat, h⟩ := Option.bind_eq_some_iff.1 h
  obtain rfl := Option.some.inj h
  exact {
    number := get?_processFields ..
    stat := ⟨text, ticks, textAt?_eq_some_iff.1 htext, hstat, get?_processFields ..⟩
    resident := fun v => by
      rw [get?_processFields]
      show Option.bind _ _ = some v ↔ _
      rw [Option.bind_eq_some_iff]
      exact exists_congr fun status => and_congr_left fun _ => textAt?_eq_some_iff
    nothing_else := fun field v hv => by
      rw [get?_processFields] at hv
      by_contra hnot
      simp only [List.mem_cons, List.not_mem_nil, or_false, not_or] at hnot
      simp [hnot] at hv }

theorem isSome_readableProcess? (pid : Nat) :
    (readableProcess? files directory pid).isSome = true ↔ HasStat files directory := by
  unfold readableProcess? HasStat
  rw [Option.isSome_iff_exists]
  simp only [Option.bind_eq_bind, Option.bind_eq_some_iff, textAt?_eq_some_iff,
    Option.isSome_iff_exists]
  constructor
  · rintro ⟨e, text, htext, stat, hstat, -⟩
    exact ⟨text, htext, stat, hstat⟩
  · rintro ⟨text, htext, stat, hstat⟩
    exact ⟨_, text, htext, stat, hstat, rfl⟩

/-! ### All processes -/

def processEntries (files : Files) (root : Path) (names : List String) : List (Nat × Entry) :=
  (processIds names).filterMap fun pid =>
    (readableProcess? files (processDirectory root pid) pid).map (pid, ·)

/-- Two moments that differ in nothing but the files of one process and its being listed. -/
structure SameButProcess (root : Path) (pid : Nat) (files files' : Files)
    (names names' : List String) : Prop where
  read : ∀ p, ¬processDirectory root pid <+: p → files'.read p = files.read p
  listed : ∀ name, name ≠ natText pid → (name ∈ names' ↔ name ∈ names)

variable {names names' : List String}

theorem mem_processEntries {e : Entry} :
    (pid, e) ∈ processEntries files root names ↔
      pid ∈ processIds names ∧ readableProcess? files (processDirectory root pid) pid = some e := by
  unfold processEntries
  rw [List.mem_filterMap]
  constructor
  · rintro ⟨p, hp, h⟩
    obtain ⟨e', he', heq⟩ := Option.map_eq_some_iff.1 h
    obtain ⟨rfl, rfl⟩ := Prod.mk.inj heq
    exact ⟨hp, he'⟩
  · rintro ⟨hpid, he⟩
    exact ⟨pid, hpid, by rw [he]; rfl⟩

theorem map_fst_processEntries (files : Files) (root : Path) (names : List String) :
    (processEntries files root names).map (·.1) = (processIds names).filter fun pid =>
      (readableProcess? files (processDirectory root pid) pid).isSome := by
  unfold processEntries
  rw [List.map_filterMap, ← List.filterMap_eq_filter]
  refine List.filterMap_congr fun pid _ => ?_
  cases h : readableProcess? files (processDirectory root pid) pid <;> simp [Option.guard, h]

theorem reading_processes (r : Roots) (hlist : files.list r.proc = .ok names) :
    (r.reading files ⟨.process, .all⟩).result =
      .ok ((processEntries files r.proc names).map fun p => ⟨p.2.1, p.2.2⟩) := by
  have hentries : (readProcesses files r.proc).result =
      .ok ((processEntries files r.proc names).map (·.2)) := by
    unfold readProcesses processEntries
    rw [hlist]
    dsimp only
    rw [List.filterMap_map, List.map_filterMap]
    congr 1
    refine List.filterMap_congr fun pid _ => ?_
    rw [← result?_readProcess]
    dsimp only [Function.comp_apply]
    cases readProcess files r.proc pid <;> rfl
  rw [r.reading_all]
  unfold Roots.entries
  dsimp only
  rw [hentries]
  simp [Except.map]

/-- A process does not depend on the files of another one. -/
theorem SameButProcess.readableProcess?_eq {other : Nat}
    (h : SameButProcess root pid files files' names names') (hne : other ≠ pid) :
    readableProcess? files' (processDirectory root other) other =
      readableProcess? files (processDirectory root other) other := by
  have hread : ∀ name, textAt? files' (processDirectory root other ++ [name]) =
      textAt? files (processDirectory root other ++ [name]) := by
    intro name
    unfold textAt?
    rw [h.read]
    rintro ⟨rest, hrest⟩
    unfold processDirectory at hrest
    rw [List.append_assoc, List.append_assoc, List.append_cancel_left_eq] at hrest
    exact hne (Decimal.natText_injective (List.cons.inj hrest).1).symm
  unfold readableProcess?
  rw [hread, hread]

theorem SameButProcess.processIds_eq (h : SameButProcess root pid files files' names names')
    (hnames : CanonicalNames names) (hnames' : CanonicalNames names') :
    (processIds names').filter (· ≠ pid) = (processIds names).filter (· ≠ pid) := by
  -- The names may come in another order, but the numbers are in theirs.
  refine eq_of_ascending (hnames'.ascending_processIds.filter _)
    (hnames.ascending_processIds.filter _) fun other => ?_
  simp only [List.mem_filter, decide_eq_true_eq, hnames.mem_processIds, hnames'.mem_processIds]
  refine and_congr_left fun hne => and_congr_right fun _ => h.listed _ ?_
  exact fun heq => hne (Decimal.natText_injective heq)

theorem SameButProcess.processEntries_eq (h : SameButProcess root pid files files' names names')
    (hnames : CanonicalNames names) (hnames' : CanonicalNames names') :
    (processEntries files' root names').filter (·.1 ≠ pid) =
      (processEntries files root names).filter (·.1 ≠ pid) := by
  have hfilter (files : Files) (names : List String) :
      (processEntries files root names).filter (·.1 ≠ pid) =
        ((processIds names).filter (· ≠ pid)).filterMap fun other =>
          (readableProcess? files (processDirectory root other) other).map (other, ·) := by
    unfold processEntries
    rw [List.filter_filterMap, List.filterMap_filter]
    refine List.filterMap_congr fun other _ => ?_
    by_cases hne : other = pid <;>
      cases readableProcess? files (processDirectory root other) other <;> simp [hne]
  rw [hfilter, hfilter, h.processIds_eq hnames hnames']
  refine List.filterMap_congr fun other hother => ?_
  rw [h.readableProcess?_eq (of_decide_eq_true (List.mem_filter.1 hother).2)]

/-- Where names that are numbers are written as numbers are, the processes are read in strictly
ascending order, just those that are listed and have a readable first file, each of them as its own
files describe it; and what happens to one process changes the entry of no other. -/
theorem processes_listed (r : Roots) (hlist : files.list r.proc = .ok names)
    (hnames : CanonicalNames names) :
    (r.reading files ⟨.process, .all⟩).result =
        .ok ((processEntries files r.proc names).map fun p => ⟨p.2.1, p.2.2⟩) ∧
      ((processEntries files r.proc names).map (·.1)).Pairwise (· < ·) ∧
      (∀ pid, pid ∈ (processEntries files r.proc names).map (·.1) ↔
        pid < limit32 ∧ natText pid ∈ names ∧ HasStat files (processDirectory r.proc pid)) ∧
      (∀ pid e, (pid, e) ∈ processEntries files r.proc names →
        Describes files (processDirectory r.proc pid) pid e) ∧
      ∀ pid files' names', CanonicalNames names' →
        SameButProcess r.proc pid files files' names names' →
        (processEntries files' r.proc names').filter (·.1 ≠ pid) =
          (processEntries files r.proc names).filter (·.1 ≠ pid) := by
  refine ⟨reading_processes r hlist, ?_, fun pid => ?_, fun pid e he => ?_, ?_⟩
  · rw [map_fst_processEntries]
    exact hnames.ascending_processIds.filter _
  · rw [map_fst_processEntries, List.mem_filter, hnames.mem_processIds, isSome_readableProcess?,
      and_assoc]
  · exact describes_of_readableProcess? (mem_processEntries.1 he).2
  · exact fun pid files' names' hnames' hsame => hsame.processEntries_eq hnames hnames'

/-! ### A directory of processes -/

/-- The files without those of a process, which is not listed any more. -/
def withoutProcess (files : Files) (root : Path) (pid : Nat) : Files where
  read p := if processDirectory root pid <+: p then .error .notFound else files.read p
  list p := (files.list p).map fun names => names.filter (· ≠ natText pid)

theorem sameButProcess_withoutProcess (files : Files) (root : Path) (pid : Nat)
    (names : List String) :
    SameButProcess root pid files (withoutProcess files root pid) names
      (names.filter (· ≠ natText pid)) where
  read _ hp := if_neg hp
  listed name hne := by simp [List.mem_filter, hne]

theorem CanonicalNames.filter (h : CanonicalNames names) (p : String → Bool) :
    CanonicalNames (names.filter p) where
  distinct := h.distinct.filter p
  canonical name hname := h.canonical name (List.mem_of_mem_filter hname)

theorem nodup_of_list {t : FileTree} {p : Path} (h : t.toFiles.list p = .ok names) :
    names.Nodup := by
  unfold FileTree.toFiles FileTree.list at h
  dsimp only at h
  split at h
  · cases h
    exact nodup_eraseDups _
  · split at h <;> cases h

/-- Whether the names that are numbers are written as numbers are. -/
def isCanonical (names : List String) : Bool :=
  names.all fun name =>
    (Decimal.readNatural? limit32 name.toList).all fun pid => name == natText pid

theorem canonicalNames_of_isCanonical (hdistinct : names.Nodup) (h : isCanonical names = true) :
    CanonicalNames names where
  distinct := hdistinct
  canonical name hname pid hread := by
    have hall := List.all_eq_true.1 h name hname
    rw [hread] at hall
    exact eq_of_beq hall

/-- Two processes that can be read, one of them without its memory, one that is no text, one that
has exited, and three names that are no process. -/
def processTree : FileTree where
  files := [
    (["proc", "12", "stat"], "12 (a) b) S 1 1 1 0 -1 0 0 0 0 0 7 2 0 0 20 0".toUTF8),
    (["proc", "12", "status"], "Name:\ta\nVmSize: 9 kB\n".toUTF8),
    (["proc", "4294967296", "stat"], "1 (c) S 1 1 1 0 -1 0 0 0 0 0 1 1 0 0 20 0".toUTF8),
    (["proc", "5", "stat"], ⟨#[255]⟩),
    (["proc", "9", "stat"], "9 (sh) S 1 1 1 0 -1 0 0 0 0 0 1 4 0 0 20 0".toUTF8),
    (["proc", "9", "status"], "Name:\tsh\nVmRSS:\t 2 kB\n".toUTF8),
    (["proc", "stat"], "cpu 1 2 3 4\n".toUTF8)]
  directories := [["proc", "700"], ["proc", "self"]]

theorem processes_listed_processTree :
    let files := processTree.toFiles
    let names := ["12", "4294967296", "5", "9", "stat", "700", "self"]
    files.list ["proc"] = .ok names ∧ CanonicalNames names ∧
      (processEntries files ["proc"] names).map (·.1) = [9, 12] ∧
      (processEntries (withoutProcess files ["proc"] 9) ["proc"]
        (names.filter (· ≠ natText 9))).filter (·.1 ≠ 9) =
        (processEntries files ["proc"] names).filter (·.1 ≠ 9) := by
  intro files names
  have hlist : files.list ["proc"] = .ok names := by decide +kernel
  have hnames : CanonicalNames names :=
    canonicalNames_of_isCanonical (nodup_of_list hlist) (by decide +kernel)
  obtain ⟨-, -, -, -, hframe⟩ := processes_listed ⟨["proc"], ["sys"]⟩ hlist hnames
  exact ⟨hlist, hnames, by decide +kernel, hframe 9 _ _ (hnames.filter _)
    (sameButProcess_withoutProcess files ["proc"] 9 names)⟩

end Kernel

end HostTelemetry
