import KtBridge.Foundation.Sweeping
import KtBridge.Registry.Identity

/-! # Reaping the servers of dead JVMs

`reapOrphans` reads the record files of other JVMs and kills what the dead ones left behind. The
process table does not change during the call. -/

namespace KtBridge.Registry

open Foundation

/-- What a `ProcessHandle` tells of a process. -/
structure Process where
  isAlive : Bool
  startMillis : Option Int64

/-- The processes of the machine, by pid, the calling JVM among them. A process may survive
`destroyForcibly`. -/
structure ProcessTable where
  of : Int64 → Option Process
  current : Int64
  self : Process
  current_of : of current = some self
  current_isAlive : self.isAlive = true
  current_nonneg : 0 ≤ current
  destroyable : Int64 → Bool

namespace ProcessTable

/-- Destroying the calling process throws. -/
def destroyForcibly (table : ProcessTable) (pid : Int64) : Except Unit Bool :=
  if pid = table.current then .error () else .ok (table.destroyable pid)

end ProcessTable

namespace OwnerKey

def current (table : ProcessTable) : OwnerKey :=
  ⟨table.current, table.self.startMillis.getD 0⟩

def isAlive (table : ProcessTable) (owner : OwnerKey) : Bool :=
  match table.of owner.pid with
  | none => false
  | some process =>
      if process.isAlive then
        process.startMillis = none ∨ owner.startMillis = 0 ∨
          process.startMillis = some owner.startMillis
      else false

end OwnerKey

namespace ProcessRecord

def of (table : ProcessTable) (pid : Int64) : Option ProcessRecord :=
  (table.of pid).map fun process => ⟨pid, process.startMillis.getD 0⟩

/-- The pid of the live process that a record refers to. -/
def liveProcess (table : ProcessTable) (record : ProcessRecord) : Option Int64 :=
  match table.of record.pid with
  | none => none
  | some process =>
      if process.isAlive then
        match process.startMillis with
        | none => none
        | some actualStart =>
            if record.startMillis = 0 ∨ actualStart ≠ record.startMillis then none
            else some record.pid
      else none

end ProcessRecord

/-- A file of the registry directory, without lines where it cannot be read. -/
structure RecordFile where
  name : List Char
  lines : Option (List (List Char))

/-- What a call did: the processes it destroyed, how many of them it counts, and the files it
deleted. -/
structure Reaping where
  destroyed : List Int64
  killed : Nat
  deleted : List (List Char)

def ownRecordFile (table : ProcessTable) : List Char := (OwnerKey.current table).fileName

def reapLine (table : ProcessTable) (reaping : Reaping) (line : List Char) :
    Except Reaping Reaping :=
  match ProcessRecord.parse line with
  | none => .ok reaping
  | some record =>
      match record.liveProcess table with
      | none => .ok reaping
      | some pid =>
          match table.destroyForcibly pid with
          | .error _ => .error reaping
          | .ok died => .ok
              { reaping with
                destroyed := reaping.destroyed ++ [pid]
                killed := if died then reaping.killed + 1 else reaping.killed }

/-- Reap one file. Deleting it succeeds; the exception that is caught where it fails is left out. -/
def reapFile (table : ProcessTable) (reaping : Reaping) (file : RecordFile) :
    Except Reaping Reaping :=
  if file.name = ownRecordFile table then .ok reaping
  else
    match OwnerKey.parse file.name with
    | none => .ok reaping
    | some owner =>
        if owner.isAlive table then .ok reaping
        else
          match file.lines with
          | none => .ok reaping
          | some lines =>
              match lines.foldlM (reapLine table) reaping with
              | .error reaping => .error reaping
              | .ok reaping => .ok { reaping with deleted := reaping.deleted ++ [file.name] }

/-- Reap the registry directory, if there is one. -/
def reapOrphans (table : ProcessTable) (directory : Option (List RecordFile)) :
    Except Reaping Reaping :=
  match directory with
  | none => .ok ⟨[], 0, []⟩
  | some files =>
      (files.filter fun file => recordSuffix.isSuffixOf file.name).foldlM (reapFile table)
        ⟨[], 0, []⟩

/-! ## Who is dead, and who is recorded -/

/-- Whether an owner is a live JVM. A start time unknown on either side counts as a match. -/
def Alive (table : ProcessTable) (owner : OwnerKey) : Prop :=
  ∃ process, table.of owner.pid = some process ∧ process.isAlive = true ∧
    (process.startMillis = none ∨ owner.startMillis = 0 ∨
      process.startMillis = some owner.startMillis)

/-- Whether a line records a live process whose start time is known. -/
def Names (table : ProcessTable) (line : List Char) (pid : Int64) : Prop :=
  ∃ record process, ProcessRecord.parse line = some record ∧ record.pid = pid ∧
    record.startMillis ≠ 0 ∧ table.of pid = some process ∧ process.isAlive = true ∧
      process.startMillis = some record.startMillis

/-- Whether a file is a readable record file of a dead JVM. -/
structure Orphaned (table : ProcessTable) (file : RecordFile) (lines : List (List Char)) :
    Prop where
  named : recordSuffix <:+ file.name
  other : file.name ≠ ownRecordFile table
  readable : file.lines = some lines
  dead : ∃ owner, OwnerKey.parse file.name = some owner ∧ ¬Alive table owner

/-- Whether a dead JVM's file records a process. -/
def Recorded (table : ProcessTable) (files : List RecordFile) (pid : Int64) : Prop :=
  ∃ file ∈ files, ∃ lines, Orphaned table file lines ∧ ∃ line ∈ lines, Names table line pid

section Checks

variable {table : ProcessTable}

theorem isAlive_iff (owner : OwnerKey) : owner.isAlive table = true ↔ Alive table owner := by
  unfold OwnerKey.isAlive Alive
  cases table.of owner.pid with
  | none => simp
  | some process => cases alive : process.isAlive <;> simp [alive]

theorem liveProcess_eq_some {record : ProcessRecord} {pid : Int64} :
    record.liveProcess table = some pid ↔
      ∃ process, record.pid = pid ∧ record.startMillis ≠ 0 ∧ table.of pid = some process ∧
        process.isAlive = true ∧ process.startMillis = some record.startMillis := by
  constructor
  · intro live
    unfold ProcessRecord.liveProcess at live
    split at live
    · cases live
    · next process found =>
        split at live
        · next alive =>
            split at live
            · cases live
            · next actualStart known =>
                split at live
                · cases live
                · next same =>
                    cases live
                    obtain ⟨nonzero, start⟩ := not_or.mp same
                    exact ⟨process, rfl, nonzero, found, alive, not_not.mp start ▸ known⟩
        · cases live
  · rintro ⟨process, rfl, nonzero, found, alive, start⟩
    simp [ProcessRecord.liveProcess, found, alive, start, nonzero]

/-- A line destroys the process it records, or throws where that is the calling one. -/
theorem reapLine_cases (table : ProcessTable) (reaping : Reaping) (line : List Char) :
    ((∀ pid, ¬Names table line pid) ∧ reapLine table reaping line = .ok reaping) ∨
    (Names table line table.current ∧ reapLine table reaping line = .error reaping) ∨
    ∃ pid killed, Names table line pid ∧ pid ≠ table.current ∧ (∀ other, Names table line other →
      other = pid) ∧ reapLine table reaping line =
        .ok ⟨reaping.destroyed ++ [pid], killed, reaping.deleted⟩ := by
  unfold reapLine
  cases parsed : ProcessRecord.parse line with
  | none =>
      refine .inl ⟨?_, rfl⟩
      rintro pid ⟨record, process, read, -⟩
      cases parsed.symm.trans read
  | some record =>
      have unique : ∀ pid, Names table line pid ↔ record.liveProcess table = some pid := by
        intro pid
        rw [liveProcess_eq_some]
        constructor
        · rintro ⟨other, process, read, rest⟩
          obtain rfl := Option.some.inj (parsed.symm.trans read)
          exact ⟨process, rest⟩
        · rintro ⟨process, rest⟩
          exact ⟨record, process, parsed, rest⟩
      cases live : record.liveProcess table with
      | none =>
          refine .inl ⟨fun pid names => ?_, by simp only [live]⟩
          cases live.symm.trans ((unique pid).mp names)
      | some pid =>
          have names := (unique pid).mpr live
          by_cases own : pid = table.current
          · subst own
            exact .inr (.inl ⟨names, by simp [live, ProcessTable.destroyForcibly]⟩)
          · refine .inr (.inr ⟨pid, _, names, own, fun other others => ?_,
              by simp only [live, ProcessTable.destroyForcibly, if_neg own]; rfl⟩)
            exact Option.some.inj (((unique other).mp others).symm.trans live)

/-- A file is passed by, or its lines are reaped and then it is deleted. -/
theorem reapFile_cases (table : ProcessTable) (reaping : Reaping) (file : RecordFile)
    (named : recordSuffix <:+ file.name) :
    ((∀ lines, ¬Orphaned table file lines) ∧ reapFile table reaping file = .ok reaping) ∨
    ∃ lines, Orphaned table file lines ∧
      ((∃ stopped, lines.foldlM (reapLine table) reaping = .error stopped ∧
          reapFile table reaping file = .error stopped) ∨
        ∃ reaped, lines.foldlM (reapLine table) reaping = .ok reaped ∧
          reapFile table reaping file =
            .ok { reaped with deleted := reaped.deleted ++ [file.name] }) := by
  unfold reapFile
  by_cases own : file.name = ownRecordFile table
  · exact .inl ⟨fun lines orphaned => orphaned.other own, if_pos own⟩
  rw [if_neg own]
  cases parsed : OwnerKey.parse file.name with
  | none =>
      refine .inl ⟨fun lines orphaned => ?_, rfl⟩
      obtain ⟨owner, read, -⟩ := orphaned.dead
      cases parsed.symm.trans read
  | some owner =>
      by_cases alive : owner.isAlive table = true
      · refine .inl ⟨fun lines orphaned => ?_, if_pos alive⟩
        obtain ⟨other, read, dead⟩ := orphaned.dead
        obtain rfl := Option.some.inj (parsed.symm.trans read)
        exact dead ((isAlive_iff owner).mp alive)
      · simp only [if_neg alive]
        cases readable : file.lines with
        | none =>
            refine .inl ⟨fun lines orphaned => ?_, rfl⟩
            cases readable.symm.trans orphaned.readable
        | some lines =>
            refine .inr ⟨lines, ⟨named, own, readable, owner, parsed,
              mt (isAlive_iff owner).mpr alive⟩, ?_⟩
            cases ended : lines.foldlM (reapLine table) reaping with
            | error stopped => exact .inl ⟨stopped, rfl, by simp only [ended]⟩
            | ok reaped => exact .inr ⟨reaped, rfl, by simp only [ended]⟩

end Checks

/-! ## Every orphan is reaped, and nothing else -/

/-- What a call did is justified by the files. -/
structure Justified (table : ProcessTable) (files : List RecordFile) (reaping : Reaping) :
    Prop where
  destroyed : ∀ pid ∈ reaping.destroyed, Recorded table files pid ∧ pid ≠ table.current
  deleted : ∀ name ∈ reaping.deleted, ∃ file ∈ files, file.name = name ∧
    ∃ lines, Orphaned table file lines

/-- Whether a file that is orphaned was dealt with. -/
structure Settled (table : ProcessTable) (file : RecordFile) (reaping : Reaping) : Prop where
  destroyed : ∀ lines, Orphaned table file lines → ∀ line ∈ lines, ∀ pid, Names table line pid →
    pid ∈ reaping.destroyed
  deleted : ∀ lines, Orphaned table file lines → file.name ∈ reaping.deleted

section Runs

variable {table : ProcessTable} {files : List RecordFile}

theorem reapLine_justified {file : RecordFile} {lines : List (List Char)} {line : List Char}
    (present : file ∈ files) (orphaned : Orphaned table file lines) (member : line ∈ lines)
    (reaping : Reaping) (justified : Justified table files reaping) :
    Justified table files (done (reapLine table reaping line)) := by
  obtain ⟨-, skipped⟩ | ⟨-, thrown⟩ | ⟨pid, killed, names, other, -, reaped⟩ :=
    reapLine_cases table reaping line
  · rwa [skipped]
  · rwa [thrown]
  · rw [reaped]
    refine ⟨fun victim destroyed => ?_, justified.deleted⟩
    obtain before | now := List.mem_append.mp destroyed
    · exact justified.destroyed victim before
    · obtain rfl := List.mem_singleton.mp now
      exact ⟨⟨file, present, lines, orphaned, line, member, names⟩, other⟩

theorem reapFile_justified {file : RecordFile} (present : file ∈ files)
    (named : recordSuffix <:+ file.name) (reaping : Reaping)
    (justified : Justified table files reaping) :
    Justified table files (done (reapFile table reaping file)) := by
  obtain ⟨-, skipped⟩ | ⟨lines, orphaned, run⟩ := reapFile_cases table reaping file named
  · rwa [skipped]
  have kept := foldlM_keeps (Justified table files)
    (fun line member before => reapLine_justified present orphaned member before) reaping justified
  obtain ⟨stopped, ended, outcome⟩ | ⟨reaped, ended, outcome⟩ := run
  · rw [ended] at kept
    rwa [outcome]
  · rw [ended] at kept
    rw [outcome]
    refine ⟨kept.destroyed, fun name deleted => ?_⟩
    obtain before | now := List.mem_append.mp deleted
    · exact kept.deleted name before
    · exact ⟨file, present, (List.mem_singleton.mp now).symm, lines, orphaned⟩

/-- What is destroyed stays in the account. -/
theorem reapLine_destroyed (reaping : Reaping) (line : List Char) {pid : Int64}
    (destroyed : pid ∈ reaping.destroyed) :
    pid ∈ (done (reapLine table reaping line)).destroyed := by
  obtain ⟨-, skipped⟩ | ⟨-, thrown⟩ | ⟨victim, killed, -, -, -, reaped⟩ :=
    reapLine_cases table reaping line
  · rwa [skipped]
  · rwa [thrown]
  · rw [reaped]
    exact List.mem_append_left _ destroyed

theorem reapLine_deleted (reaping : Reaping) (line : List Char) :
    (done (reapLine table reaping line)).deleted = reaping.deleted := by
  obtain ⟨-, skipped⟩ | ⟨-, thrown⟩ | ⟨victim, killed, -, -, -, reaped⟩ :=
    reapLine_cases table reaping line
  · rw [skipped, done_ok]
  · rw [thrown, done_error]
  · rw [reaped, done_ok]

/-- Lines that were read to the end destroyed every process they record. -/
theorem reapLines_destroyed {lines : List (List Char)} {reaping reaped : Reaping}
    (ended : lines.foldlM (reapLine table) reaping = .ok reaped) :
    ∀ line ∈ lines, ∀ pid, Names table line pid → pid ∈ reaped.destroyed := by
  refine foldlM_reaches
    (fun line reaping => ∀ pid, Names table line pid → pid ∈ reaping.destroyed)
    (fun line _ before other reached pid names =>
      reapLine_destroyed before line (reached pid names))
    (fun line _ before after taken => ?_) reaping reaped ended
  intro pid names
  obtain ⟨none, -⟩ | ⟨-, thrown⟩ | ⟨victim, killed, -, -, unique, done⟩ :=
    reapLine_cases table before line
  · exact absurd names (none pid)
  · cases thrown.symm.trans taken
  · obtain rfl := Except.ok.inj (done.symm.trans taken)
    rw [unique pid names]
    exact List.mem_append_right _ List.mem_cons_self

/-- What was settled stays settled, whichever file is reaped. -/
theorem reapFile_settled {file other : RecordFile} (named : recordSuffix <:+ file.name)
    (reaping : Reaping) (settled : Settled table other reaping) :
    Settled table other (done (reapFile table reaping file)) := by
  obtain ⟨-, skipped⟩ | ⟨lines, -, run⟩ := reapFile_cases table reaping file named
  · rwa [skipped]
  have keeps : ∀ line ∈ lines, ∀ before, Settled table other before →
      Settled table other (done (reapLine table before line)) := by
    intro line _ before settled
    refine ⟨fun others orphaned entry member pid names => ?_, fun others orphaned => ?_⟩
    · exact reapLine_destroyed before line
        (settled.destroyed others orphaned entry member pid names)
    · rw [reapLine_deleted]
      exact settled.deleted others orphaned
  have kept := foldlM_keeps (Settled table other) keeps reaping settled
  obtain ⟨stopped, ended, outcome⟩ | ⟨reaped, ended, outcome⟩ := run
  · rw [ended] at kept
    rwa [outcome]
  · rw [ended] at kept
    rw [outcome]
    exact ⟨kept.destroyed, fun others orphaned =>
      List.mem_append_left _ (kept.deleted others orphaned)⟩

/-- A file that was reaped to the end is settled. -/
theorem reapFile_settles {file : RecordFile} (named : recordSuffix <:+ file.name)
    {reaping after : Reaping} (taken : reapFile table reaping file = .ok after) :
    Settled table file after := by
  obtain ⟨none, -⟩ | ⟨lines, orphaned, run⟩ := reapFile_cases table reaping file named
  · exact ⟨fun lines orphaned => absurd orphaned (none lines),
      fun lines orphaned => absurd orphaned (none lines)⟩
  obtain ⟨stopped, -, outcome⟩ | ⟨reaped, ended, outcome⟩ := run
  · cases outcome.symm.trans taken
  · obtain rfl := Except.ok.inj (outcome.symm.trans taken)
    refine ⟨fun others again line member pid names => ?_,
      fun _ _ => List.mem_append_right _ List.mem_cons_self⟩
    obtain rfl := Option.some.inj (orphaned.readable.symm.trans again.readable)
    exact reapLines_destroyed ended line member pid names

/-- Only a record of the calling process makes a file throw. -/
theorem reapFile_returns {file : RecordFile} (present : file ∈ files)
    (named : recordSuffix <:+ file.name) (absent : ¬Recorded table files table.current)
    (reaping : Reaping) : ∃ after, reapFile table reaping file = .ok after := by
  obtain ⟨-, skipped⟩ | ⟨lines, orphaned, run⟩ := reapFile_cases table reaping file named
  · exact ⟨reaping, skipped⟩
  have returns : ∀ line ∈ lines, ∀ before, ∃ after, reapLine table before line = .ok after := by
    intro line member before
    obtain ⟨-, skipped⟩ | ⟨names, -⟩ | ⟨victim, killed, -, -, -, reaped⟩ :=
      reapLine_cases table before line
    · exact ⟨before, skipped⟩
    · exact absurd ⟨file, present, lines, orphaned, line, member, names⟩ absent
    · exact ⟨_, reaped⟩
  obtain ⟨after, ended⟩ := foldlM_returns returns reaping
  obtain ⟨stopped, thrown, -⟩ | ⟨reaped, -, outcome⟩ := run
  · cases ended.symm.trans thrown
  · exact ⟨_, outcome⟩

theorem reapOrphans_justified (directory : Option (List RecordFile)) :
    Justified table (directory.getD []) (done (reapOrphans table directory)) := by
  have nothing : ∀ files, Justified table files ⟨[], 0, []⟩ := fun files =>
    ⟨fun _ member => absurd member List.not_mem_nil, fun _ member => absurd member List.not_mem_nil⟩
  cases directory with
  | none => exact nothing []
  | some files =>
      refine foldlM_keeps (Justified table files) (fun file listed before kept => ?_) _
        (nothing files)
      obtain ⟨present, named⟩ := List.mem_filter.mp listed
      exact reapFile_justified present (List.isSuffixOf_iff_suffix.mp named) before kept

theorem reapOrphans_settles {directory : Option (List RecordFile)} {reaping : Reaping}
    (returned : reapOrphans table directory = .ok reaping) {file : RecordFile}
    (present : file ∈ directory.getD []) (named : recordSuffix <:+ file.name) :
    Settled table file reaping := by
  cases directory with
  | none => exact absurd present List.not_mem_nil
  | some files =>
      refine foldlM_reaches (Settled table) (fun other listed before file settled => ?_)
        (fun other listed before after taken => ?_) _ reaping returned file
        (List.mem_filter.mpr ⟨present, List.isSuffixOf_iff_suffix.mpr named⟩)
      · exact reapFile_settled (List.isSuffixOf_iff_suffix.mp (List.mem_filter.mp listed).2)
          before settled
      · exact reapFile_settles (List.isSuffixOf_iff_suffix.mp (List.mem_filter.mp listed).2) taken

theorem reapOrphans_returns (directory : Option (List RecordFile))
    (absent : ¬Recorded table (directory.getD []) table.current) :
    ∃ reaping, reapOrphans table directory = .ok reaping := by
  cases directory with
  | none => exact ⟨_, rfl⟩
  | some files =>
      refine foldlM_returns (fun file listed before => ?_) _
      obtain ⟨present, named⟩ := List.mem_filter.mp listed
      exact reapFile_returns present (List.isSuffixOf_iff_suffix.mp named) absent before

end Runs

/-! ## Written by a JVM, read by another -/

/-- Whether a live process is the JVM itself, its start time known. -/
def Running (table : ProcessTable) (owner : OwnerKey) : Prop :=
  ∃ process, table.of owner.pid = some process ∧ process.isAlive = true ∧
    process.startMillis = some owner.startMillis

/-- Whether the start time of every live process is known. -/
def StartsKnown (table : ProcessTable) : Prop :=
  ∀ pid process, table.of pid = some process → process.isAlive = true →
    process.startMillis ≠ none

/-- A file that a JVM wrote is a dead JVM's file once the JVM is gone. -/
theorem orphaned_of_gone {table : ProcessTable} {owner : OwnerKey} {lines : List (List Char)}
    (known : StartsKnown table) (nonneg : 0 ≤ owner.pid) (started : owner.startMillis ≠ 0)
    (gone : ¬Running table owner) : Orphaned table ⟨owner.fileName, some lines⟩ lines := by
  refine ⟨List.suffix_append _ _, fun own => gone ?_, rfl, owner,
    OwnerKey.parse_fileName owner nonneg, ?_⟩
  · -- Only the calling JVM has its name.
    have read := OwnerKey.parse_fileName owner nonneg
    have same : owner.fileName = (OwnerKey.current table).fileName := own
    rw [same, OwnerKey.parse_fileName _ table.current_nonneg] at read
    obtain rfl := Option.some.inj read
    obtain ⟨startMillis, start⟩ := Option.ne_none_iff_exists'.mp
      (known _ _ table.current_of table.current_isAlive)
    refine ⟨table.self, table.current_of, table.current_isAlive, ?_⟩
    rw [OwnerKey.current, start, Option.getD_some]
  · rintro ⟨process, found, alive, unknown | unset | same⟩
    · exact known _ _ found alive unknown
    · exact started unset
    · exact gone ⟨process, found, alive, same⟩

/-- What a call does to the processes and to the files. -/
structure Reaps (table : ProcessTable) (files : List RecordFile)
    (outcome : Except Reaping Reaping) : Prop where
  justified : Justified table files (done outcome)
  destroyed : ∀ reaping, outcome = .ok reaping → ∀ pid, Recorded table files pid →
    pid ∈ reaping.destroyed
  deleted : ∀ reaping, outcome = .ok reaping → ∀ file ∈ files, ∀ lines,
    Orphaned table file lines → file.name ∈ reaping.deleted
  returns : ¬Recorded table files table.current → ∃ reaping, outcome = .ok reaping
  owner : ∀ owner : OwnerKey, 0 ≤ owner.pid → OwnerKey.parse owner.fileName = some owner
  record : ∀ record : ProcessRecord, ProcessRecord.parse record.serialize = some record
  gone : ∀ reaping, outcome = .ok reaping → StartsKnown table → ∀ (owner : OwnerKey) lines,
    0 ≤ owner.pid → owner.startMillis ≠ 0 → ¬Running table owner →
      (⟨owner.fileName, some lines⟩ : RecordFile) ∈ files → ∀ record : ProcessRecord,
        record.serialize ∈ lines → record.startMillis ≠ 0 →
          Running table ⟨record.pid, record.startMillis⟩ → record.pid ∈ reaping.destroyed
  spared : ∀ pid process startMillis, table.of pid = some process →
    process.startMillis = some startMillis →
      (∀ file ∈ files, ∀ lines, file.lines = some lines → ∀ line ∈ lines,
        ProcessRecord.parse line = some ⟨pid, startMillis⟩ →
          ∃ owner : OwnerKey, 0 ≤ owner.pid ∧ file.name = owner.fileName ∧ Running table owner) →
        pid ∉ (done outcome).destroyed

/-- A table with the calling process and another one. -/
def twoProcesses : ProcessTable where
  of pid :=
    if pid = 1 then some ⟨true, some 5⟩ else if pid = 2 then some ⟨true, some 7⟩ else none
  current := 1
  self := ⟨true, some 5⟩
  current_of := rfl
  current_isAlive := rfl
  current_nonneg := by decide
  destroyable _ := true

/-- A dead JVM's file that records both of them. -/
def bothRecorded : RecordFile where
  name := "9-1.pids".toList
  lines := some ["1 5".toList, "2 7".toList]

/-- The exception at the calling process leaves the records after it alive. -/
theorem caller_stops_the_sweep :
    ¬∀ pid, pid ∈ (done (reapOrphans twoProcesses (some [bothRecorded]))).destroyed ↔
      Recorded twoProcesses [bothRecorded] pid := by
  intro iff
  have orphaned : Orphaned twoProcesses bothRecorded ["1 5".toList, "2 7".toList] := by
    refine ⟨by decide, by decide +kernel, rfl, ⟨9, 1⟩, by decide +kernel, ?_⟩
    rintro ⟨process, found, -⟩
    cases found
  have recorded : Recorded twoProcesses [bothRecorded] 2 :=
    ⟨bothRecorded, List.mem_cons_self, _, orphaned, "2 7".toList, by decide, ⟨2, 7⟩,
      ⟨true, some 7⟩, by decide +kernel, rfl, by decide, rfl, rfl, rfl⟩
  have spared : (done (reapOrphans twoProcesses (some [bothRecorded]))).destroyed = [] := by
    decide +kernel
  have destroyed := (iff 2).mpr recorded
  rw [spared] at destroyed
  exact List.not_mem_nil destroyed

/-- Orphans are reaped, and nothing else. -/
theorem orphans_are_reaped (table : ProcessTable) (directory : Option (List RecordFile)) :
    Reaps table (directory.getD []) (reapOrphans table directory) := by
  have justified : Justified table (directory.getD []) (done (reapOrphans table directory)) :=
    reapOrphans_justified directory
  have destroyed : ∀ reaping, reapOrphans table directory = .ok reaping → ∀ pid,
      Recorded table (directory.getD []) pid → pid ∈ reaping.destroyed := by
    intro reaping returned pid recorded
    obtain ⟨file, present, lines, orphaned, line, member, names⟩ := recorded
    exact (reapOrphans_settles returned present orphaned.named).destroyed lines orphaned line
      member pid names
  refine ⟨justified, destroyed, ?_, reapOrphans_returns directory, OwnerKey.parse_fileName,
    ProcessRecord.parse_serialize, ?_, ?_⟩
  · intro reaping returned file present lines orphaned
    exact (reapOrphans_settles returned present orphaned.named).deleted lines orphaned
  · intro reaping returned known owner lines nonneg started gone present record member nonzero
      running
    obtain ⟨process, found, alive, start⟩ := running
    exact destroyed reaping returned record.pid ⟨_, present, lines,
      orphaned_of_gone known nonneg started gone, record.serialize, member, record, process,
      ProcessRecord.parse_serialize record, rfl, nonzero, found, alive, start⟩
  · intro pid process startMillis found start living victim
    obtain ⟨⟨file, present, lines, orphaned, line, member, record, other, read, rfl, -, found',
      -, start'⟩, -⟩ := justified.destroyed pid victim
    obtain rfl := Option.some.inj (found.symm.trans found')
    obtain rfl := Option.some.inj (start.symm.trans start')
    obtain ⟨owner, nonneg, named, process, found, alive, same⟩ :=
      living file present lines orphaned.readable line member read
    obtain ⟨other, read, dead⟩ := orphaned.dead
    rw [named, OwnerKey.parse_fileName owner nonneg] at read
    obtain rfl := Option.some.inj read
    exact dead ⟨process, found, alive, .inr (.inr same)⟩

end KtBridge.Registry
