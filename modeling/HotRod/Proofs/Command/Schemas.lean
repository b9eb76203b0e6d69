import HotRod.Command.Program
import HotRod.Proofs.Action.Ends
import HotRod.Proofs.Network.Holdings
import HotRod.Proofs.Registry.Description
import HotRod.Proofs.Registry.Resolution
import HotRod.Proofs.Schema.Agreement
import HotRod.Proofs.Settings.Values
import Mathlib.Data.List.Forall2
set_option autoImplicit false

/-!
# Counts of schema files

Schema files are counted in three places: where a marshaller learned them, where they are listed to be
written to the server, and on the server once a client was started. Each place has every name once, and
all have the same names, so that the counts are the same.
-/

namespace HotRod

open HotRod.Action

namespace Host
variable {files : Files} {client : String} {host : Host}

def opened (settings : ClientsSettings) : Host where
  registry := { settings }

theorem inOrder_opened (settings : ClientsSettings) : (opened settings).InOrder where
  recorded := Cluster.recorded_empty
  settled closed := by contradiction

theorem live_of_manager {settings : ClientsSettings} {id : ManagerId}
    (given : ((manager files client).run (opened settings)).result = .ok (some id)) :
    ((manager files client).run (opened settings)).state.Live client id ∧
      ∃ assembly, settings.assembled files (canonicalName client) = .ok assembly ∧
        ((manager files client).run (opened settings)).state.network.cluster.contents metadataCache =
          KeyMap.extend ∅ ((if settings.runtime.registersSchemas then assembly.schemaFiles else []).map
            fun (name, text) => (name, text.toUTF8)) := by
  have missing : (opened settings).registry.live[canonicalName client]? = none :=
    Std.ExtTreeMap.getElem?_empty
  obtain ⟨plan, written, planned, taken, rfl, left⟩ := exists_launched missing given
  obtain ⟨assembly, assembled, -, -, same⟩ := exists_assembled_of_plan? planned
  rw [left]
  refine ⟨⟨Std.ExtTreeMap.getElem?_insert_self, rfl⟩, assembly, assembled, ?_⟩
  let connected := ({} : Network).countAttempt.addManager plan.configuration
  have taken' : connected.cluster.takeSchemas _ = .ok written := taken
  have new : connected.cluster.contents metadataCache = ∅ :=
    congrArg CacheStore.entries (Cluster.store_new metadataCache)
  have contents := Network.contents_of_takeSchemas taken'
  rw [new, Plan.filesToWrite, same] at contents
  exact contents

theorem contents_of_remoteCache {id : ManagerId} (order : host.InOrder) (live : host.Live client id)
    (files : Files) (cache? : Option String) :
    ((remoteCache files client cache?).run host).state.network.cluster.contents metadataCache =
      host.network.cluster.contents metadataCache := by
  have provides : host.Provides id cache? ((remoteCache files client cache?).run host) :=
    provides_remoteCache order live cache?
  have kept := provides.kept metadataCache order.recorded.metadata
  rw [Cluster.contents, Cluster.store, kept]
  rfl

end Host

namespace Command
variable {σ : Type} {files : Files} {settings : ClientsSettings} {client : String}
  {client? cache? : Option String} {directory : String} {report : CheckReport}

theorem keeps_fromDirectory (files : Files) (directory : String) :
    (SchemaSource.fromDirectory files directory : Action σ FileFault SchemaSource).Keeps id := by
  apply Keeps.bind
  · intro state
    rw [run_ofExcept]
  · intro source
    apply (keeps_emit _).bind
    intro _
    exact keeps_pure source

theorem exists_source_of_attachSchemas {attached : ClientsSettings}
    (done : (attachSchemas files client directory).Completes settings () attached) :
    ∃ source, attached = attachSource client source settings := by
  unfold attachSchemas at done
  by_cases there : files.isDirectory directory = true
  · rw [if_pos there] at done
    obtain ⟨source, middle, read, attaches⟩ := completes_bind.mp done
    refine ⟨source, ?_⟩
    have same : middle = settings := by
      rw [← read.2]
      exact keeps_fromDirectory files directory settings
    rw [← completes_modify.mp attaches, same]
  · rw [if_neg there] at done
    exact absurd done completes_fail

theorem result_tryClient {host : Host}
    (tried : ((tryClient files client cache?).run host).result = .ok report) :
    ((startClient files client cache?).run host).result = .ok report := by
  obtain ⟨result, middle, attempted, rest⟩ := completes_bind.mp (completes_of_result tried)
  obtain ⟨_, _, -, given⟩ := completes_bind.mp rest
  obtain ⟨rfl, -⟩ := completes_ofExcept.mp given
  exact Except.ok.inj attempted.1

theorem exists_started_of_check {state : σ} (checked : ((check files settings client? cache?
      (some directory) : Action σ CommandError CheckReport).run state).result = .ok report) :
    ∃ attached, (attachSchemas files (clientNamed client?) directory).Completes settings () attached ∧
      ((startClient files (clientNamed client?) cache?).run (Host.opened attached)).result =
        .ok report := by
  have within : ((checkIn files (clientNamed client?) cache? (some directory)).run settings).result =
      .ok report := checked
  obtain ⟨attached, attaches, rest⟩ := completes_then.mp (completes_of_result within)
  obtain ⟨registry, middle, opens, tries⟩ := completes_bind.mp (completes_get_bind.mp rest)
  obtain ⟨_, emitted, made⟩ := completes_then.mp opens
  obtain ⟨rfl, -⟩ := completes_pure.mp made
  exact ⟨attached, attaches, result_tryClient (mapError_eq_ok_iff.mp tries.1)⟩

/-- A client that was started has its schema files on the server, if they are registered there. -/
theorem schemaFiles_of_startClient
    (ran : ((startClient files client cache?).run (Host.opened settings)).result = .ok report)
    (started : report.servers.isSome) :
    ∃ assembly, settings.assembled files (canonicalName client) = .ok assembly ∧
      report.schemaFiles =
        if settings.runtime.registersSchemas then assembly.schemaFiles.length else 0 := by
  obtain ⟨id?, middle, looked, rest⟩ := completes_bind.mp (completes_of_result ran)
  cases id? with
  | none =>
    obtain ⟨rfl, -⟩ := completes_pure.mp rest
    contradiction
  | some id =>
    obtain ⟨handle, left, provided, rest⟩ := completes_bind.mp rest
    have made := completes_get_bind.mp rest
    obtain ⟨same, -⟩ := completes_pure.mp made
    obtain ⟨live, assembly, assembled, contents⟩ := Host.live_of_manager looked.1
    have order := Host.preserves_inOrder_manager files client _ (Host.inOrder_opened settings)
    rw [looked.2] at live contents order
    have kept := Host.contents_of_remoteCache order live files cache?
    rw [provided.2, contents] at kept
    refine ⟨assembly, assembled, ?_⟩
    have size : report.schemaFiles = (left.network.cluster.contents metadataCache).size :=
      (congrArg CheckReport.schemaFiles same).symm
    rw [size, kept]
    by_cases registers : settings.runtime.registersSchemas = true
    · have distinct : ((assembly.schemaFiles.map fun (name, text) =>
          (name, text.toUTF8)).map Prod.fst).Nodup := by
        rw [List.map_map]
        exact ClientDefinition.nodup_schemaFiles_of_assemble (completes_of_result assembled)
      rw [if_pos registers, if_pos registers, KeyMap.size_extend_empty distinct, List.length_map]
    · rw [if_neg registers, if_neg registers]
      rfl

theorem context?_attachSource (client : String) (source : SchemaSource) (settings : ClientsSettings) :
    ((attachSource client source settings).definitionOf client).context? = some {} := by
  rw [attachSource, ClientsSettings.definitionOf_setDefinition, if_pos rfl]
  rfl

theorem learnedFiles_of_assembled {source : SchemaSource} {assembly : Assembly}
    (assembled : (attachSource client source settings).assembled files client = .ok assembly) :
    learnedFiles ((ClientsSettings.assemble files client).run
      (attachSource client source settings)).state client = assembly.schemaFiles.length := by
  let attached := attachSource client source settings
  let finish := ((ClientDefinition.assemble files attached.runtime client).run
    (attached.definitionOf client)).state
  have left : ((ClientsSettings.assemble files client).run attached).state =
      attached.setDefinition client finish := by
    have there : attached.definitions.contains client = true :=
      Std.ExtTreeMap.contains_insert_self
    change attached.returnDefinition client finish = _
    rw [ClientsSettings.returnDefinition, if_pos there]
  rw [left, learnedFiles, ClientsSettings.definitionOf_setDefinition, if_pos rfl]
  exact ClientDefinition.size_learned_of_assemble (context?_attachSource client source settings) rfl
    (completes_of_result assembled)

theorem result_reportSchemas {source : SchemaSource} {assembly : Assembly}
    (attaches : (attachSchemas files client directory).Completes settings ()
      (attachSource client source settings))
    (assembled : (attachSource client source settings).assembled files client = .ok assembly) :
    ((reportSchemas files client directory).run settings).result =
      .ok ⟨client, assembly.schemaFiles.length, settings.runtime.registersSchemas,
        assembly.schemaFiles⟩ := by
  let attached := attachSource client source settings
  let left := ((ClientsSettings.assemble files client).run attached).state
  have made : ((ClientsSettings.assemble files client).mapError CommandError.client).Completes attached
      assembly left := ⟨mapError_eq_ok_iff.mpr assembled, rfl⟩
  have fresh : left.fresh = attached.fresh := ClientsSettings.keeps_assemble files client attached
  have runtime : left.runtime = settings.runtime := congrArg (·.runtime) fresh
  have completes : (reportSchemas files client directory).Completes settings
      ⟨client, learnedFiles left client, left.runtime.registersSchemas, assembly.schemaFiles⟩ left := by
    apply completes_then.mpr
    refine ⟨attached, attaches, completes_bind.mpr ⟨assembly, left, made, ?_⟩⟩
    apply completes_get_bind.mpr
    exact completes_pure.mpr ⟨rfl, rfl⟩
  rw [completes.1, learnedFiles_of_assembled assembled, runtime]

/-- A line shows a file by its name and its size. -/
def ShowsFile (file : String × String) (line : String) : Prop :=
  ∃ blanks : String, (∀ c ∈ blanks.toList, c = ' ') ∧
    line = "  " ++ file.1 ++ blanks ++ Nat.repr file.2.utf8ByteSize ++ " bytes\n"

/-- A text shows a report: the number of files that the marshaller knows, and below it one line for
each file that is listed. -/
def SchemasReport.ShownBy (report : SchemasReport) (text : String) : Prop :=
  ∃ lines, List.Forall₂ ShowsFile report.schemaFiles lines ∧
    text = "Client " ++ report.client ++ ": " ++ Nat.repr report.learned ++
      " schema files registered with the marshaller\n" ++
      (if report.schemaFiles = [] then "Nothing to push.\n"
        else if report.pushed then "Files pushed to the server on connect:\n"
        else "Schema registration is disabled; files that would be pushed:\n") ++ String.join lines

/-- A text shows the number of schema files on the server. -/
def CheckReport.ShownBy (report : CheckReport) (text : String) : Prop :=
  ∃ before after, text = before ++ "\n  Schema files on server: " ++ Nat.repr report.schemaFiles ++
    "\n" ++ after

theorem showsFile_schemaLine (file : String × String) : ShowsFile file (schemaLine file) := by
  let wide := List.replicate (40 - file.1.length) ' '
  let narrow := List.replicate (8 - (Nat.repr file.2.utf8ByteSize).length) ' '
  refine ⟨.ofList wide ++ " " ++ .ofList narrow, ?_, ?_⟩
  · intro c member
    simp only [String.toList_append, String.toList_ofList, List.mem_append] at member
    rcases member with (member | member) | member
    · exact List.eq_of_mem_replicate member
    · exact List.mem_singleton.mp member
    · exact List.eq_of_mem_replicate member
  · simp only [schemaLine, Text.padEnd, Text.padStart, String.append_assoc, wide, narrow]

theorem SchemasReport.shownBy_text (report : SchemasReport) : report.ShownBy report.text := by
  refine ⟨report.schemaFiles.map schemaLine, ?_, ?_⟩
  · rw [List.forall₂_map_right_iff]
    exact List.forall₂_same.mpr fun file _ => showsFile_schemaLine file
  · simp only [text, countLine, titleLine, List.isEmpty_iff]

theorem CheckReport.shownBy_text (started : report.servers.isSome) : report.ShownBy report.text := by
  obtain ⟨servers, named⟩ := Option.isSome_iff_exists.mp started
  have shown : ∃ after, report.text = "Client " ++ report.client ++ ": configuration accepted for " ++
      servers ++ " (in-process check, no network connection)\n" ++
      "  Schema files on server: " ++ Nat.repr report.schemaFiles ++ "\n" ++ after := by
    unfold text
    rw [named]
    exact ⟨_, rfl⟩
  obtain ⟨after, same⟩ := shown
  refine ⟨"Client " ++ report.client ++ ": configuration accepted for " ++ servers ++
    " (in-process check, no network connection)", after, ?_⟩
  rw [same]
  simp only [String.append_assoc]
  rfl

/-- If a check with a directory starts the client, schemas with that directory are listed: as many files
are registered with the marshaller as are listed, each name once, and on the server there were as many,
or none where registration is disabled. Both commands show these numbers, and every file has a line. -/
theorem schemas_listed_of_check {state : σ} (checked : ((check files settings client? cache?
      (some directory) : Action σ CommandError CheckReport).run state).result = .ok report)
    (started : report.servers.isSome) :
    ∃ listed : SchemasReport,
      (∀ {τ : Type} (state : τ), ((schemas files settings client? directory :
        Action τ CommandError SchemasReport).run state).result = .ok listed) ∧
      listed.client = clientNamed client? ∧ listed.pushed = settings.runtime.registersSchemas ∧
      listed.learned = listed.schemaFiles.length ∧ (listed.schemaFiles.map Prod.fst).Nodup ∧
      report.schemaFiles = (if settings.runtime.registersSchemas then listed.learned else 0) ∧
      (∃ text, ((perform files settings (.schemas client? directory) :
        Action σ CommandError String).run state).result = .ok text ∧ listed.ShownBy text) ∧
      ∃ text, ((perform files settings (.check client? cache? (some directory)) :
        Action σ CommandError String).run state).result = .ok text ∧ report.ShownBy text := by
  obtain ⟨attached, attaches, ran⟩ := exists_started_of_check checked
  obtain ⟨source, rfl⟩ := exists_source_of_attachSchemas attaches
  obtain ⟨assembly, assembled, counted⟩ := schemaFiles_of_startClient ran started
  have canonical : canonicalName (clientNamed client?) = clientNamed client? :=
    canonicalName_canonicalName _
  rw [canonical] at assembled
  have listed {τ : Type} (state : τ) : ((schemas files settings client? directory :
      Action τ CommandError SchemasReport).run state).result = .ok _ :=
    result_reportSchemas attaches assembled
  refine ⟨_, listed, rfl, rfl, rfl, ?_, counted, ?_, ?_⟩
  · exact ClientDefinition.nodup_schemaFiles_of_assemble (completes_of_result assembled)
  · exact ⟨_, (same_bind_of_ok (listed state)).2, SchemasReport.shownBy_text _⟩
  · exact ⟨_, (same_bind_of_ok checked).2, CheckReport.shownBy_text started⟩

def twoSchemas : Files where
  read path :=
    if path = "d/a.proto" then .ok "message A \x7b\x7d"
    else if path = "d/b.proto" then .ok "message B \x7b\x7d"
    else .error .notFound
  isFile path := path == "d/a.proto" || path == "d/b.proto"
  isDirectory path := path == "d"
  list path := if path = "d" then .ok [⟨"a.proto", false⟩, ⟨"b.proto", false⟩] else .error .notFound

def clashingSettings : ClientsSettings where
  runtime := { clients := KeyMap.ofPairs [("c", { hosts := some "server" })] }
  definitions := KeyMap.ofPairs [("c", clashingDefinition)]

/-- Four files are brought under two names, and there are two files in each count. -/
theorem clashing_schemas_are_counted :
    ∃ (report : CheckReport) (listed : SchemasReport),
      ((check twoSchemas clashingSettings (some "c") none (some "d") :
        Action Unit CommandError CheckReport).run ()).result = .ok report ∧
      report.servers.isSome ∧ report.schemaFiles = 2 ∧
      ((schemas twoSchemas clashingSettings (some "c") "d" :
        Action Unit CommandError SchemasReport).run ()).result = .ok listed ∧
      listed.learned = 2 ∧ listed.schemaFiles.length = 2 ∧ (listed.schemaFiles.map Prod.fst).Nodup ∧
      ∃ text, ((perform twoSchemas clashingSettings (.schemas (some "c") "d") :
        Action Unit CommandError String).run ()).result = .ok text ∧ listed.ShownBy text := by
  have facts : ((check twoSchemas clashingSettings (some "c") none (some "d") :
      Action Unit CommandError CheckReport).run ()).result.toOption.map
        (fun report => (report.servers.isSome, report.schemaFiles)) = some (true, 2) := by
    decide +kernel
  obtain ⟨report, given, same⟩ := Option.map_eq_some_iff.mp facts
  obtain ⟨started, count⟩ := Prod.mk.inj same
  have checked := eq_ok_of_toOption given
  have registers : clashingSettings.runtime.registersSchemas = true := rfl
  obtain ⟨listed, reported, -, -, learned, distinct, counted, shown, -⟩ :=
    schemas_listed_of_check checked started
  rw [registers, if_pos rfl, count] at counted
  exact ⟨report, listed, checked, started, count, reported (), counted.symm,
    learned.symm.trans counted.symm, distinct, shown⟩

end Command

end HotRod
