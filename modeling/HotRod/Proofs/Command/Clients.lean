import HotRod.Command.Clients
import HotRod.Proofs.Command.Describe
import HotRod.Proofs.Server.Frame
set_option autoImplicit false

/-!
# Listings tell passwords

A listing shows the URI of a section as it stands there, so it tells the password in it. A description
does not, unless the URI is refused: the error quotes it, and its password with it.
-/

namespace HotRod

open HotRod.Action

namespace ClientsSettings
variable {settings : ClientsSettings} {client : String} {runtime runtime' : RuntimeSection}

theorem names_setRuntime :
    (settings.setRuntime client runtime).names = (settings.setRuntime client runtime').names := by
  refine Std.ExtTreeSet.ext_mem fun name => ?_
  rw [mem_names, mem_names]
  simp [setRuntime]

theorem mem_names_setRuntime : client ∈ (settings.setRuntime client runtime).names :=
  mem_names.mpr (.inr Std.ExtTreeMap.mem_insert_self)

theorem alike_setRuntime {errors : ClientError → ClientError → Prop}
    (reflexive : ∀ error, errors error error) (alike : runtime.Alike errors runtime') (name : String) :
    (settings.setRuntime client runtime).Alike errors name (settings.setRuntime client runtime') where
  names := names_setRuntime
  resolve := rfl
  sections := by
    simp only [setRuntime, KeyMap.getElem?_insert]
    split
    · exact .some alike
    · cases settings.runtime.clients[name]? with
      | none => exact .none
      | some other => exact .some (.refl reflexive other)
  definition := .refl reflexive _

end ClientsSettings

theorem Text.trimEnd_padEnd (width : Nat) (text : String) :
    trimEnd (padEnd width text).toList = trimEnd text.toList := by
  have filling : ∀ c ∈ (List.replicate (width - text.length) ' ').reverse, isBlank c = true := by
    simp only [List.reverse_replicate, List.mem_replicate]
    rintro _ ⟨-, rfl⟩
    decide
  rw [padEnd, String.toList_append, String.toList_ofList, trimEnd, List.reverse_append,
    List.dropWhile_append_of_pos filling]
  rfl

namespace UriFrame
variable (frame : UriFrame) {password other : EscapedPassword}

/-- A column that shows a URI tells its password. -/
theorem eq_of_padEnd_eq {width : Nat}
    (same : Text.padEnd width (frame.text password) = Text.padEnd width (frame.text other)) :
    password.chars = other.chars := by
  have sign (password : EscapedPassword) : Text.trimEnd (frame.text password).toList =
      frame.before ++ password.chars ++ '@' :: Text.trimEnd frame.after := by
    rw [text, String.toList_ofList]
    exact Text.trimEnd_append_cons (by decide) _ _
  have shown := congrArg (fun column => Text.trimEnd column.toList) same
  simp only [Text.trimEnd_padEnd, sign] at shown
  exact List.append_cancel_left (List.append_cancel_right shown)

/-- Errors that are the same, or that quote the URI with either password because it is refused. -/
def QuotedIn (password other : EscapedPassword) (error error' : ClientError) : Prop :=
  error = error' ∨ ∃ fault, HotRodUri.read (frame.text password).toList = .error fault ∧
    error = .invalidUri (frame.text password) fault ∧ error' = .invalidUri (frame.text other) fault

theorem readAlike_text (password other : EscapedPassword) :
    HotRodUri.ReadAlike (frame.QuotedIn password other) (frame.text password) (frame.text other) := by
  have read := read_text frame password
  have read' := read_text frame other
  unfold HotRodUri.ReadAlike HotRodUri.parse
  rw [read, read']
  cases reading : frame.trimmed.reading with
  | error fault => exact .inr ⟨fault, by rw [read, reading]; rfl, rfl, rfl⟩
  | ok uri =>
    change HotRodUri.hidden _ = HotRodUri.hidden _
    rfl

theorem alike_section (runtime : RuntimeSection) (password other : EscapedPassword) :
    RuntimeSection.Alike (frame.QuotedIn password other)
      { runtime with uri := some (frame.text password) }
      { runtime with uri := some (frame.text other) } := by
  refine ⟨rfl, fun text text' named named' => ?_⟩
  obtain rfl := Option.some.inj named
  obtain rfl := Option.some.inj named'
  exact frame.readAlike_text password other

end UriFrame

namespace Command
variable {settings settings' : ClientsSettings} {client : String}

theorem clientsReport_of_mem (listed : client ∈ settings.names) :
    clientsReport settings = String.join (settings.names.toList.map (clientLine settings)) := by
  unfold clientsReport
  cases names : settings.names.toList with
  | nil =>
    rw [← Std.ExtTreeSet.mem_toList, names] at listed
    contradiction
  | cons first rest => rfl

theorem clientLine_eq_of_clientsReport_eq (names : settings.names = settings'.names)
    (listed : client ∈ settings.names)
    (others : ∀ name, name ≠ client → clientLine settings name = clientLine settings' name)
    (same : clientsReport settings = clientsReport settings') :
    clientLine settings client = clientLine settings' client := by
  rw [clientsReport_of_mem listed, clientsReport_of_mem (names ▸ listed), ← names] at same
  have distinct : settings.names.toList.Pairwise (· ≠ ·) :=
    Std.ExtTreeSet.distinct_toList.imp fun apart => mt Std.LawfulEqCmp.compare_eq_iff_eq.mpr apart
  obtain ⟨before, after, parted⟩ := List.append_of_mem (Std.ExtTreeSet.mem_toList.mpr listed)
  rw [parted] at same distinct
  rw [List.pairwise_append, List.pairwise_cons] at distinct
  have front : before.map (clientLine settings) = before.map (clientLine settings') :=
    List.map_congr_left fun name member =>
      others name (distinct.2.2 name member client List.mem_cons_self)
  have back : after.map (clientLine settings) = after.map (clientLine settings') :=
    List.map_congr_left fun name member => others name (distinct.2.1.1 name member).symm
  rw [List.map_append, List.map_cons, List.map_append, List.map_cons, front, back] at same
  simpa using same

theorem clientLine_setRuntime (settings : ClientsSettings) (client : String) (runtime : RuntimeSection) :
    ∃ front back, ∀ uri, clientLine
      (settings.setRuntime client { runtime with uri := some uri }) client =
        front ++ Text.padEnd 32 uri ++ back := by
  refine ⟨Text.padEnd 24 client ++ " servers: ", " properties: " ++
    Text.padEnd 3 (Nat.repr (settings.definitionOf client).properties.size) ++ " caches: " ++
    Nat.repr runtime.caches.size ++ "\n", fun uri => ?_⟩
  have found : (settings.setRuntime client { runtime with uri := some uri }).runtimeOf client =
      some { runtime with uri := some uri } := by
    simp [ClientsSettings.runtimeOf, ClientsSettings.setRuntime]
  simp only [clientLine, found, String.append_assoc]
  rfl

theorem clientLine_setRuntime_of_ne {name : String} (different : name ≠ client)
    (runtime runtime' : RuntimeSection) :
    clientLine (settings.setRuntime client runtime) name =
      clientLine (settings.setRuntime client runtime') name := by
  have found (runtime : RuntimeSection) : (settings.setRuntime client runtime).runtimeOf name =
      settings.runtimeOf name := by
    rw [ClientsSettings.runtimeOf, ClientsSettings.setRuntime, KeyMap.getElem?_insert,
      if_neg different.symm]
    rfl
  simp only [clientLine, found]
  rfl

theorem eq_of_clientsReport_eq {runtime : RuntimeSection} {frame : UriFrame}
    {password other : EscapedPassword}
    (same : clientsReport (settings.setRuntime client
        { runtime with uri := some (frame.text password) }) =
      clientsReport (settings.setRuntime client { runtime with uri := some (frame.text other) })) :
    password.chars = other.chars := by
  obtain ⟨front, back, shown⟩ := clientLine_setRuntime settings client runtime
  have line := clientLine_eq_of_clientsReport_eq ClientsSettings.names_setRuntime
    ClientsSettings.mem_names_setRuntime (fun _ different => clientLine_setRuntime_of_ne different _ _)
    same
  rw [shown, shown, String.append_left_inj, String.append_right_inj] at line
  exact frame.eq_of_padEnd_eq line

/-- Run from one state, descriptions with either password are the same, or both fail and quote the
URI. -/
theorem describe_eq_or_quotes {σ : Type} (files : Files) {runtime : RuntimeSection} {frame : UriFrame}
    {password other : EscapedPassword} (client? : Option String) (json : Bool) (state : σ) :
    let described (given : EscapedPassword) := (describe files (settings.setRuntime client
      { runtime with uri := some (frame.text given) }) client? json).run state
    described password = described other ∨ ∃ finish events fault,
      HotRodUri.read (frame.text password).toList = .error fault ∧
      ∀ given ∈ [password, other], described given =
        ⟨finish, events, .error (.client (.invalidUri (frame.text given) fault))⟩ := by
  intro described
  have alike := frame.alike_section runtime password other
  have reflexive (error : ClientError) : frame.QuotedIn password other error error := .inl rfl
  have settings_alike := @ClientsSettings.alike_setRuntime settings client _ _ _ reflexive alike
    (clientNamed client?)
  have mirrors := @mirrors_describe σ _ reflexive files _ _ client? settings_alike json
  rcases (mirrors state state rfl).eq_or_errors with
    same | ⟨finish, events, error, error', alike, left, right⟩
  · exact .inl same
  · rcases alike with rfl | ⟨cause, cause', rfl | ⟨fault, refused, rfl, rfl⟩, rfl, rfl⟩
    · exact .inl (left.trans right.symm)
    · exact .inl (left.trans right.symm)
    · refine .inr ⟨finish, events, fault, refused, ?_⟩
      simpa using ⟨left, right⟩

/-- Of settings that differ in the password of one URI the listings are the same only where the passwords
are. The descriptions are the same for every client, but for errors that quote a URI which is refused. -/
theorem uri_password_is_listed {σ : Type} (settings : ClientsSettings) (client : String)
    (runtime : RuntimeSection) (frame : UriFrame) (password other : EscapedPassword) :
    let given (password : EscapedPassword) :=
      settings.setRuntime client { runtime with uri := some (frame.text password) }
    (clientsReport (given password) = clientsReport (given other) ↔ password.chars = other.chars) ∧
      ∀ (files : Files) (client? : Option String) (json : Bool) (state : σ),
        let described (password : EscapedPassword) :=
          (describe files (given password) client? json).run state
        described password = described other ∨ ∃ finish events fault,
          HotRodUri.read (frame.text password).toList = .error fault ∧
          ∀ given ∈ [password, other], described given =
            ⟨finish, events, .error (.client (.invalidUri (frame.text given) fault))⟩ := by
  refine ⟨⟨eq_of_clientsReport_eq, fun same => ?_⟩, fun files client? json state => ?_⟩
  · have text : frame.text password = frame.text other := by
      rw [UriFrame.text, UriFrame.chars, same]
      rfl
    simp only [text]
  · exact describe_eq_or_quotes files client? json state

def userFrame (host : String) (uncut : '@' ∉ host.toList ∧ '?' ∉ host.toList) : UriFrame where
  scheme := "hotrod".toList
  user := "user".toList
  hosts := host.toList
  query? := none
  scheme_uncut := by decide
  user_uncut := by decide
  hosts_uncut := uncut

def passwordOne : EscapedPassword := ⟨"one".toList, "one", by decide +kernel, by decide⟩

def passwordTwo : EscapedPassword := ⟨"two".toList, "two", by decide +kernel, by decide⟩

def userSettings (frame : UriFrame) (password : EscapedPassword) : ClientsSettings :=
  ({} : ClientsSettings).setRuntime "c" { uri := some (frame.text password) }

/-- A listing shows the password of a URI, and the error of a description does if the URI is refused. -/
theorem uri_password_is_shown :
    clientsReport (userSettings (userFrame "h:1" (by decide)) passwordOne) =
        "c                        servers: hotrod://user:one@h:1            " ++
          "properties: 0   caches: 0\n" ∧
      clientsReport (userSettings (userFrame "h:1" (by decide)) passwordOne) ≠
        clientsReport (userSettings (userFrame "h:1" (by decide)) passwordTwo) ∧
      ((describe .missing (userSettings (userFrame "" (by decide)) passwordOne) (some "c") false :
        Action Unit _ _).run ()).result ≠
      ((describe .missing (userSettings (userFrame "" (by decide)) passwordTwo) (some "c") false :
        Action Unit _ _).run ()).result := by
  refine ⟨?_, ?_, ?_⟩ <;> decide +kernel

end Command

end HotRod
